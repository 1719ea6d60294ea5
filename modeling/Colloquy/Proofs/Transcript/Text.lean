import Colloquy.Proofs.Session.Draft

/-!
# Texts of a transcript

Text is collected while a line is scanned and put to the open activity when that changes or the
line ends; what is left over is trimmed in two different ways, when the activity is closed and when
the transcript is finished. `Composed` is what relates the collected text and the open activity to
the lines of its piece. It follows that the text of every activity is the text of its piece
(`texts_ofScript`).
-/

namespace Colloquy

/-! ### Paragraphs -/

namespace Piece

theorem fragment_of_mem_fragments {line : List Token} {part : Text} (h : part ∈ fragments line) :
    Text.Fragment part := by
  obtain ⟨token, -, htoken⟩ := List.mem_filterMap.1 h
  obtain ⟨segment, -, hsegment⟩ := Option.bind_eq_some_iff.1 htoken
  cases segment with
  | command body => cases hsegment
  | dialogue text =>
    rw [Segment.fragment?] at hsegment
    split at hsegment
    · cases hsegment
    · rename_i hne
      rw [← Option.some.inj hsegment]
      exact Text.fragment_trim hne

theorem fragment_of_mem_paragraphs {lines : List (List Token)} {part : Text}
    (h : part ∈ paragraphs lines) : Text.Fragment part := by
  obtain ⟨parts, hparts, rfl⟩ := List.mem_map.1 h
  obtain ⟨hmem, hne⟩ := List.mem_filter.1 hparts
  obtain ⟨line, -, rfl⟩ := List.mem_map.1 hmem
  exact Text.Fragment.join (by simpa using hne) fun part hpart => fragment_of_mem_fragments hpart

theorem paragraphs_append (lines more : List (List Token)) :
    paragraphs (lines ++ more) = paragraphs lines ++ paragraphs more := by
  simp [paragraphs]

theorem paragraphs_singleton (line : List Token) : paragraphs [line] =
    if fragments line = [] then [] else [Text.join [' '] (fragments line)] := by
  rw [paragraphs, List.map_singleton, List.filter_singleton]
  by_cases h : fragments line = [] <;> simp [h]

/-- The text of a piece with a line break behind every paragraph, trimmed. -/
theorem trim_paragraphs (piece : Piece) :
    Text.trim (Text.terminated '\n' (paragraphs piece.lines)) = piece.text :=
  Text.trim_terminated (by decide) fun _ h => fragment_of_mem_paragraphs h

end Piece

namespace Session

variable {scene : Scene} {clock : Time.Clock} {session : Session}

/-! ### Closed and open texts -/

/-- The closed activities have the texts of their pieces, the open one has the full lines of its
piece, and collected is what the last line of the piece says. -/
structure Composed (pieces : List Piece) (session : Session) (pending : List Text) : Prop where
  silent : session.current = none → pieces = [] ∧ session.done = []
  spoken : ∀ activity, session.current = some activity → ∃ before piece full part,
    pieces = before ++ [piece] ∧ session.done.map Activity.text = before.map Piece.text ∧
      piece.lines = full ++ [part] ∧
      activity.text = Text.terminated '\n' (Piece.paragraphs full) ∧
      pending = Piece.fragments part

/-- With an activity open, the last piece is its piece. -/
theorem Composed.last {pieces : List Piece} {piece : Piece} {pending : List Text}
    {activity : Activity} (h : Composed (pieces ++ [piece]) session pending)
    (hcurrent : session.current = some activity) :
    session.done.map Activity.text = pieces.map Piece.text ∧ ∃ full part,
      piece.lines = full ++ [part] ∧
        activity.text = Text.terminated '\n' (Piece.paragraphs full) ∧
        pending = Piece.fragments part := by
  obtain ⟨before, last, full, part, hpieces, hdone, hlast⟩ := h.spoken activity hcurrent
  obtain ⟨rfl, rfl⟩ := List.append_singleton_inj.1 hpieces
  exact ⟨hdone, full, part, hlast⟩

/-- The collected text completes the last line. -/
theorem text_write {activity : Activity} {full : List (List Token)} {part : List Token}
    (htext : activity.text = Text.terminated '\n' (Piece.paragraphs full)) :
    (activity.write (Text.join [' '] (Piece.fragments part))).text =
      Text.terminated '\n' (Piece.paragraphs (full ++ [part])) := by
  have hfragments : ∀ fragment ∈ Piece.fragments part, Text.Fragment fragment :=
    fun _ h => Piece.fragment_of_mem_fragments h
  rw [Piece.paragraphs_append, Piece.paragraphs_singleton, Text.terminated_append, ← htext,
    Activity.write]
  by_cases hnil : Piece.fragments part = []
  · rw [if_pos ((Text.join_eq_nil_iff hfragments).2 hnil), if_pos hnil]
    simp
  · rw [if_neg (mt (Text.join_eq_nil_iff hfragments).1 hnil), if_neg hnil]
    simp

/-- When the open activity is closed all activities have the texts of their pieces. -/
theorem Composed.close {pieces : List Piece} {pending : List Text} {activity : Activity}
    (h : Composed pieces session pending) (hcurrent : session.current = some activity) :
    (session.written activity pending).close.done.map Activity.text = pieces.map Piece.text := by
  obtain ⟨before, piece, full, part, rfl, hdone, hlines, htext, rfl⟩ := h.spoken activity hcurrent
  have hlast := Piece.trim_paragraphs piece
  rw [hlines, ← text_write htext] at hlast
  rw [List.map_append, ← hdone, List.map_singleton, ← hlast, Session.close, written]
  simp

/-- A piece that starts is empty, and so is the text of the activity that it opens. -/
theorem Composed.opened {pieces : List Piece} {token : Token} {next : Session} {activity : Activity}
    (hdone : next.done.map Activity.text = pieces.map Piece.text)
    (hcurrent : next.current = some activity) (htext : activity.text = []) :
    Composed (pieces ++ [⟨token, []⟩]) next [] := by
  constructor
  · intro hnone
    rw [hcurrent] at hnone
    cases hnone
  · intro other hother
    rw [hcurrent] at hother
    rw [← Option.some.inj hother]
    exact ⟨pieces, ⟨token, []⟩, [], [], rfl, hdone, rfl, htext, rfl⟩

/-- Before a turn is opened, with nothing collected, all activities are closed. -/
theorem Composed.close_turn {pieces : List Piece} (h : Composed pieces session []) :
    session.close.done.map Activity.text = pieces.map Piece.text := by
  cases hcurrent : session.current with
  | none =>
    obtain ⟨hpieces, hdone⟩ := h.silent hcurrent
    simp [hpieces, done_close, hdone, hcurrent]
  | some activity =>
    have hwritten : session.written activity [] = session := by
      have hsame : activity.write (Text.join [' '] []) = activity := if_pos rfl
      rw [written, hsame, ← hcurrent]
    have hclose := h.close hcurrent
    rw [hwritten] at hclose
    exact hclose

theorem Composed.frame {pieces : List Piece} {pending : List Text} {next : Session}
    (h : Composed pieces session pending) (hcurrent : next.current = session.current)
    (hdone : next.done = session.done) : Composed pieces next pending := by
  constructor
  · rw [hcurrent, hdone]
    exact h.silent
  · rw [hcurrent, hdone]
    exact h.spoken

/-- A segment that opens nothing leaves the text alone and adds its fragment to the line. -/
theorem Composed.heed {pieces : List Piece} {piece : Piece} {pending : List Text}
    {activity : Activity} {found : List Attachment} {segment : Segment} {line : Nat}
    (h : Composed (pieces ++ [piece]) session pending) (hcurrent : session.current = some activity) :
    Composed (pieces ++ [piece.add (.segment line segment)]) (session.heed segment activity found)
      (pending ++ segment.fragment?.toList) := by
  obtain ⟨hdone, full, part, hlines, htext, rfl⟩ := h.last hcurrent
  have hadd := @Piece.lines_add piece (.segment line segment) _ _ (by simp) hlines
  constructor
  · intro hnone
    cases hnone
  · intro other hother
    rw [← Option.some.inj hother]
    refine ⟨pieces, _, full, part ++ [.segment line segment], rfl, hdone, hadd, htext, ?_⟩
    rw [Piece.fragments_snoc]
    rfl

/-- The end of a line puts the collected text to the open activity. -/
theorem Composed.lineEnd {pieces : List Piece} {piece : Piece} {pending : List Text}
    {activity : Activity} (h : Composed (pieces ++ [piece]) session pending)
    (hcurrent : session.current = some activity) :
    Composed (pieces ++ [piece.add .lineEnd]) (session.written activity pending) [] := by
  obtain ⟨hdone, full, part, hlines, htext, rfl⟩ := h.last hcurrent
  constructor
  · intro hnone
    cases hnone
  · intro other hother
    rw [← Option.some.inj hother]
    refine ⟨pieces, _, full ++ [part], [], rfl, hdone, ?_, text_write htext, rfl⟩
    rw [Piece.lines_add_lineEnd, hlines]

theorem composed_of_drafted {pieces : List Piece} {pending : List Text}
    (h : Drafted scene clock pieces session pending) : Composed pieces session pending := by
  induction h with
  | start => exact ⟨fun _ => ⟨rfl, rfl⟩, fun _ hcurrent => by cases hcurrent⟩
  | read line _ ih => exact ih.frame rfl rfl
  | direct key value _ ih =>
    exact ih.frame (current_directed _ key value) (done_directed _ key value)
  | turn speaker _ _ _ ih => exact .opened ih.close_turn rfl rfl
  | split segment _ hcurrent _ ih => exact .opened (ih.close hcurrent) rfl rfl
  | heed segment _ hcurrent _ _ ih => exact ih.heed hcurrent
  | lineEnd _ hcurrent ih => exact ih.lineEnd hcurrent

end Session

/-- The text of every activity is the text of its piece of the script. -/
theorem texts_ofScript {world : World} {options : Options} {source : Text} {transcript : Transcript}
    (h : Transcript.ofScript world options source = .ok transcript) :
    (Token.cut (options.tokens source)).1 = [] ∧
      transcript.activities.map Activity.text = (options.pieces source).map Piece.text := by
  obtain ⟨hlead, last, hdrafted, rfl⟩ := Session.drafted_ofScript h
  refine ⟨hlead, ?_⟩
  have hcomposed := Session.composed_of_drafted hdrafted
  rw [Session.finish]
  cases hcurrent : last.current with
  | none =>
    obtain ⟨hpieces, hdone⟩ := hcomposed.silent hcurrent
    simp [hpieces, hdone]
  | some activity =>
    obtain ⟨before, piece, full, part, hpieces, hdone, hlines, htext, hpart⟩ :=
      hcomposed.spoken activity hcurrent
    have hlast : Session.dropBreak activity.text = piece.text := by
      rw [htext, Session.dropBreak_terminated, Piece.text, hlines, Piece.paragraphs_append,
        Piece.paragraphs_singleton, if_pos hpart.symm, List.append_nil]
    simp [hpieces, hdone, hlast]

theorem texts_ofScript_greeting : ∃ transcript,
    Transcript.ofScript .bare .named greeting = .ok transcript ∧
      transcript.activities.map Activity.text = ["hi", "there\nyou all", "ok", "now"] := by
  have hpieces : (Options.pieces .named greeting).map Piece.text =
      ["hi", "there\nyou all", "ok", "now"] := by
    decide +kernel
  obtain ⟨transcript, h⟩ := exists_ofScript_greeting
  exact ⟨transcript, h, (texts_ofScript h).2.trans hpieces⟩

end Colloquy
