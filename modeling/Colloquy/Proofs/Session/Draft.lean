import Colloquy.Proofs.Script.Piece
import Colloquy.Proofs.Session.Header
import Colloquy.Proofs.Session.Heed
import Colloquy.Proofs.Session.Run

/-!
# Drafts

A script that is read without an error is followed here token by token. `Drafted` says which
session and which collected text some pieces of the script lead to, with one rule for each sort of
token. A script that has a transcript has been drafted from exactly the pieces into which its
tokens are cut, and no token comes before the first of them (`drafted_ofScript`).
-/

namespace Colloquy.Session

variable {scene : Scene} {clock : Time.Clock} {session next : Session}

/-! ### What opens turns -/

/-- What opens turns are the names of the participants. -/
def Patterned (session : Session) : Prop := session.turns = session.config.turns

theorem Patterned.frame (h : session.Patterned) (hturns : next.turns = session.turns)
    (hpeople : next.config.participants = session.config.participants) : next.Patterned := by
  rw [Patterned, hturns, Configuration.turns, hpeople]
  exact h

theorem Patterned.directed (h : session.Patterned) (key value : Text) :
    (session.directed key value).Patterned := by
  by_cases hnew : (session.config.apply key value).2 = .ok true
  · rw [Patterned, Session.directed]
    split
    · rfl
    · rename_i hother hresult
      rw [hresult] at hnew
      exact absurd hnew hother
  · refine h.frame ?_ ?_
    · rw [Session.directed]
      split
      · rename_i hresult
        rw [hresult] at hnew
        exact absurd rfl hnew
      · rfl
    · rw [config_directed]
      exact Configuration.participants_apply hnew

theorem Patterned.moves {delays : Int → Prop} (h : session.Patterned)
    (hmoves : Moves scene delays session next) : next.Patterned := by
  induction hmoves with
  | refl => exact h
  | tail _ hmove ih =>
    cases hmove with
    | read line => exact ih.frame rfl rfl
    | direct key value => exact ih.directed key value
    | warn warning => exact ih.frame rfl rfl
    | stamp gap _ => exact ih.frame rfl rfl
    | append activity fragment _ _ => exact ih.frame rfl rfl
    | attach activity argument attachment _ _ => exact ih.frame rfl rfl
    | arrange activity layout _ => exact ih.frame rfl rfl
    | turn people speaker role _ _ =>
      refine ih.frame ?_ ?_ <;> simp [turned, openActivity, Configuration.lock]
    | split activity kind _ =>
      refine ih.frame ?_ ?_ <;> simp [openActivity]

/-! ### Drafts -/

/-- The session and the text collected in it that pieces of a script lead to, if no error comes in
between. -/
inductive Drafted (scene : Scene) (clock : Time.Clock) : List Piece → Session → List Text → Prop
  | start : Drafted scene clock [] { clock } []
  | read {pieces session pending} (line : Line) : Drafted scene clock pieces session pending →
      Drafted scene clock pieces { session with line } pending
  | direct {pieces session pending} (key value : Text) :
      Drafted scene clock pieces session pending →
      Drafted scene clock pieces (session.directed key value) pending
  | turn {pieces session people role} (speaker : Text) : Drafted scene clock pieces session [] →
      session.config.participants = some people → people.speakerRole? speaker = some role →
      Drafted scene clock (pieces ++ [⟨.turn session.config speaker, []⟩])
        (session.turned scene people role) []
  | split {pieces session pending activity kind} (segment : Segment) :
      Drafted scene clock pieces session pending → session.current = some activity →
      segment.kind? = some kind →
      Drafted scene clock (pieces ++ [⟨.segment session.line.number segment, []⟩])
        ((session.written activity pending).close.openActivity scene kind activity.sender
          activity.recipient) []
  | heed {pieces piece session pending activity found} (segment : Segment) :
      Drafted scene clock (pieces ++ [piece]) session pending → session.current = some activity →
      segment.kind? = none →
      segment.request?.toList.map (Attachment.resolve scene.around) = found.map .ok →
      Drafted scene clock (pieces ++ [piece.add (.segment session.line.number segment)])
        (session.heed segment activity found) (pending ++ segment.fragment?.toList)
  | lineEnd {pieces piece session pending activity} :
      Drafted scene clock (pieces ++ [piece]) session pending → session.current = some activity →
      Drafted scene clock (pieces ++ [piece.add .lineEnd]) (session.written activity pending) []

theorem map_activities_written {α : Type} {view : Activity → α}
    (hview : ∀ activity text, view { activity with text } = view activity) {activity : Activity}
    (hcurrent : session.current = some activity) (pending : List Text) :
    (session.written activity pending).activities.map view = session.activities.map view :=
  map_activities_of_current hcurrent (Activity.view_write hview activity _)

/-- An open activity has a piece. -/
theorem Drafted.exists_piece {pieces : List Piece} {pending : List Text} {activity : Activity}
    (h : Drafted scene clock pieces session pending) (hcurrent : session.current = some activity) :
    ∃ before piece, pieces = before ++ [piece] := by
  induction h with
  | start => cases hcurrent
  | read line _ ih => exact ih hcurrent
  | direct key value _ ih =>
    rw [current_directed] at hcurrent
    exact ih hcurrent
  | turn speaker _ _ _ _ => exact ⟨_, _, rfl⟩
  | split segment _ _ _ _ => exact ⟨_, _, rfl⟩
  | heed segment _ _ _ _ _ => exact ⟨_, _, rfl⟩
  | lineEnd _ _ _ => exact ⟨_, _, rfl⟩

/-! ### Following a script -/

/-- The tokens have led to the session and the text collected in it, and none of them comes before
the first that opens an activity. -/
structure Follows (scene : Scene) (clock : Time.Clock) (tokens : List Token) (session : Session)
    (pending : List Text) : Prop where
  lead : (Token.cut tokens).1 = []
  drafted : Drafted scene clock (Token.cut tokens).2 session pending

theorem Follows.opens {tokens : List Token} {token : Token} {before after : List Text}
    (h : Follows scene clock tokens session before) (htoken : token.opens = true)
    (hdrafted : Drafted scene clock ((Token.cut tokens).2 ++ [⟨token, []⟩]) next after) :
    Follows scene clock (tokens ++ [token]) next after := by
  constructor
  · rw [Token.cut_snoc_opens tokens htoken]
    exact h.lead
  · rw [Token.cut_snoc_opens tokens htoken]
    exact hdrafted

theorem Follows.add {tokens : List Token} {token : Token} {before after : List Text}
    {activity : Activity} (h : Follows scene clock tokens session before)
    (hcurrent : session.current = some activity) (htoken : token.opens = false)
    (hdrafted : ∀ pieces piece, Drafted scene clock (pieces ++ [piece]) session before →
      Drafted scene clock (pieces ++ [piece.add token]) next after) :
    Follows scene clock (tokens ++ [token]) next after := by
  obtain ⟨pieces, piece, hpieces⟩ := h.drafted.exists_piece hcurrent
  have hlast := h.drafted
  rw [hpieces] at hlast
  constructor
  · rw [Token.cut_snoc htoken hpieces]
    exact h.lead
  · rw [Token.cut_snoc htoken hpieces]
    exact hdrafted pieces piece hlast

theorem Follows.take {tokens : List Token} {scan last : Scan} {segment : Segment}
    {activity : Activity} (h : Follows scene clock tokens scan.session scan.pending)
    (hcurrent : scan.session.current = some activity)
    (htake : scan.take scene segment = .ok last) :
    Follows scene clock (tokens ++ [.segment scan.session.line.number segment]) last.session
      last.pending := by
  cases hkind : segment.kind? with
  | some kind =>
    have hopens : (Token.segment scan.session.line.number segment).opens = true := by
      simp [Token.opens, hkind]
    rw [take_opens hcurrent hkind htake]
    exact h.opens hopens (h.drafted.split segment hcurrent hkind)
  | none =>
    have hopens : (Token.segment scan.session.line.number segment).opens = false := by
      simp [Token.opens, hkind]
    obtain ⟨found, hfound, rfl⟩ := take_heed hcurrent hkind htake
    exact h.add hcurrent hopens fun pieces piece hd => hd.heed segment hcurrent hkind hfound

@[simp] theorem line_close (session : Session) : session.close.line = session.line := by
  rw [close]
  split <;> rfl

theorem kept_take {scan last : Scan} {segment : Segment} {activity : Activity}
    (hcurrent : scan.session.current = some activity)
    (htake : scan.take scene segment = .ok last) :
    last.session.config = scan.session.config ∧ last.session.line = scan.session.line ∧
      ∃ other, last.session.current = some other := by
  cases hkind : segment.kind? with
  | some kind =>
    rw [take_opens hcurrent hkind htake]
    exact ⟨by simp [openActivity, written], by simp [openActivity, written], _, rfl⟩
  | none =>
    obtain ⟨found, -, rfl⟩ := take_heed hcurrent hkind htake
    exact ⟨rfl, rfl, _, rfl⟩

theorem Follows.takeAll {segments : List Segment} {tokens : List Token} {scan last : Scan}
    {activity : Activity} (h : Follows scene clock tokens scan.session scan.pending)
    (hcurrent : scan.session.current = some activity)
    (hall : segments.foldlM (Scan.take scene) scan = .ok last) :
    Follows scene clock (tokens ++ segments.map (.segment scan.session.line.number)) last.session
        last.pending ∧
      last.session.config = scan.session.config ∧ ∃ other, last.session.current = some other := by
  induction segments generalizing tokens scan activity with
  | nil =>
    cases hall
    rw [List.map_nil, List.append_nil]
    exact ⟨h, rfl, activity, hcurrent⟩
  | cons segment rest ih =>
    obtain ⟨middle, htake, hrest⟩ := foldlM_cons_eq_ok.1 hall
    obtain ⟨hconfig, hline, other, hother⟩ := kept_take hcurrent htake
    obtain ⟨hfollows, hlast, hopen⟩ := ih (h.take hcurrent htake) hother hrest
    rw [hline, List.append_assoc] at hfollows
    exact ⟨hfollows, hlast.trans hconfig, hopen⟩

/-- The dialogue of a line is followed segment by segment up to the end of the line. -/
theorem Follows.scan {tokens : List Token} {dialogue : Text} {count : Nat} {activity : Activity}
    (h : Follows scene clock tokens session []) (hcurrent : session.current = some activity)
    (hscan : session.scan scene dialogue = .ok (next, count)) :
    Follows scene clock (tokens ++ ((Segment.segments dialogue).map (.segment session.line.number) ++
        [.lineEnd])) next [] ∧
      next.config = session.config := by
  obtain ⟨last, hall, hscan⟩ := bind_eq_ok.1 hscan
  obtain ⟨flushed, hflush, hscan⟩ := bind_eq_ok.1 hscan
  obtain ⟨hfollows, hconfig, other, hother⟩ :=
    @Follows.takeAll scene clock _ _ { session } _ _ h hcurrent hall
  rw [flush_eq hother] at hflush
  cases hflush
  cases hscan
  rw [← List.append_assoc]
  exact ⟨hfollows.add hother rfl fun pieces piece hd => hd.lineEnd hother, hconfig⟩

theorem Follows.speak {tokens : List Token} {dialogue : Text} {activity : Activity}
    (h : Follows scene clock tokens session []) (hcurrent : session.current = some activity)
    (hspeak : session.speak scene dialogue = .ok next) :
    Follows scene clock (tokens ++ ((Segment.segments dialogue).map (.segment session.line.number) ++
        [.lineEnd])) next [] ∧
      next.config = session.config := by
  obtain ⟨⟨last, count⟩, hscan, hspeak⟩ := bind_eq_ok.1 hspeak
  cases hspeak
  exact h.scan hcurrent hscan

theorem exists_current_of_phase (h : session.phase = .inTurn) :
    ∃ activity, session.current = some activity := by
  rw [phase] at h
  split at h
  · cases h
  · split at h
    · cases h
    · rename_i hsome
      exact Option.ne_none_iff_exists'.1 (by simpa using hsome)

/-- What happens to a line that is consumed, by its event. -/
theorem of_consume_eq_ok {line : Line} (h : session.consume scene line = .ok next) :
    match LineEvent.ofText session.turns line.text with
    | .directive key value => ({ session with line } : Session).applyDirective key value = .ok next
    | .turn speaker remainder => ∃ opened,
        ({ session with line } : Session).openTurn scene speaker = .ok opened ∧
          opened.speak scene remainder = .ok next
    | .content text => session.phase = .inTurn ∧
        ({ session with line } : Session).speak scene text = .ok next := by
  have hphase : ({ session with line } : Session).phase = session.phase := rfl
  simp only [Session.consume, hphase] at h
  cases hevent : LineEvent.ofText session.turns line.text with
  | directive key value =>
    simp only [hevent] at h
    exact h
  | turn speaker remainder =>
    cases hp : session.phase with
    | awaitingParticipants =>
      simp only [hevent, hp] at h
      cases h
    | awaitingTurn =>
      simp only [hevent, hp] at h
      exact bind_eq_ok.1 h
    | inTurn =>
      simp only [hevent, hp] at h
      exact bind_eq_ok.1 h
  | content text =>
    cases hp : session.phase with
    | awaitingParticipants =>
      simp only [hevent, hp] at h
      cases h
    | awaitingTurn =>
      simp only [hevent, hp] at h
      cases h
    | inTurn =>
      simp only [hevent, hp] at h
      exact ⟨rfl, h⟩

/-- A line that is consumed says what it is read to say. -/
theorem Follows.consume {tokens : List Token} {line : Line} (hpattern : session.Patterned)
    (h : Follows scene clock tokens session []) (hconsume : session.consume scene line = .ok next) :
    next.config = (session.config.read line).1 ∧
      Follows scene clock
        (tokens ++ (session.config.read line).2.toList.flatMap Utterance.tokens) next [] := by
  have hread : Follows scene clock tokens { session with line } [] := ⟨h.lead, h.drafted.read line⟩
  have hconsumed := of_consume_eq_ok hconsume
  have hturns : session.turns = session.config.turns := hpattern
  rw [Configuration.read, ← hturns]
  cases hevent : LineEvent.ofText session.turns line.text with
  | directive key value =>
    simp only [hevent] at hconsumed
    rw [eq_directed_of_applyDirective hconsumed]
    refine ⟨config_directed _ key value, ?_⟩
    simp only [Option.toList_none, List.flatMap_nil, List.append_nil]
    exact ⟨hread.lead, hread.drafted.direct key value⟩
  | turn speaker remainder =>
    simp only [hevent] at hconsumed
    obtain ⟨opened, hopened, hspeak⟩ := hconsumed
    obtain ⟨people, role, hpeople, hrole, rfl⟩ := openTurn_eq_ok_iff.1 hopened
    have hfirst := hread.opens rfl (hread.drafted.turn speaker hpeople hrole)
    obtain ⟨hfollows, hconfig⟩ := hfirst.speak rfl hspeak
    have hlock : (({ session with line } : Session).turned scene people role).config =
        session.config.lock := by
      simp [turned, openActivity]
    have hline : (({ session with line } : Session).turned scene people role).line = line := by
      simp [turned, openActivity]
    rw [hline, List.append_assoc] at hfollows
    refine ⟨hconfig.trans hlock, ?_⟩
    simp only [Option.toList_some, List.flatMap_singleton, Utterance.tokens, Option.map_some,
      List.append_assoc]
    exact hfollows
  | content text =>
    simp only [hevent] at hconsumed
    obtain ⟨hphase, hspeak⟩ := hconsumed
    obtain ⟨activity, hcurrent⟩ := exists_current_of_phase hphase
    have hopen : ({ session with line } : Session).current = some activity := hcurrent
    obtain ⟨hfollows, hconfig⟩ := hread.speak hopen hspeak
    refine ⟨hconfig, ?_⟩
    simp only [Option.toList_some, List.flatMap_singleton, Utterance.tokens, Option.map_none,
      Option.toList_none, List.nil_append]
    exact hfollows

theorem Patterned.consume {line : Line} (h : session.Patterned)
    (hconsume : session.consume scene line = .ok next) : next.Patterned := by
  have hmoves : Moves scene (fun _ => True) session (left id (session.consume scene line)) :=
    moves_consume fun _ _ _ _ => trivial
  rw [hconsume] at hmoves
  exact h.moves hmoves

theorem Follows.consumeAll {lines : List Line} {tokens : List Token} (hpattern : session.Patterned)
    (h : Follows scene clock tokens session []) (hall : session.consumeAll scene lines = .ok next) :
    Follows scene clock
      (tokens ++ (session.config.utterances lines).flatMap Utterance.tokens) next [] := by
  induction lines generalizing session tokens with
  | nil =>
    cases hall
    simpa [Configuration.utterances] using h
  | cons line rest ih =>
    obtain ⟨middle, hconsume, hrest⟩ := foldlM_cons_eq_ok.1 hall
    obtain ⟨hconfig, hfollows⟩ := h.consume hpattern hconsume
    have hlast := ih (hpattern.consume hconsume) hfollows hrest
    rw [hconfig, List.append_assoc, ← List.flatMap_append] at hlast
    exact hlast

/-- The options start a session as they start the reading of a script. -/
theorem Follows.seeds {seeds : List (Text × Text)} (hpattern : session.Patterned)
    (h : Follows scene clock [] session []) (hall : seeds.foldlM seed session = .ok next) :
    next.config = seeds.foldl (fun config entry => (config.apply entry.1 entry.2).1) session.config ∧
      next.Patterned ∧ Follows scene clock [] next [] := by
  induction seeds generalizing session with
  | nil =>
    cases hall
    exact ⟨rfl, hpattern, h⟩
  | cons entry rest ih =>
    obtain ⟨middle, hseed, hrest⟩ := foldlM_cons_eq_ok.1 hall
    have hdirected : middle = ({ session with
        line := ⟨session.line.number, Text.concat [entry.1, "=", entry.2]⟩ } :
          Session).directed entry.1 entry.2 := eq_directed_of_applyDirective hseed
    have hline : ({ session with
        line := ⟨session.line.number, Text.concat [entry.1, "=", entry.2]⟩ } :
          Session).Patterned := hpattern
    have hfollows : Follows scene clock [] middle [] := by
      rw [hdirected]
      exact ⟨rfl, (h.drafted.read _).direct entry.1 entry.2⟩
    have hconfig : middle.config = (session.config.apply entry.1 entry.2).1 := by
      rw [hdirected]
      exact config_directed _ entry.1 entry.2
    have hpatterned : middle.Patterned := by
      rw [hdirected]
      exact hline.directed entry.1 entry.2
    have hlast := ih hpatterned hfollows hrest
    rw [hconfig] at hlast
    exact hlast

theorem of_start_eq_ok {now : Time.Moment} {options : Options} (scene : Scene)
    (h : start now options = .ok next) : next.config = options.config ∧ next.Patterned ∧
      Follows scene (.start (options.start.getD now) options.gap) [] next [] := by
  have hfresh : Follows scene (.start (options.start.getD now) options.gap) []
      (fresh now options) [] := ⟨rfl, .start⟩
  have hblank : (fresh now options).Patterned := rfl
  exact hfresh.seeds hblank h

/-- A script that has a transcript has been drafted from its pieces, and nothing is said in it
before the first turn. -/
theorem drafted_ofScript {world : World} {options : Options} {source : Text} {transcript : Transcript}
    (h : Transcript.ofScript world options source = .ok transcript) :
    (Token.cut (options.tokens source)).1 = [] ∧
      ∃ last, Drafted (world.scene options)
          (.start (options.start.getD world.now) options.gap) (options.pieces source) last [] ∧
        transcript = last.finish := by
  obtain ⟨first, last, hstart, hall, rfl⟩ := ofScript_eq_ok_iff.1 h
  obtain ⟨hconfig, hpattern, hfirst⟩ := of_start_eq_ok (world.scene options) hstart
  have hlast := hfirst.consumeAll hpattern hall
  rw [hconfig] at hlast
  exact ⟨hlast.lead, last, hlast.drafted, rfl⟩

end Colloquy.Session
