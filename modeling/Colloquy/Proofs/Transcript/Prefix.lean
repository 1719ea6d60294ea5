import Colloquy.Proofs.Session.Header
import Colloquy.Proofs.Session.Run

/-!
# Beginnings of scripts

The lines of a script are the first lines of every script that goes on with it, so an error in them
is the error of both. If the longer script has a transcript, the shorter one has too, and it is a
beginning of the other: all is the same but the last activity, which can have gained text and
attachments (`ofScript_append`). The open activity of a session consists of lines with a break
behind each (`Lined`), hence it does not matter that it ends without its last break in one
transcript and is trimmed in the other.
-/

namespace Colloquy

/-! ### Lines of a longer source -/

theorem Line.numbered_append (number : Nat) (raws more : List Text) :
    numbered number (raws ++ more) =
      numbered number raws ++ numbered (number + raws.length) more := by
  induction raws generalizing number with
  | nil => rfl
  | cons raw rest ih =>
    have hnumber : number + (raw :: rest).length = number + 1 + rest.length := by
      rw [List.length_cons]
      omega
    rw [List.cons_append, numbered, numbered, ih, hnumber]
    split
    · rfl
    · rfl

theorem Line.ofSource_append (source more : Text) :
    ∃ rest, ofSource (source ++ '\n' :: more) = ofSource source ++ rest := by
  rw [ofSource, Text.pieces_append, numbered_append]
  exact ⟨_, rfl⟩

/-! ### Beginnings of transcripts -/

/-- The activity is the other one before some text and some attachments were added to it. -/
structure Activity.Grows (activity later : Activity) : Prop where
  header : later.header = activity.header
  text : activity.text <+: later.text
  attachments : activity.attachments <+: later.attachments

theorem Activity.Grows.refl (activity : Activity) : Grows activity activity :=
  ⟨rfl, List.prefix_refl _, List.prefix_refl _⟩

theorem Activity.Grows.trans {activity later latest : Activity} (h : Grows activity later)
    (hlater : Grows later latest) : Grows activity latest :=
  ⟨hlater.header.trans h.header, h.text.trans hlater.text, h.attachments.trans hlater.attachments⟩

/-- The transcript is the other one up to some activity, which can have grown. -/
structure Transcript.Begins (transcript later : Transcript) : Prop where
  warnings : transcript.warnings <+: later.warnings
  activities : transcript.activities = [] ∨ ∃ before last grown rest,
    transcript.activities = before ++ [last] ∧ later.activities = before ++ grown :: rest ∧
      last.Grows grown

namespace Transcript

variable {transcript later latest : Transcript}

theorem Begins.of_append (rest : List Activity) (hwarnings : transcript.warnings <+: later.warnings)
    (hactivities : later.activities = transcript.activities ++ rest) : Begins transcript later := by
  refine ⟨hwarnings, ?_⟩
  rcases List.eq_nil_or_concat' transcript.activities with hnil | ⟨before, last, hlast⟩
  · exact .inl hnil
  · refine .inr ⟨before, last, last, rest, hlast, ?_, .refl last⟩
    rw [hactivities, hlast, List.append_assoc]
    rfl

theorem Begins.refl (transcript : Transcript) : Begins transcript transcript :=
  .of_append [] (List.prefix_refl _) (List.append_nil _).symm

theorem Begins.trans (h : Begins transcript later) (hlater : Begins later latest) :
    Begins transcript latest := by
  refine ⟨h.warnings.trans hlater.warnings, ?_⟩
  rcases h.activities with hnil | ⟨before, last, grown, rest, hlast, hgrown, hgrows⟩
  · exact .inl hnil
  · right
    rcases hlater.activities with hnil | ⟨front, final, other, more, hfinal, hother, hmore⟩
    · rw [hgrown] at hnil
      simp at hnil
    · rw [hgrown] at hfinal
      rcases List.eq_nil_or_concat' rest with rfl | ⟨middle, tail, rfl⟩
      · -- The activity that has grown is still the last one, and grows on.
        obtain ⟨rfl, rfl⟩ := List.append_singleton_inj.1 hfinal
        exact ⟨before, last, other, more, hlast, hother, hgrows.trans hmore⟩
      · have hfront : (before ++ grown :: middle) ++ [tail] = front ++ [final] := by
          rw [← hfinal]
          simp
        obtain ⟨rfl, rfl⟩ := List.append_singleton_inj.1 hfront
        refine ⟨before, last, grown, middle ++ other :: more, hlast, ?_, hgrows⟩
        rw [hother]
        simp

end Transcript

/-! ### Open activities -/

/-- What stands between lines stays where it is when a line is added. -/
theorem Text.join_prefix_snoc (between : Text) (parts : List Text) (part : Text) :
    join between parts <+: join between (parts ++ [part]) := by
  induction parts with
  | nil => exact List.nil_prefix
  | cons first rest ih =>
    cases rest with
    | nil =>
      show first <+: first ++ between ++ part
      rw [List.append_assoc]
      exact List.prefix_append _ _
    | cons next more =>
      show first ++ between ++ join between (next :: more) <+:
        first ++ between ++ join between ((next :: more) ++ [part])
      exact (List.prefix_append_right_inj _).2 ih

namespace Session

variable {scene : Scene} {delays : Int → Prop} {session next : Session}

/-- The text of the open activity consists of lines, each a fragment with a break behind it. -/
def Lined (session : Session) : Prop :=
  ∀ activity, session.current = some activity →
    ∃ parts, (∀ part ∈ parts, Text.Fragment part) ∧ activity.text = Text.terminated '\n' parts

theorem Lined.of_text (h : session.Lined) {activity changed : Activity}
    (hcurrent : session.current = some activity) (hchanged : next.current = some changed)
    (htext : changed.text = activity.text) : next.Lined := by
  intro other hother
  rw [hchanged] at hother
  rw [← Option.some.inj hother, htext]
  exact h activity hcurrent

theorem lined_of_opened {activity : Activity} (hcurrent : next.current = some activity)
    (htext : activity.text = []) : next.Lined := by
  intro other hother
  rw [hcurrent] at hother
  rw [← Option.some.inj hother]
  exact ⟨[], by simp, htext⟩

theorem Lined.frame (h : session.Lined) (hcurrent : next.current = session.current) :
    next.Lined := by
  rw [Lined, hcurrent]
  exact h

theorem Lined.move (h : session.Lined) (hmove : Move scene delays session next) : next.Lined := by
  cases hmove with
  | read line => exact h.frame rfl
  | direct key value => exact h.frame (current_directed session key value)
  | warn warning => exact h.frame rfl
  | stamp gap _ =>
    cases hcurrent : session.current with
    | none => exact h.frame (by simp [stamped, hcurrent])
    | some activity => exact h.of_text hcurrent (current_stamped hcurrent gap) rfl
  | append activity fragment hcurrent hfragment =>
    intro other hother
    obtain ⟨parts, hparts, htext⟩ := h activity hcurrent
    refine ⟨parts ++ [fragment], ?_, ?_⟩
    · intro part hpart
      rcases List.mem_append.1 hpart with hpart | hpart
      · exact hparts part hpart
      · rw [List.mem_singleton.1 hpart]
        exact hfragment
    · rw [← Option.some.inj hother, Text.terminated_append, ← htext]
      simp
  | attach activity argument attachment hcurrent _ => exact h.of_text hcurrent rfl rfl
  | arrange activity layout hcurrent => exact h.of_text hcurrent rfl rfl
  | turn people speaker role _ _ => exact lined_of_opened rfl rfl
  | split activity kind _ => exact lined_of_opened rfl rfl

theorem Lined.moves (h : session.Lined) (hmoves : Moves scene delays session next) :
    next.Lined := by
  induction hmoves with
  | refl => exact h
  | tail _ hmove ih => exact ih.move hmove

/-! ### What a session can still become -/

/-- Of lines with a break behind each, trimming takes away the last break only. -/
theorem Lined.trim_text (h : session.Lined) {activity : Activity}
    (hcurrent : session.current = some activity) :
    Text.trim activity.text = dropBreak activity.text := by
  obtain ⟨parts, hparts, htext⟩ := h activity hcurrent
  rw [htext, dropBreak_terminated, Text.trim_terminated (by decide) hparts]

/-- Closing the open activity leaves the activities as finishing would. -/
theorem Lined.done_close (h : session.Lined) : session.close.done = session.finish.activities := by
  rw [Session.done_close, finish]
  cases hcurrent : session.current with
  | none => rfl
  | some activity => simp [h.trim_text hcurrent]

theorem begins_of_frame (hdone : next.done = session.done)
    (hcurrent : next.current = session.current)
    (hwarnings : session.warnings <+: next.warnings) : session.finish.Begins next.finish := by
  refine .of_append [] hwarnings ?_
  rw [finish, finish, hdone, hcurrent, List.append_nil]

theorem begins_of_current {activity changed : Activity} (hcurrent : session.current = some activity)
    (hchanged : next.current = some changed) (hdone : next.done = session.done)
    (hwarnings : next.warnings = session.warnings) (hheader : changed.header = activity.header)
    (htext : dropBreak activity.text <+: dropBreak changed.text)
    (hattachments : activity.attachments <+: changed.attachments) :
    session.finish.Begins next.finish := by
  constructor
  · show session.warnings <+: next.warnings
    exact hwarnings ▸ List.prefix_refl _
  · refine .inr ⟨session.done, { activity with text := dropBreak activity.text },
      { changed with text := dropBreak changed.text }, [], ?_, ?_, ⟨hheader, htext, hattachments⟩⟩
    · simp [finish, hcurrent]
    · simp [finish, hchanged, hdone]

theorem Lined.begins_of_opened (h : session.Lined) (hdone : next.done = session.close.done)
    (hwarnings : next.warnings = session.warnings) : session.finish.Begins next.finish := by
  refine .of_append (next.finish.activities.drop next.done.length) ?_ ?_
  · show session.warnings <+: next.warnings
    exact hwarnings ▸ List.prefix_refl _
  · rw [← h.done_close, ← hdone]
    simp [finish]

/-- Each move only adds to the transcript that a session would leave. -/
theorem Lined.begins_move (h : session.Lined) (hmove : Move scene delays session next) :
    session.finish.Begins next.finish := by
  cases hmove with
  | read line => exact .refl _
  | direct key value =>
    refine begins_of_frame (done_directed session key value) (current_directed session key value) ?_
    exact warnings_directed session key value ▸ List.prefix_refl _
  | warn warning => exact begins_of_frame rfl rfl (List.prefix_append _ _)
  | stamp gap _ =>
    cases hcurrent : session.current with
    | none =>
      refine begins_of_frame rfl ?_ (List.prefix_refl _)
      simp [stamped, hcurrent]
    | some activity =>
      exact begins_of_current hcurrent (current_stamped hcurrent gap) rfl rfl rfl
        (List.prefix_refl _) (List.prefix_refl _)
  | append activity fragment hcurrent hfragment =>
    obtain ⟨parts, -, htext⟩ := h activity hcurrent
    refine begins_of_current hcurrent rfl rfl rfl rfl ?_ (List.prefix_refl _)
    have hmore : activity.text ++ fragment ++ ['\n'] =
        Text.terminated '\n' (parts ++ [fragment]) := by
      rw [Text.terminated_append, ← htext]
      simp
    show dropBreak activity.text <+: dropBreak (activity.text ++ fragment ++ ['\n'])
    rw [hmore, htext, dropBreak_terminated, dropBreak_terminated]
    exact Text.join_prefix_snoc _ _ _
  | attach activity argument attachment hcurrent _ =>
    exact begins_of_current hcurrent rfl rfl rfl rfl (List.prefix_refl _) (List.prefix_append _ _)
  | arrange activity layout hcurrent =>
    exact begins_of_current hcurrent rfl rfl rfl rfl (List.prefix_refl _) (List.prefix_refl _)
  | turn people speaker role _ _ =>
    exact h.begins_of_opened rfl (warnings_close session)
  | split activity kind _ =>
    exact h.begins_of_opened rfl (warnings_close session)

theorem Lined.begins_moves (h : session.Lined) (hmoves : Moves scene delays session next) :
    session.finish.Begins next.finish := by
  induction hmoves with
  | refl => exact .refl _
  | tail hmoves hmove ih => exact ih.trans ((h.moves hmoves).begins_move hmove)

theorem lined_fresh (now : Time.Moment) (options : Options) : (fresh now options).Lined := by
  intro activity hcurrent
  cases hcurrent

/-- Lines that follow others are consumed from where these have led, if they have led anywhere. -/
theorem consumeAll_append (session : Session) (scene : Scene) (lines more : List Line) :
    session.consumeAll scene (lines ++ more) =
      session.consumeAll scene lines >>= fun next => next.consumeAll scene more := by
  rw [consumeAll, List.foldlM_append]
  rfl

end Session

/-! ### Scripts -/

/-- A script ends in an error exactly if the options or one of its lines does. -/
theorem ofScript_eq_error_iff {world : World} {options : Options} {source : Text}
    {cause : ScriptError} :
    Transcript.ofScript world options source = .error cause ↔
      (∃ halt, Session.start world.now options = .error halt ∧ halt.error = cause) ∨
        ∃ first halt, Session.start world.now options = .ok first ∧
          first.consumeAll (world.scene options) (Line.ofSource source) = .error halt ∧
          halt.error = cause := by
  simp only [Transcript.ofScript]
  cases Session.start world.now options with
  | error halt => simp [bind, Except.bind, Except.map, Except.mapError]
  | ok first =>
    cases hlast : first.consumeAll (world.scene options) (Line.ofSource source) with
    | error halt => simp [bind, Except.bind, Except.map, Except.mapError, hlast]
    | ok last => simp [bind, Except.bind, Except.map, Except.mapError, hlast]

/-- When a script goes on, its error stays what it is, and its transcript is a beginning of the
longer one's. -/
theorem ofScript_append (world : World) (options : Options) (source more : Text) :
    (∀ cause, Transcript.ofScript world options source = .error cause →
        Transcript.ofScript world options (source ++ '\n' :: more) = .error cause) ∧
      ∀ later, Transcript.ofScript world options (source ++ '\n' :: more) = .ok later →
        ∃ transcript, Transcript.ofScript world options source = .ok transcript ∧
          transcript.Begins later := by
  obtain ⟨rest, hlines⟩ := Line.ofSource_append source more
  refine ⟨?_, ?_⟩
  · intro cause h
    rw [ofScript_eq_error_iff] at h ⊢
    rcases h with h | ⟨first, halt, hstart, hhalt, hcause⟩
    · exact .inl h
    · refine .inr ⟨first, halt, hstart, ?_, hcause⟩
      rw [hlines, Session.consumeAll_append, hhalt]
      rfl
  · intro later h
    obtain ⟨first, last, hstart, hlast, rfl⟩ := ofScript_eq_ok_iff.1 h
    rw [hlines, Session.consumeAll_append] at hlast
    obtain ⟨middle, hmiddle, hrest⟩ := bind_eq_ok.1 hlast
    refine ⟨middle.finish, ofScript_eq_ok_iff.2 ⟨first, middle, hstart, hmiddle, rfl⟩, ?_⟩
    have hbefore := (Session.lined_fresh world.now options).moves
      ((@Session.moves_start (world.scene options) (fun _ => True) _ _ _ hstart).trans
        (Session.moves_run_of_any ((Line.ofSource source).map .line)))
    rw [Session.run_of_consumeAll hmiddle] at hbefore
    have hmoves := @Session.moves_run_of_any (world.scene options) middle (rest.map .line)
    rw [Session.run_of_consumeAll hrest] at hmoves
    exact hbefore.begins_moves hmoves

/-- The beginning of the greeting ends within an activity that the rest adds to. -/
theorem ofScript_append_greeting :
    (∃ transcript, Transcript.ofScript .bare .named "Zoe: hi [typing] there" = .ok transcript ∧
        ∀ later, Transcript.ofScript .bare .named greeting = .ok later → transcript.Begins later) ∧
      Transcript.ofScript .bare .named "lost\nZoe: hi" = .error (.noOpenTurn 1 "lost") := by
  refine ⟨?_, ?_⟩
  · obtain ⟨later, hlater⟩ := exists_ofScript_greeting
    have hgreeting : greeting = "Zoe: hi [typing] there".toList ++ '\n' ::
        greeting.drop 23 := by decide +kernel
    obtain ⟨transcript, htranscript, hbegins⟩ :=
      (ofScript_append .bare .named "Zoe: hi [typing] there" (greeting.drop 23)).2 later
        (by rw [← hgreeting]; exact hlater)
    refine ⟨transcript, htranscript, ?_⟩
    intro other hother
    rw [hlater] at hother
    rw [← Except.ok.inj hother]
    exact hbegins
  · exact (ofScript_append .bare .named "lost" "Zoe: hi").1 _ (by decide +kernel)

end Colloquy
