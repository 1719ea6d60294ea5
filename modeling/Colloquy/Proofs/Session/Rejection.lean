import Colloquy.Proofs.Session.Fetch
import Colloquy.Proofs.Session.Validity

/-!
# Lines that are rejected

With an activity open, scanning can only fail over an attachment (`fetches_scan`). A line that fails in
another way is therefore a directive that is refused, or a line that stands where no turn can be opened
or none is open, and fails before anything has been done for it. Nothing of the conversation changes then
(`rejected_line`); a directive that makes the two names the same letters leaves the name that it gives
stored, and that is all.
-/

namespace Colloquy

/-! ### Keys -/

/-- A directive has one of the keys. -/
theorem LineEvent.key_mem_of_directive? {text key value : Text}
    (h : directive? text = some (key, value)) : key ∈ keys := by
  obtain ⟨known, hknown, hvalue⟩ := List.exists_of_findSome?_eq_some h
  obtain ⟨_, -, hpair⟩ := Option.map_eq_some_iff.1 hvalue
  rw [← (Prod.mk.inj hpair).1]
  exact hknown

theorem LineEvent.trim_of_mem_keys {key : Text} (h : key ∈ keys) : Text.trim key = key := by
  have hkeys : ∀ known ∈ keys, Text.trim known = known := by decide
  exact hkeys key h

/-! ### Directives that fail -/

/-- A directive that fails changes nothing, or it leaves the name stored by which the two names have
become the same letters. -/
theorem Configuration.apply_of_error {config : Configuration} {key value : Text} {cause : ConfigError}
    (h : (config.apply key value).2 = .error cause) :
    (config.apply key value).1 = config ∨
      ∃ (role : Role) (name : Text), Text.trim key = role.name ∧ cause = .ambiguous name ∧
        (config.apply key value).1 = config.store role.name (Text.trim value) := by
  have happlied := applied_apply config key value
  generalize config.apply key value = result at h happlied ⊢
  cases happlied with
  | refused error _ => exact .inl rfl
  | stored _ _ => cases h
  | named role _ hkey _ hsettled =>
    cases hsettled with
    | unnamed other _ => cases h
    | ambiguous bot user _ _ _ =>
      refine .inr ⟨role, bot, hkey, (Except.error.inj h).symm, ?_⟩
      rw [hkey]
    | known people _ _ _ _ => cases h
    | made bot user _ _ _ _ => cases h

namespace Session

variable {scene : Scene} {session : Session}

/-! ### How a line can fail -/

theorem of_applyDirective_eq_error {key value : Text} {halt : Halt}
    (h : session.applyDirective key value = .error halt) :
    ∃ cause, (session.config.apply key value).2 = .error cause ∧
      halt = ⟨.format session.line.number session.line.text cause,
        { session with config := (session.config.apply key value).1 }⟩ := by
  simp only [applyDirective] at h
  cases hresult : (session.config.apply key value).2 with
  | ok isNew =>
    simp only [hresult] at h
    cases isNew <;> cases h
  | error cause =>
    simp only [hresult] at h
    exact ⟨cause, rfl, (Except.error.inj h).symm⟩

theorem eq_noReference_of_openTurn {speaker : Text} {halt : Halt}
    (h : session.openTurn scene speaker = .error halt) : halt = session.noReference := by
  rw [openTurn] at h
  split at h
  · exact (Except.error.inj h).symm
  · split at h
    · exact (Except.error.inj h).symm
    · cases h

/-- A turn that is opened for a line goes on with what the line says, so the line can only fail before
the turn or over an attachment. -/
theorem of_turn_eq_error {speaker remainder : Text} {halt : Halt}
    (h : (session.openTurn scene speaker >>= fun opened => opened.speak scene remainder) =
      .error halt) :
    halt = session.noReference ∨ ∃ cause, cause ≠ .missingLocator ∧
      halt.error = .attachment session.line.number cause := by
  cases hopened : session.openTurn scene speaker with
  | error failure =>
    rw [hopened] at h
    cases h
    exact .inl (eq_noReference_of_openTurn hopened)
  | ok opened =>
    obtain ⟨people, role, -, -, rfl⟩ := openTurn_eq_ok_iff.1 hopened
    have hline : (session.turned scene people role).line = session.line := by
      simp [turned, openActivity]
    have hfetches := @fetches_speak scene (session.turned scene people role) _ rfl remainder
    rw [hopened] at h
    have hspeak : (session.turned scene people role).speak scene remainder = .error halt := h
    rw [hspeak, hline] at hfetches
    exact .inr hfetches.exists_cause

/-- A line that fails is a directive that fails, or comes where there is no turn for it, or asks for
an attachment that cannot be had. -/
theorem failure_of_consume {line : Line} {halt : Halt}
    (h : session.consume scene line = .error halt) :
    (∃ key value, LineEvent.directive? line.text = some (key, value) ∧
        ({ session with line } : Session).applyDirective key value = .error halt) ∨
      halt = ({ session with line } : Session).noReference ∨
      halt = ({ session with line } : Session).noOpenTurn ∨
      ∃ cause, cause ≠ .missingLocator ∧ halt.error = .attachment line.number cause := by
  have hphase : ({ session with line } : Session).phase = session.phase := rfl
  simp only [consume, hphase, LineEvent.ofText] at h
  cases hdirective : LineEvent.directive? line.text with
  | some entry =>
    simp only [hdirective] at h
    exact .inl ⟨entry.1, entry.2, rfl, h⟩
  | none =>
    right
    simp only [hdirective] at h
    cases hturn : session.turns.bind fun pattern => pattern.split? line.text with
    | some turn =>
      simp only [hturn] at h
      cases hp : session.phase with
      | awaitingParticipants =>
        simp only [hp] at h
        exact .inl (Except.error.inj h).symm
      | awaitingTurn =>
        simp only [hp] at h
        exact (of_turn_eq_error h).imp_right .inr
      | inTurn =>
        simp only [hp] at h
        exact (of_turn_eq_error h).imp_right .inr
    | none =>
      simp only [hturn] at h
      cases hp : session.phase with
      | awaitingParticipants =>
        simp only [hp] at h
        exact .inl (Except.error.inj h).symm
      | awaitingTurn =>
        simp only [hp] at h
        exact .inr (.inl (Except.error.inj h).symm)
      | inTurn =>
        simp only [hp] at h
        obtain ⟨activity, hcurrent⟩ := exists_current_of_phase hp
        have hfetches := @fetches_speak scene { session with line } activity hcurrent line.text
        rw [h] at hfetches
        exact .inr (.inr hfetches.exists_cause)

theorem of_consume_eq_error {line : Line} {halt : Halt}
    (h : session.consume scene line = .error halt) :
    (∃ key value, LineEvent.directive? line.text = some (key, value) ∧
        ({ session with line } : Session).applyDirective key value = .error halt) ∨
      halt = ({ session with line } : Session).noReference ∨
      halt = ({ session with line } : Session).noOpenTurn ∨
      ∃ number cause, halt.error = .attachment number cause := by
  rcases failure_of_consume h with hdirective | hreference | hturn | ⟨cause, -, herror⟩
  · exact .inl hdirective
  · exact .inr (.inl hreference)
  · exact .inr (.inr (.inl hturn))
  · exact .inr (.inr (.inr ⟨_, cause, herror⟩))

/-! ### What a rejected line leaves -/

/-- A line that fails, but not over an attachment, leaves everything as it was except for the line that
is read and, if it makes the names of the two sides the same letters, the name that it gives: clock,
activities, warnings, participants, turns and lock. Before the participants are known every line but a
directive fails so, and before the first turn every line that is neither a directive nor a turn. -/
theorem rejected_line (session : Session) (scene : Scene) (line : Line) :
    (∀ halt, session.consume scene line = .error halt →
        (∀ number cause, halt.error ≠ .attachment number cause) →
        ∃ config : Configuration, halt.session = { session with line, config } ∧
          config.participants = session.config.participants ∧
          config.locked = session.config.locked ∧
          (config = session.config ∨ ∃ (role : Role) (value name : Text),
            LineEvent.directive? line.text = some (role.name, value) ∧
              halt.error = .format line.number line.text (.ambiguous name) ∧
              config = session.config.store role.name (Text.trim value))) ∧
      (session.phase = .awaitingParticipants → LineEvent.directive? line.text = none →
        session.consume scene line =
          .error ⟨.reference line.number line.text, { session with line }⟩) ∧
      (session.phase = .awaitingTurn → LineEvent.directive? line.text = none →
        (session.turns.bind fun pattern => pattern.split? line.text) = none →
        session.consume scene line =
          .error ⟨.noOpenTurn line.number line.text, { session with line }⟩) := by
  have hphase : ({ session with line } : Session).phase = session.phase := rfl
  refine ⟨?_, ?_, ?_⟩
  · intro halt h hrejected
    rcases of_consume_eq_error h with ⟨key, value, hdirective, hfails⟩ | rfl | rfl | hattachment
    · obtain ⟨cause, hcause, rfl⟩ := of_applyDirective_eq_error hfails
      have hpeople : (session.config.apply key value).1.participants =
          session.config.participants := by
        refine Configuration.participants_apply ?_
        rw [hcause]
        intro hnew
        cases hnew
      refine ⟨_, rfl, hpeople, Configuration.locked_apply _ _ _, ?_⟩
      rcases Configuration.apply_of_error hcause with hsame | ⟨role, name, hkey, rfl, hstored⟩
      · exact .inl hsame
      · rw [LineEvent.trim_of_mem_keys (LineEvent.key_mem_of_directive? hdirective)] at hkey
        exact .inr ⟨role, value, name, hkey ▸ hdirective, rfl, hstored⟩
    · exact ⟨session.config, rfl, rfl, rfl, .inl rfl⟩
    · exact ⟨session.config, rfl, rfl, rfl, .inl rfl⟩
    · obtain ⟨number, cause, herror⟩ := hattachment
      exact absurd herror (hrejected number cause)
  · intro hp hdirective
    simp only [consume, hphase, hp, LineEvent.ofText, hdirective]
    cases session.turns.bind fun pattern => pattern.split? line.text <;> rfl
  · intro hp hdirective hturn
    simp only [consume, hphase, hp, LineEvent.ofText, hdirective, hturn]
    rfl

/-- A name that is refused as it is the other one in capitals, and dialogue before the names and before
the first turn. -/
theorem rejected_line_misplaced :
    (∃ halt, outset.consume (World.bare.scene .named) ⟨1, "bot=SAM"⟩ = .error halt ∧
        ∃ config : Configuration,
          halt.session = { outset with line := ⟨1, "bot=SAM"⟩, config } ∧
          config.participants = outset.config.participants) ∧
      (fresh World.bare.now .named).consume (World.bare.scene .named) ⟨1, "Zoe: hi"⟩ =
        .error ⟨.reference 1 "Zoe: hi", { fresh World.bare.now .named with line := ⟨1, "Zoe: hi"⟩ }⟩ ∧
      outset.consume (World.bare.scene .named) ⟨1, "lost [hm]"⟩ =
        .error ⟨.noOpenTurn 1 "lost [hm]", { outset with line := ⟨1, "lost [hm]"⟩ }⟩ := by
  refine ⟨?_, ?_, ?_⟩
  · have hfails : outset.consume (World.bare.scene .named) ⟨1, "bot=SAM"⟩ =
        .error ⟨.format 1 "bot=SAM" (.ambiguous "SAM"),
          { outset with line := ⟨1, "bot=SAM"⟩, config := outset.config.store "bot" "SAM" }⟩ := by
      decide +kernel
    obtain ⟨config, hsession, hpeople, -, -⟩ := (rejected_line outset _ _).1 _ hfails (by nofun)
    exact ⟨_, hfails, config, hsession, hpeople⟩
  · exact (rejected_line (fresh World.bare.now .named) _ ⟨1, "Zoe: hi"⟩).2.1 rfl (by decide +kernel)
  · exact (rejected_line outset _ ⟨1, "lost [hm]"⟩).2.2 (by decide +kernel) (by decide +kernel)
      (by decide +kernel)

end Session

end Colloquy
