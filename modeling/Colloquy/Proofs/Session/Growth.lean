import Colloquy.Proofs.Session.Validity

/-!
# What only grows

A session never takes anything back. Whatever call comes, and whether it succeeds or fails, the session
has come as far as before, closed activities and warnings stand where they stood, and the activity that
was open is the next one after them, still open or closed (`Grows`). Each move only adds, so every
history of calls does (`history_grows`). Where nothing is open, only a line that opens a turn leaves
something open: scanning opens an activity only in place of another.
-/

namespace Colloquy

/-- The number of phases that come before. -/
def Phase.rank : Phase → Nat
  | .awaitingParticipants => 0
  | .awaitingTurn => 1
  | .inTurn => 2

namespace Session

variable {scene : Scene} {delays : Int → Prop} {session later latest next : Session}

/-! ### Phases -/

theorem current_eq_none_iff (hcoherent : session.current ≠ none → session.config.participants ≠ none) :
    session.current = none ↔ session.phase ≠ .inTurn := by
  rw [phase]
  by_cases hpeople : session.config.participants = none
  · have hcurrent : session.current = none := by
      by_contra hopen
      exact hcoherent hopen hpeople
    simp [hpeople, hcurrent]
  · by_cases hcurrent : session.current = none
    · simp [hpeople, hcurrent]
    · simp [hpeople, hcurrent]

/-- With participants and an open activity wherever there were some, a session has not gone back. -/
theorem rank_phase_le
    (hpeople : session.config.participants ≠ none → later.config.participants ≠ none)
    (hcurrent : session.current ≠ none → later.current ≠ none) :
    session.phase.rank ≤ later.phase.rank := by
  simp only [phase, Option.isNone_iff_eq_none]
  by_cases hp : session.config.participants = none
  · rw [if_pos hp]
    exact Nat.zero_le _
  · rw [if_neg hp, if_neg (hpeople hp)]
    by_cases hc : session.current = none
    · rw [if_pos hc]
      split <;> decide
    · rw [if_neg hc, if_neg (hcurrent hc)]

/-! ### Growth -/

/-- The later session has come as far as the session and has all that it had: closed activities and
warnings at their places, and behind the closed ones the activity that was open, either open or closed
now. -/
structure Grows (session later : Session) : Prop where
  phase : session.phase.rank ≤ later.phase.rank
  done : session.done <+: later.done
  current : ∀ activity, session.current = some activity →
    (later.done = session.done ∧
        ∃ still, later.current = some still ∧ still.header = activity.header) ∨
      ∃ closed rest, later.done = session.done ++ closed :: rest ∧ closed.header = activity.header
  warnings : session.warnings <+: later.warnings

theorem Grows.refl (session : Session) : Grows session session :=
  ⟨Nat.le_refl _, List.prefix_refl _, fun activity hcurrent => .inl ⟨rfl, activity, hcurrent, rfl⟩,
    List.prefix_refl _⟩

theorem Grows.trans (h : Grows session later) (hlater : Grows later latest) :
    Grows session latest := by
  refine ⟨Nat.le_trans h.phase hlater.phase, h.done.trans hlater.done, ?_,
    h.warnings.trans hlater.warnings⟩
  intro activity hcurrent
  rcases h.current activity hcurrent with ⟨hdone, still, hstill, hheader⟩ | ⟨closed, rest, hdone, hheader⟩
  · rw [← hdone, ← hheader]
    exact hlater.current still hstill
  · obtain ⟨more, hmore⟩ := hlater.done
    refine .inr ⟨closed, rest ++ more, ?_, hheader⟩
    rw [← hmore, hdone, List.append_assoc, List.cons_append]

theorem Grows.of_frame
    (hpeople : session.config.participants ≠ none → next.config.participants ≠ none)
    (hdone : next.done = session.done) (hcurrent : next.current = session.current)
    (hwarnings : session.warnings <+: next.warnings) : Grows session next := by
  refine ⟨rank_phase_le hpeople (by rw [hcurrent]; exact id), hdone ▸ List.prefix_refl _, ?_,
    hwarnings⟩
  intro activity hactivity
  exact .inl ⟨hdone, activity, hcurrent.trans hactivity, rfl⟩

/-- What the open activity was opened with stays, whatever else of it changes. -/
theorem Grows.of_current {activity changed : Activity} (hcurrent : session.current = some activity)
    (hchanged : next.current = some changed) (hheader : changed.header = activity.header)
    (hconfig : next.config = session.config) (hdone : next.done = session.done)
    (hwarnings : next.warnings = session.warnings) : Grows session next := by
  refine ⟨rank_phase_le ?_ ?_, hdone ▸ List.prefix_refl _, ?_, hwarnings ▸ List.prefix_refl _⟩
  · rw [hconfig]
    exact id
  · rw [hchanged]
    exact fun _ => Option.some_ne_none changed
  · intro other hother
    rw [hcurrent] at hother
    rw [← Option.some.inj hother]
    exact .inl ⟨hdone, changed, hchanged, hheader⟩

/-- An activity that is opened comes behind the one that is closed for it. -/
theorem Grows.of_opened (hpeople : next.config.participants = session.config.participants)
    (hopen : next.current ≠ none) (hdone : next.done = session.close.done)
    (hwarnings : next.warnings = session.warnings) : Grows session next := by
  rw [done_close] at hdone
  refine ⟨rank_phase_le (by rw [hpeople]; exact id) (fun _ => hopen), ?_, ?_,
    hwarnings ▸ List.prefix_refl _⟩
  · rw [hdone]
    exact List.prefix_append _ _
  · intro activity hcurrent
    rw [hcurrent] at hdone
    exact .inr ⟨_, [], hdone, rfl⟩

/-- A move only adds. -/
theorem grows_move (hmove : Move scene delays session next) : Grows session next := by
  cases hmove with
  | read line => exact .of_frame id rfl rfl (List.prefix_refl _)
  | direct key value =>
    refine .of_frame ?_ (done_directed session key value) (current_directed session key value) ?_
    · rw [config_directed]
      intro hpeople
      obtain ⟨people, hpeople⟩ := Option.ne_none_iff_exists'.1 hpeople
      obtain ⟨other, hother⟩ := Configuration.exists_participants_apply hpeople key value
      rw [hother]
      exact Option.some_ne_none other
    · exact warnings_directed session key value ▸ List.prefix_refl _
  | warn warning => exact .of_frame id rfl rfl (List.prefix_append _ _)
  | stamp gap _ =>
    cases hcurrent : session.current with
    | none => exact .of_frame id rfl (by simp [stamped, hcurrent]) (List.prefix_refl _)
    | some activity => exact .of_current hcurrent (current_stamped hcurrent gap) rfl rfl rfl rfl
  | append activity fragment hcurrent _ => exact .of_current hcurrent rfl rfl rfl rfl rfl
  | attach activity argument attachment hcurrent _ => exact .of_current hcurrent rfl rfl rfl rfl rfl
  | arrange activity layout hcurrent => exact .of_current hcurrent rfl rfl rfl rfl rfl
  | turn people speaker role _ _ =>
    refine .of_opened ?_ (Option.some_ne_none _) rfl (warnings_close session)
    simp [turned, openActivity, Configuration.lock]
  | split activity kind _ =>
    refine .of_opened ?_ (Option.some_ne_none _) rfl (warnings_close session)
    simp [openActivity]

theorem grows_moves (hmoves : Moves scene delays session next) : Grows session next := by
  induction hmoves with
  | refl => exact .refl _
  | tail _ hmove ih => exact ih.trans (grows_move hmove)

/-! ### Turns -/

/-- In a governed session the participants are known if an activity is open. -/
theorem Governed.participants_ne_none (h : session.Governed) (hopen : session.current ≠ none) :
    session.config.participants ≠ none := by
  obtain ⟨activity, hcurrent⟩ := Option.ne_none_iff_exists'.1 hopen
  have hmem : activity.header ∈ session.headers := by
    simp [headers, activities, hcurrent]
  obtain ⟨people, role, hpeople, -⟩ := h.sides _ hmem
  rw [hpeople]
  exact Option.some_ne_none people

/-- With nothing open, only a line that opens a turn leaves something open. -/
theorem exists_turn_of_open (h : session.Governed) {request : Call} (hphase : session.phase ≠ .inTurn)
    (hopen : (session.call scene request).phase = .inTurn) :
    ∃ line speaker remainder, request = .line line ∧
      LineEvent.ofText session.turns line.text = .turn speaker remainder := by
  have hnone := (current_eq_none_iff h.participants_ne_none).2 hphase
  have hmoves := @moves_run_of_any scene session [request]
  have hsome : (session.call scene request).current ≠ none := by
    intro hcurrent
    exact (current_eq_none_iff (h.moves hmoves).participants_ne_none).1 hcurrent hopen
  cases request with
  | scan dialogue =>
    -- Commands that open an activity fail here, as there is no turn to go on with.
    have htouches : Touches scene (fun _ => True) session (session.call scene (.scan dialogue)) :=
      touches_scan fun _ _ => trivial
    obtain ⟨clock, warnings, hidle⟩ := htouches.idle hnone
    rw [hidle] at hsome
    exact absurd hnone hsome
  | line line =>
    have hsame : ({ session with line } : Session).phase = session.phase := rfl
    simp only [call, consume, hsame] at hsome
    cases hevent : LineEvent.ofText session.turns line.text with
    | turn speaker remainder => exact ⟨line, speaker, remainder, rfl, hevent⟩
    | directive key value =>
      simp only [hevent, left_applyDirective, current_directed] at hsome
      exact absurd hnone hsome
    | content text =>
      cases hp : session.phase with
      | inTurn => exact absurd hp hphase
      | awaitingParticipants =>
        simp only [hevent, hp] at hsome
        exact absurd hnone hsome
      | awaitingTurn =>
        simp only [hevent, hp] at hsome
        exact absurd hnone hsome

/-- However a session has come about, every history of calls that follows only adds to it, whether the
calls succeed or fail; and a call that opens the first activity is a line that opens a turn. -/
theorem history_grows {world : World} {options : Options} {first : Session}
    (hstart : Session.start world.now options = .ok first) (calls : List Call) :
    (∀ more : List Call,
        Grows (first.run (world.scene options) calls)
          ((first.run (world.scene options) calls).run (world.scene options) more)) ∧
      ∀ request : Call, (first.run (world.scene options) calls).phase ≠ .inTurn →
        ((first.run (world.scene options) calls).call (world.scene options) request).phase = .inTurn →
        ∃ line speaker remainder, request = .line line ∧
          LineEvent.ofText (first.run (world.scene options) calls).turns line.text =
            .turn speaker remainder := by
  have hfresh := @moves_start (world.scene options) (fun _ => True) _ _ _ hstart
  have hgoverned := (governed_start _).moves (hfresh.trans (moves_run_of_any calls))
  refine ⟨?_, ?_⟩
  · intro more
    exact grows_moves (moves_run_of_any more)
  · intro request hphase hopen
    exact exists_turn_of_open hgoverned hphase hopen

/-- A turn is opened after a line that failed, and what has been said stays through later failures. -/
theorem history_grows_mishaps :
    Grows (outset.run (World.bare.scene .named) (mishaps.take 2))
        ((outset.run (World.bare.scene .named) (mishaps.take 2)).run (World.bare.scene .named)
          (mishaps.drop 2)) ∧
      ∃ line speaker remainder, Call.line ⟨2, "Zoe: hi [typing] [Delay=5]"⟩ = .line line ∧
        LineEvent.ofText (outset.run (World.bare.scene .named) (mishaps.take 1)).turns line.text =
          .turn speaker remainder := by
  refine ⟨?_, ?_⟩
  · exact (@history_grows World.bare .named outset rfl (mishaps.take 2)).1 (mishaps.drop 2)
  · exact (@history_grows World.bare .named outset rfl (mishaps.take 1)).2 _ (by decide +kernel)
      (by decide +kernel)

end Session

end Colloquy
