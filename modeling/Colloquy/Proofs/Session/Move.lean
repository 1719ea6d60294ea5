import Colloquy.Proofs.Session.Touch

/-!
# Moves of a session

Whatever a session is made to do, and whether that succeeds or fails, it gets from one state to
the next by elementary changes. `Move` lists them: those that scanning makes, and besides the line
that is read, a directive and a turn.
-/

namespace Colloquy.Session

/-- The session that a directive leaves, whether it succeeds or fails. -/
def directed (session : Session) (key value : Text) : Session :=
  match session.config.apply key value with
  | (config, .ok true) =>
    { session with config, turns := config.participants.map .ofParticipants }
  | (config, _) => { session with config }

/-- The session in which a turn of a side has been opened. -/
def turned (session : Session) (scene : Scene) (participants : Participants) (role : Role) :
    Session :=
  { session.close with config := session.close.config.lock }.openActivity scene .message
    (participants.account role) (participants.account role.opposite)

/-- One elementary change of a session. Besides the default gap the clock moves by those gaps only
that satisfy `delays`. -/
inductive Move (scene : Scene) (delays : Int → Prop) (session : Session) : Session → Prop
  | read (line : Line) : Move scene delays session { session with line }
  | direct (key value : Text) : Move scene delays session (session.directed key value)
  | warn (warning : Warning) : Move scene delays session (session.warn warning)
  | stamp (gap : Int) : gap = session.clock.gap ∨ delays gap →
      Move scene delays session (session.stamped gap)
  | append (activity : Activity) (fragment : Text) : session.current = some activity →
      Text.Fragment fragment →
      Move scene delays session
        { session with
          current := some { activity with text := activity.text ++ fragment ++ ['\n'] } }
  | attach (activity : Activity) (argument : Text) (attachment : Attachment) :
      session.current = some activity →
      Attachment.resolve scene.around argument = .ok attachment →
      Move scene delays session
        { session with
          current := some { activity with attachments := activity.attachments ++ [attachment] } }
  | arrange (activity : Activity) (layout : Layout) : session.current = some activity →
      Move scene delays session
        { session with current := some { activity with layout := some layout } }
  | turn (participants : Participants) (speaker : Text) (role : Role) :
      session.config.participants = some participants →
      participants.speakerRole? speaker = some role →
      Move scene delays session (session.turned scene participants role)
  | split (activity : Activity) (kind : ActivityKind) : session.current = some activity →
      Move scene delays session
        (session.close.openActivity scene kind activity.sender activity.recipient)

/-- A run of moves. -/
abbrev Moves (scene : Scene) (delays : Int → Prop) : Session → Session → Prop :=
  Relation.ReflTransGen (Move scene delays)

variable {scene : Scene} {delays : Int → Prop} {session : Session}

/-! ### Touches are moves -/

theorem Touch.move {next : Session} (h : Touch scene delays session next) :
    Move scene delays session next := by
  cases h with
  | warn warning => exact .warn warning
  | stamp gap hgap => exact .stamp gap hgap
  | append activity fragment hcurrent hfragment => exact .append activity fragment hcurrent hfragment
  | attach activity argument attachment hcurrent hresolve =>
    exact .attach activity argument attachment hcurrent hresolve
  | arrange activity layout hcurrent => exact .arrange activity layout hcurrent
  | split activity kind hcurrent => exact .split activity kind hcurrent

theorem Touches.moves {next : Session} (h : Touches scene delays session next) :
    Moves scene delays session next := by
  induction h with
  | refl => exact .refl
  | tail _ htouch ih => exact ih.tail htouch.move

/-! ### Directives and turns -/

theorem left_applyDirective (session : Session) (key value : Text) :
    left id (session.applyDirective key value) = session.directed key value := by
  simp only [applyDirective, directed]
  cases session.config.apply key value with
  | mk config outcome =>
    cases outcome with
    | error cause => rfl
    | ok isNew => cases isNew <;> rfl

theorem eq_directed_of_applyDirective {key value : Text} {next : Session}
    (h : session.applyDirective key value = .ok next) : next = session.directed key value := by
  rw [← left_applyDirective, h]
  rfl

theorem moves_applyDirective (key value : Text) :
    Moves scene delays session (left id (session.applyDirective key value)) := by
  rw [left_applyDirective]
  exact .single (.direct key value)

/-- A turn is opened for a speaker who is one of the participants, and otherwise fails without a
change. -/
theorem openTurn_eq_ok_iff {speaker : Text} {next : Session} :
    session.openTurn scene speaker = .ok next ↔
      ∃ people role, session.config.participants = some people ∧
        people.speakerRole? speaker = some role ∧ next = session.turned scene people role := by
  rw [openTurn]
  cases hp : session.config.participants with
  | none => simp
  | some people =>
    cases hr : people.speakerRole? speaker with
    | none => simp [hr]
    | some role => simp [hr, turned, eq_comm]

theorem moves_openTurn (speaker : Text) :
    Moves scene delays session (left id (session.openTurn scene speaker)) := by
  rw [openTurn]
  cases hp : session.config.participants with
  | none => exact .refl
  | some participants =>
    cases hr : participants.speakerRole? speaker with
    | none => simp only [hr]; exact .refl
    | some role => simp only [hr]; exact .single (.turn participants speaker role hp hr)

end Colloquy.Session
