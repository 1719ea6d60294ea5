import Colloquy.Options
import Colloquy.Script.Line
import Colloquy.Session.Message

/-!
# Sessions

A session reads a script line by line. It holds the configuration, the clock, the activity that is
open, the activities that are closed, and the warnings. `Scene` is what it stands in and cannot
change: the files, the probe, the types known by extension, the names for new activities.

A step that fails leaves a session too, with what had been done before the failure; `Halt` carries
it beside the error.
-/

namespace Colloquy

/-- What a session stands in. -/
structure Scene where
  around : Surroundings
  /-- The identifier of the activity with a number, counted from zero. -/
  ids : Nat → Text

/-- How far a session has come. -/
inductive Phase where
  /-- The names of the two sides are not both known. -/
  | awaitingParticipants
  /-- No turn has been opened. -/
  | awaitingTurn
  /-- An activity is open. -/
  | inTurn
deriving DecidableEq, Repr

/-- The reading of a script up to some place. -/
structure Session where
  config : Configuration := {}
  clock : Time.Clock
  /-- What opens turns. -/
  turns : Option TurnPattern := none
  /-- The open activity. -/
  current : Option Activity := none
  /-- The closed activities. -/
  done : List Activity := []
  warnings : List Warning := []
  /-- The line that is being read. -/
  line : Line := ⟨0, []⟩
  /-- The number of activities opened so far. -/
  opened : Nat := 0
deriving DecidableEq, Repr

/-- An error and the session as the failing step left it. -/
structure Halt where
  error : ScriptError
  session : Session
deriving DecidableEq, Repr

/-- What has been read of a whole script. -/
structure Transcript where
  activities : List Activity
  warnings : List Warning
deriving DecidableEq, Repr

namespace Session

/-- How far the session has come. -/
def phase (session : Session) : Phase :=
  if session.config.participants.isNone then .awaitingParticipants
  else if session.current.isNone then .awaitingTurn
  else .inTurn

/-- The failure that nothing is open to take a change. -/
def noOpenTurn (session : Session) : Halt :=
  ⟨.noOpenTurn session.line.number session.line.text, session⟩

/-- The failure that the participants are not known. -/
def noReference (session : Session) : Halt :=
  ⟨.reference session.line.number session.line.text, session⟩

/-- The session with a warning more. -/
def warn (session : Session) (warning : Warning) : Session :=
  { session with warnings := session.warnings ++ [warning] }

/-- The session with its open activity changed. -/
def modify (session : Session) (change : Activity → Activity) : Except Halt Session :=
  match session.current with
  | none => .error session.noOpenTurn
  | some activity => .ok { session with current := some (change activity) }

/-- The session with its open activity, if there is one, trimmed and put to the closed ones. -/
def close (session : Session) : Session :=
  match session.current with
  | none => session
  | some activity =>
    { session with
      current := none
      done := session.done ++ [{ activity with text := Text.trim activity.text }] }

/-- The session with a new open activity, for which the clock moves on. -/
def openActivity (session : Session) (scene : Scene) (kind : ActivityKind)
    (sender recipient : Account) : Session :=
  let clock := session.clock.tick
  { session with
    clock
    opened := session.opened + 1
    current := some
      { id := scene.ids session.opened
        kind, sender, recipient
        conversation := session.config.channel
        time := clock.now } }

/-- The session after a directive. New participants get a turn pattern, which is taken to succeed. -/
def applyDirective (session : Session) (key value : Text) : Except Halt Session :=
  let (config, outcome) := session.config.apply key value
  match outcome with
  | .error cause =>
    .error ⟨.format session.line.number session.line.text cause, { session with config }⟩
  | .ok isNew =>
    if isNew then
      .ok { session with config, turns := config.participants.map .ofParticipants }
    else .ok { session with config }

/-- The session after a turn has been opened for a speaker. -/
def openTurn (session : Session) (scene : Scene) (speaker : Text) : Except Halt Session :=
  match session.config.participants with
  | none => .error session.noReference
  | some participants =>
    match participants.speakerRole? speaker with
    | none => .error session.noReference
    | some role =>
      let closed := session.close
      .ok <| { closed with config := closed.config.lock }.openActivity scene .message
        (participants.account role) (participants.account role.opposite)

/-- The text without the line break at its end. -/
def dropBreak (text : Text) : Text := if text.getLast? = some '\n' then text.dropLast else text

/-- The transcript of a session that ends here. -/
def finish (session : Session) : Transcript where
  activities := session.done ++
    session.current.toList.map fun activity => { activity with text := dropBreak activity.text }
  warnings := session.warnings

end Session

end Colloquy
