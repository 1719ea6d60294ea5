import Colloquy.Script.Segment
import Colloquy.Session

/-!
# Scanning dialogue

The segments of a line are taken from left to right. Text is collected until the open activity
changes or the line ends, and then put to it as one fragment with a line break. A command that
names a kind closes the open activity and opens another one in the same turn; a delay and the
fields stamp the open activity anew.
-/

namespace Colloquy.Session

/-- A line in the middle of a scan. -/
structure Scan where
  session : Session
  /-- The text collected for the open activity. -/
  pending : List Text := []
  /-- The number of activities opened by commands. -/
  opened : Nat := 0
deriving DecidableEq, Repr

/-- The session with a fragment put to the text of the open activity. -/
def append (session : Session) (fragment : Text) : Except Halt Session :=
  if fragment = [] then .ok session
  else session.modify fun activity => { activity with text := activity.text ++ fragment ++ ['\n'] }

/-- The session with its clock moved on and the open activity stamped. -/
def stamp (session : Session) (gap : Int) : Except Halt Session :=
  let clock := session.clock.tickBy gap
  { session with clock }.modify fun activity => { activity with time := clock.now }

/-- The session with the open activity closed and one of another kind open in the same turn. -/
def split (session : Session) (scene : Scene) (kind : ActivityKind) : Except Halt Session :=
  match session.current with
  | none => .error session.noOpenTurn
  | some activity => .ok (session.close.openActivity scene kind activity.sender activity.recipient)

/-- The session after a delay, of the default gap if the argument is no number. -/
def delay (session : Session) (argument : Text) : Except Halt Session :=
  match Text.toInt64? argument with
  | some gap => session.stamp gap
  | none =>
    (session.warn (.invalidDelay session.line.number argument)).stamp session.clock.gap

/-- The session with an attachment put to the open activity. -/
def attach (session : Session) (scene : Scene) (argument : Text) : Except Halt Session :=
  match Attachment.resolve scene.around argument with
  | .error cause => .error ⟨.attachment session.line.number cause, session⟩
  | .ok attachment => session.modify fun activity =>
    { activity with attachments := activity.attachments ++ [attachment] }

/-- The session with the layout of the open activity set. -/
def arrange (session : Session) (argument : Text) : Except Halt Session :=
  match Layout.ofName? argument with
  | some layout => session.modify fun activity => { activity with layout := some layout }
  | none => .ok (session.warn (.invalidLayout session.line.number argument))

/-- The session after a field has been set, for which it has to have an argument. -/
def setField (session : Session) (body : Text) (argument : Option Text)
    (set : Session → Text → Except Halt Session) : Except Halt Session := do
  let session ← session.stamp session.clock.gap
  match argument.filter (· ≠ []) with
  | some argument => set session argument
  | none => pure (session.warn (.missingArgument session.line.number (Command.bracketed body)))

/-- The scan after its collected text has been put to the open activity. -/
def Scan.flush (scan : Scan) : Except Halt Scan := do
  let session ← scan.session.append (Text.join [' '] scan.pending)
  pure { scan with session, pending := [] }

/-- The scan after a command. -/
def Scan.obey (scene : Scene) (scan : Scan) (body : Text) : Except Halt Scan :=
  let command := Command.ofBody body
  let session := scan.session
  match command.tag with
  | .unknown =>
    let warning := Warning.unknownTag session.line.number (Command.bracketed body)
    .ok { scan with session := session.warn warning }
  | .opens kind => do
    let scan ← scan.flush
    let session ← scan.session.split scene kind
    pure { scan with session, opened := scan.opened + 1 }
  | .delay => do
    let session ← session.delay (command.argument.getD [])
    pure { scan with session }
  | .attachment => do
    let session ← session.setField body command.argument fun s => s.attach scene
    pure { scan with session }
  | .layout => do
    let session ← session.setField body command.argument arrange
    pure { scan with session }

/-- The scan after a segment. -/
def Scan.take (scene : Scene) (scan : Scan) : Segment → Except Halt Scan
  | .dialogue text =>
    let text := Text.trim text
    if text = [] then .ok scan else .ok { scan with pending := scan.pending ++ [text] }
  | .command body => scan.obey scene body

/-- The session after the dialogue of a line, and the number of activities that its commands have
opened. -/
def scan (session : Session) (scene : Scene) (dialogue : Text) : Except Halt (Session × Nat) := do
  let scan ← (Segment.segments dialogue).foldlM (Scan.take scene) { session }
  let scan ← scan.flush
  pure (scan.session, scan.opened)

/-- The session after the dialogue of a line. -/
def speak (session : Session) (scene : Scene) (dialogue : Text) : Except Halt Session := do
  let (session, _) ← session.scan scene dialogue
  pure session

/-- The session after a line. -/
def consume (session : Session) (scene : Scene) (line : Line) : Except Halt Session :=
  let session := { session with line }
  match session.phase, LineEvent.ofText session.turns line.text with
  | _, .directive key value => session.applyDirective key value
  | .awaitingParticipants, _ => .error session.noReference
  | _, .turn speaker remainder => do
    let session ← session.openTurn scene speaker
    session.speak scene remainder
  | .awaitingTurn, .content _ => .error session.noOpenTurn
  | .inTurn, .content text => session.speak scene text

end Colloquy.Session
