import Colloquy.Activity
import Colloquy.Text.Digits
import Colloquy.Time.Rfc3339

/-!
# Problems of a transcript

What a transcript of a conversation between two sides cannot contain: an identifier twice, an
activity from a side to itself, a second conversation, a step back in time, an attachment without
a type or without exactly one payload. `problems` lists them all, the repeated identifiers first
and then activity by activity.
-/

namespace Colloquy

/-- What is wrong with an attachment. -/
inductive Attachment.Flaw where
  | untyped
  | doublePayload
  | noPayload
deriving DecidableEq, Repr

/-- What is wrong with a transcript. The first argument is the identifier of the activity. -/
inductive Problem where
  | repeatedId (id : Text)
  | sameRole (id : Text) (role : Role)
  | sameAccount (id name : Text)
  | otherConversation (id found expected : Text)
  | outOfOrder (id : Text) (time previous : Time.Moment)
  | attachment (id : Text) (place : Nat) (flaw : Attachment.Flaw)
deriving DecidableEq, Repr

/-- The wording of a flaw. -/
def Attachment.Flaw.message : Attachment.Flaw → Text
  | untyped => "has no content type"
  | doublePayload => "carries both contentUrl and content"
  | noPayload => "carries neither contentUrl nor content"

namespace Problem

/-- A message about the participants of an activity. -/
def mismatch (id : Text) (context : Text) : Text :=
  Text.concat ["activity '", id, "' has mismatched participants (", context, ")"]

/-- A message about a value. -/
def invalid (context : Text) : Text := Text.concat ["invalid value (", context, ")"]

/-- The wording of a problem. -/
def message : Problem → Text
  | repeatedId id => Text.concat ["duplicate activity id '", id, "'"]
  | sameRole id role => mismatch id (Text.concat ["sender and recipient are both ", role.name])
  | sameAccount id name => mismatch id (Text.concat ["'", name, "' is addressed to itself"])
  | otherConversation id found expected =>
    invalid (Text.concat ["activity '", id, "' belongs to conversation '", found,
      "', expected '", expected, "'"])
  | outOfOrder id time previous =>
    Text.concat ["activity '", id, "' is out of order (timestamp ", Time.Rfc3339.describe time,
      " precedes ", Time.Rfc3339.describe previous, ")"]
  | attachment id place flaw =>
    invalid (Text.concat ["activity '", id, "' attachment ", Text.ofNat place, " ", flaw.message])

end Problem

/-- The flaws of an attachment. -/
def Attachment.flaws (attachment : Attachment) : List Attachment.Flaw :=
  (if Text.trim attachment.contentType = [] then [.untyped] else []) ++
  match attachment.contentUrl, attachment.content with
  | some _, some _ => [.doublePayload]
  | none, none => [.noPayload]
  | _, _ => []

/-- The problems of the attachments of an activity, counted from `place` on. -/
def Attachment.problems (id : Text) : Nat → List Attachment → List Problem
  | _, [] => []
  | place, attachment :: rest =>
    attachment.flaws.map (.attachment id place) ++ Attachment.problems id (place + 1) rest

namespace Activity

/-- The identifiers that occur among `seen` or earlier in the list, once for each repetition. -/
def repeatedIds (seen : List Text) : List Text → List Text
  | [] => []
  | id :: rest => if id ∈ seen then id :: repeatedIds seen rest else repeatedIds (id :: seen) rest

/-- The problems of an activity in a conversation, after the activity before it. -/
def problemsAfter (conversation : Text) (previous : Option Activity) (activity : Activity) :
    List Problem :=
  (if activity.sender.role = activity.recipient.role then
    [.sameRole activity.id activity.sender.role] else []) ++
  (if activity.sender.id = activity.recipient.id then
    [.sameAccount activity.id activity.sender.name] else []) ++
  (if activity.conversation ≠ conversation then
    [.otherConversation activity.id activity.conversation conversation] else []) ++
  (match previous with
    | some before =>
      if activity.time.isBefore before.time then
        [.outOfOrder activity.id activity.time before.time] else []
    | none => []) ++
  Attachment.problems activity.id 0 activity.attachments

/-- The problems of the activities that follow another one. -/
def problemsFrom (conversation : Text) : Option Activity → List Activity → List Problem
  | _, [] => []
  | previous, activity :: rest =>
    problemsAfter conversation previous activity ++ problemsFrom conversation (some activity) rest

/-- The problems of a transcript. The first activity sets the conversation. -/
def problems (activities : List Activity) : List Problem :=
  (repeatedIds [] (activities.map Activity.id)).map .repeatedId ++
  match activities with
  | [] => []
  | first :: _ => problemsFrom first.conversation none activities

end Activity

end Colloquy
