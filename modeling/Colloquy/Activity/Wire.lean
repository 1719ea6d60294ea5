import Colloquy.Activity
import Colloquy.Json.Outline
import Colloquy.Json.Writer
import Colloquy.Time.Rfc3339

/-!
# Transcripts as JSON

A transcript is written as an array of activities. Members come in a fixed order; attachments and
layout are left out when there are none, and so is the empty place of an attachment.

Reading takes a record as an object, in any order of its members, each at most once and unknown
ones ignored, or as an array of the values in their order. What writing may leave out may be
missing, and so may the text; null stands for a missing layout, URL or content.
-/

namespace Colloquy

open Json (Outline)

/-! ### Writing -/

/-- The record of an account. -/
def Account.toJson (account : Account) : Json :=
  .object [("id", .string account.id), ("name", .string account.name),
    ("role", .string account.role.name)]

/-- A member that is left out when it has no value. -/
def optionalMember (key : Text) : Option Json → List (Text × Json)
  | none => []
  | some value => [(key, value)]

/-- The record of an attachment. -/
def Attachment.toJson (attachment : Attachment) : Json :=
  .object <| ("contentType", .string attachment.contentType) ::
    (optionalMember "contentUrl" (attachment.contentUrl.map .string) ++
      optionalMember "content" attachment.content)

/-- The attachments of an activity as an array, if there are any. -/
def Attachment.toJson? : List Attachment → Option Json
  | [] => none
  | attachments => some (.array (attachments.map toJson))

/-- The record of an activity, if its time can be written. -/
def Activity.toJson? (activity : Activity) : Option Json :=
  (Time.Rfc3339.write? activity.time).map fun time =>
    .object <| ("id", .string activity.id) :: ("type", .string activity.kind.name) ::
      ("from", activity.sender.toJson) :: ("recipient", activity.recipient.toJson) ::
      ("conversation", .object [("id", .string activity.conversation)]) ::
      ("timestamp", .string time) :: ("text", .string activity.text) ::
      (optionalMember "attachments" (Attachment.toJson? activity.attachments) ++
        optionalMember "attachmentLayout" (activity.layout.map fun layout => .string layout.name))

/-- The JSON text of a transcript, if every time in it can be written. -/
def Activity.writeAll? (style : Json.Style) (activities : List Activity) : Option Text :=
  (activities.mapM Activity.toJson?).map fun records => (Json.array records).write style

/-! ### Reading -/

namespace Wire

/-- The values of a record by their names. -/
def record? (names : List Text) : Outline → Option (Text → Option Outline)
  | .leaf _ => none
  | .array items =>
    if items.length ≤ names.length then some fun name => items[names.idxOf name]? else none
  | .object members =>
    let named (name : Text) := members.filter fun entry => entry.1 == some name
    if members.all (fun entry => entry.1.isSome) && names.all (fun name => (named name).length ≤ 1)
    then some fun name => (named name).head?.map Prod.snd
    else none

/-- The text of a string. -/
def text? : Outline → Option Text
  | .leaf (some (.string text)) => some text
  | _ => none

/-- The name of one of several alternatives: a string, or the key of a single null. -/
def choice? : Outline → Option Text
  | .leaf (some (.string name)) => some name
  | .object [(some name, .leaf (some .null))] => some name
  | _ => none

/-- The items of an array, each read in the same way. -/
def items? {α : Type} (item? : Outline → Option α) : Outline → Option (List α)
  | .array items => items.mapM item?
  | _ => none

/-- What may be missing or null. -/
def optional? {α : Type} (value? : Outline → Option α) : Option Outline → Option (Option α)
  | none => some none
  | some (.leaf (some .null)) => some none
  | some outline => (value? outline).map some

/-- The side that an outline names. -/
def role? (outline : Outline) : Option Role := do
  let name ← choice? outline
  [Role.bot, Role.user].find? fun role => role.name == name

/-- The kind that an outline names. -/
def kind? (outline : Outline) : Option ActivityKind := do
  let name ← choice? outline
  ActivityKind.all.find? fun kind => kind.name == name

/-- The layout that an outline names. -/
def layout? (outline : Outline) : Option Layout := do
  let name ← choice? outline
  [Layout.list, Layout.carousel].find? fun layout => layout.name == name

/-- The account of a record. -/
def account? (outline : Outline) : Option Account := do
  let value ← record? ["id", "name", "role"] outline
  pure {
    id := ← (value "id").bind text?
    name := ← (value "name").bind text?
    role := ← (value "role").bind role? }

/-- The conversation of a record. -/
def conversation? (outline : Outline) : Option Text := do
  let value ← record? ["id"] outline
  (value "id").bind text?

/-- The levels of arrays and objects around the content of an attachment. -/
def levelsAround : Nat := 4

/-- A content of no more levels than can be read. -/
def content? (outline : Outline) : Option Json :=
  if outline.depth + levelsAround ≤ Outline.deepest then outline.toJson? else none

/-- The attachment of a record. -/
def attachment? (outline : Outline) : Option Attachment := do
  let value ← record? ["contentType", "contentUrl", "content"] outline
  pure {
    contentType := ← (value "contentType").bind text?
    contentUrl := ← optional? text? (value "contentUrl")
    content := ← optional? content? (value "content") }

/-- The moment of a text. -/
def time? (outline : Outline) : Option Time.Moment := do
  let text ← text? outline
  Time.Rfc3339.read? text

/-- The activity of a record. -/
def activity? (outline : Outline) : Option Activity := do
  let value ← record? ["id", "type", "from", "recipient", "conversation", "timestamp", "text",
    "attachments", "attachmentLayout"] outline
  pure {
    id := ← (value "id").bind text?
    kind := ← (value "type").bind kind?
    sender := ← (value "from").bind account?
    recipient := ← (value "recipient").bind account?
    conversation := ← (value "conversation").bind conversation?
    time := ← (value "timestamp").bind time?
    text := ← ((value "text").map text?).getD (some [])
    attachments := ← ((value "attachments").map (items? attachment?)).getD (some [])
    layout := ← optional? layout? (value "attachmentLayout") }

end Wire

/-- The transcript that a JSON text is. -/
def Activity.readAll? (text : Text) : Option (List Activity) :=
  (Outline.read? false text).toOption.bind (Wire.items? Wire.activity?)

end Colloquy
