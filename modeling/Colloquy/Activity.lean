import Colloquy.Json
import Colloquy.Text.Ascii
import Colloquy.Text.Blank
import Colloquy.Time.Moment

/-!
# Activities

A conversation has two sides, the bot and the user. What happens in it is a list of activities:
each has a kind, goes from one account to another, carries a time and a text, and may carry
attachments. Kinds and layouts have names, which scripts may write in letters of either case.
-/

namespace Colloquy

/-- A side of the conversation. -/
inductive Role where
  | bot
  | user
deriving DecidableEq, Repr

namespace Role

/-- The other side. -/
def opposite : Role → Role
  | bot => user
  | user => bot

/-- The name of a side, which is also its keyword in scripts. -/
def name : Role → Text
  | bot => "bot"
  | user => "user"

@[simp] theorem opposite_opposite (role : Role) : role.opposite.opposite = role := by
  cases role <;> rfl

theorem opposite_ne (role : Role) : role.opposite ≠ role := by cases role <;> decide

end Role

/-- One who takes part in a conversation. -/
structure Account where
  id : Text
  name : Text
  role : Role
deriving DecidableEq, Repr

/-- What kind of event an activity is. -/
inductive ActivityKind where
  | message
  | contactRelationUpdate
  | conversationUpdate
  | typing
  | endOfConversation
  | event
  | invoke
  | deleteUserData
  | messageUpdate
  | messageDelete
  | installationUpdate
  | messageReaction
  | suggestion
  | trace
  | handoff
deriving DecidableEq, Repr

namespace ActivityKind

/-- All kinds. -/
def all : List ActivityKind :=
  [message, contactRelationUpdate, conversationUpdate, typing, endOfConversation, event, invoke,
    deleteUserData, messageUpdate, messageDelete, installationUpdate, messageReaction, suggestion,
    trace, handoff]

/-- The name of a kind in transcripts. -/
def name : ActivityKind → Text
  | message => "message"
  | contactRelationUpdate => "contactRelationUpdate"
  | conversationUpdate => "conversationUpdate"
  | typing => "typing"
  | endOfConversation => "endOfConversation"
  | event => "event"
  | invoke => "invoke"
  | deleteUserData => "deleteUserData"
  | messageUpdate => "messageUpdate"
  | messageDelete => "messageDelete"
  | installationUpdate => "installationUpdate"
  | messageReaction => "messageReaction"
  | suggestion => "suggestion"
  | trace => "trace"
  | handoff => "handoff"

/-- The kind with this name, in letters of either case. -/
def ofName? (text : Text) : Option ActivityKind := all.find? fun kind => Text.sameLetters kind.name text

theorem mem_all (kind : ActivityKind) : kind ∈ all := by cases kind <;> decide

/-- Reading the name of a kind gives the kind. -/
theorem ofName?_name (kind : ActivityKind) : ofName? kind.name = some kind := by
  cases kind <;> decide

end ActivityKind

/-- How several attachments are shown. -/
inductive Layout where
  | list
  | carousel
deriving DecidableEq, Repr

namespace Layout

/-- The name of a layout. -/
def name : Layout → Text
  | list => "list"
  | carousel => "carousel"

/-- The layout with this name, in letters of either case and between blanks. -/
def ofName? (text : Text) : Option Layout :=
  let text := Text.trim text
  if Text.sameLetters text list.name then some list
  else if Text.sameLetters text carousel.name then some carousel
  else none

/-- Reading the name of a layout gives the layout. -/
theorem ofName?_name (layout : Layout) : ofName? layout.name = some layout := by
  cases layout <;> decide

end Layout

/-- A file, a card or something remote that goes with an activity. Its payload is in one of two
places: behind a URL, which may hold the data itself, or inline as content. -/
structure Attachment where
  contentType : Text
  contentUrl : Option Text
  content : Option Json
deriving DecidableEq, Repr

namespace Attachment

/-- An attachment behind a URL. -/
def ofUrl (contentType url : Text) : Attachment := ⟨contentType, some url, none⟩

/-- An attachment with inline content. -/
def ofContent (contentType : Text) (content : Json) : Attachment := ⟨contentType, none, some content⟩

end Attachment

/-- One event of a conversation. -/
structure Activity where
  id : Text
  kind : ActivityKind
  sender : Account
  recipient : Account
  /-- The conversation that the activity belongs to. -/
  conversation : Text
  time : Time.Moment
  text : Text := []
  attachments : List Attachment := []
  layout : Option Layout := none
deriving DecidableEq, Repr

end Colloquy
