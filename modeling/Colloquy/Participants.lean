import Colloquy.Activity
import Colloquy.Identifier
import Colloquy.Text.Casing

/-!
# Participants

The two accounts of a conversation, made from their names. A speaker is named by a declared name,
without regard to letter case, or by the keyword of a side; a declared name counts first, and of
two names that differ in case only the one of the user.
-/

namespace Colloquy

/-- The two sides of a conversation. -/
structure Participants where
  bot : Account
  user : Account
deriving DecidableEq, Repr

/-- The account of a side under a name. -/
def Account.ofName (role : Role) (name : Text) : Account := ⟨Identifier.ofName name, name, role⟩

namespace Participants

/-- The participants with these names. -/
def ofNames (bot user : Text) : Participants := ⟨.ofName .bot bot, .ofName .user user⟩

/-- The account of a side. -/
def account (participants : Participants) : Role → Account
  | .bot => participants.bot
  | .user => participants.user

/-- The account declared under a name, in letters of either case. -/
def byName? (participants : Participants) (name : Text) : Option Account :=
  [participants.user, participants.bot].find? fun account =>
    Text.lowercase account.name == Text.lowercase name

/-- The account with an identifier. -/
def byId? (participants : Participants) (id : Text) : Option Account :=
  [participants.user, participants.bot].find? fun account => account.id == id

/-- The side whose keyword a text is, in letters of either case. -/
def keywordRole? (token : Text) : Option Role :=
  [Role.bot, Role.user].find? fun role => Text.sameLetters token role.name

/-- The side that a speaker stands for. -/
def speakerRole? (participants : Participants) (token : Text) : Option Role :=
  ((participants.byName? token).map Account.role).or (keywordRole? token)

@[simp] theorem role_ofName (role : Role) (name : Text) : (Account.ofName role name).role = role := rfl

@[simp] theorem name_ofName (role : Role) (name : Text) : (Account.ofName role name).name = name := rfl

@[simp] theorem id_ofName (role : Role) (name : Text) :
    (Account.ofName role name).id = Identifier.ofName name := rfl

end Participants

end Colloquy
