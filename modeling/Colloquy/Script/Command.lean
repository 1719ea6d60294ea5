import Colloquy.Activity

/-!
# Inline commands

A command stands in brackets in the text of a script: a name, and an argument after `=` or, if
there is no `=`, after `:`. The name, in letters of either case, is that of an activity kind, of a
field of the activity or of the instruction to wait.
-/

namespace Colloquy

/-- What the name of a command stands for. -/
inductive Tag where
  | opens (kind : ActivityKind)
  | attachment
  | layout
  | delay
  | unknown
deriving DecidableEq, Repr

/-- What a name stands for. -/
def Tag.ofName (name : Text) : Tag :=
  let name := Text.trim name
  match ActivityKind.ofName? name with
  | some kind => .opens kind
  | none =>
    if Text.sameLetters name "attachment" then .attachment
    else if Text.sameLetters name "attachmentLayout" then .layout
    else if Text.sameLetters name "delay" then .delay
    else .unknown

/-- A command without its brackets. -/
structure Command where
  name : Text
  argument : Option Text
deriving DecidableEq, Repr

namespace Command

/-- The command in a body: cut at its first `=`, or else at its first `:`. -/
def ofBody (body : Text) : Command :=
  match (Text.cutFirst? '=' body).or (Text.cutFirst? ':' body) with
  | some (name, argument) => ⟨Text.trim name, some (Text.trim argument)⟩
  | none => ⟨Text.trim body, none⟩

/-- What the command is about. -/
def tag (command : Command) : Tag := .ofName command.name

/-- A body in its brackets. -/
def bracketed (body : Text) : Text := '[' :: body ++ [']']

end Command

/-- The kinds, fields and instructions have names of their own. -/
theorem Tag.ofName_name (kind : ActivityKind) : Tag.ofName kind.name = .opens kind := by
  cases kind <;> decide

example : (Command.ofBody "Attachment = https://x.test/a.png image/png ").argument =
    some "https://x.test/a.png image/png".toList := by decide
example : (Command.ofBody " DELAY:500").tag = .delay := by decide

end Colloquy
