import Colloquy.Attachment.Resolve
import Colloquy.Configuration

/-!
# Errors and warnings

An error ends the reading of a script, a warning only leaves a command out. Both say in which line
they arose; an error also quotes the line.

There is no error for names of which no turn pattern can be made. A library that compiles patterns
may refuse very long names, while `TurnPattern.ofParticipants` never fails.
-/

namespace Colloquy

/-- What ends the reading of a script. -/
inductive ScriptError where
  | format (line : Nat) (text : Text) (cause : ConfigError)
  | reference (line : Nat) (text : Text)
  | noOpenTurn (line : Nat) (text : Text)
  | attachment (line : Nat) (cause : AttachmentError)
deriving DecidableEq, Repr

/-- A message about a line. -/
def atLine (line : Nat) (message : Text) : Text :=
  Text.concat ["line ", Text.ofNat line, ": ", message]

namespace ScriptError

/-- The wording of an error. -/
def message : ScriptError → Text
  | format line text cause => atLine line <|
    Text.concat ["malformed configuration '", text, "': ", cause.message]
  | reference line text => atLine line <| Text.concat
    ["cannot reference \"bot\" or \"user\" before both are configured ('", text, "')"]
  | noOpenTurn line text => atLine line <| Text.concat
    ["dialogue appears before the first turn marker ('", text, "')"]
  | attachment line cause => atLine line cause.message

/-- The wordings of what is behind an error, one behind the other. -/
def causes : ScriptError → List Text
  | format _ _ cause => [cause.message]
  | attachment _ cause => cause.message :: cause.cause?.toList
  | _ => []

end ScriptError

/-- Why a command was left out. -/
inductive Warning where
  | unknownTag (line : Nat) (tag : Text)
  | invalidLayout (line : Nat) (value : Text)
  | invalidDelay (line : Nat) (value : Text)
  | missingArgument (line : Nat) (tag : Text)
deriving DecidableEq, Repr

/-- The wording of a warning. -/
def Warning.message : Warning → Text
  | unknownTag line tag => atLine line (Text.concat ["skipping unknown tag ", tag])
  | invalidLayout line value =>
    atLine line (Text.concat ["AttachmentLayout of '", value, "' is not List or Carousel"])
  | invalidDelay line value =>
    atLine line (Text.concat ["delay '", value, "' is not a whole number of milliseconds"])
  | missingArgument line tag => atLine line (Text.concat [tag, " needs an argument"])

end Colloquy
