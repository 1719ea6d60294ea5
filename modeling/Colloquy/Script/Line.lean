import Colloquy.Configuration

/-!
# Lines

A script is cut at its line breaks; lines that are blank do not count, but have a number. A line is
a directive, opens a turn, or goes on with the dialogue. Directives are known by their keys alone.
A turn starts with a name or a keyword, in letters of any case, and a colon; which names there are
a turn pattern knows.
-/

namespace Colloquy

/-- A line with its number, counted from one. -/
structure Line where
  number : Nat
  text : Text
deriving DecidableEq, Repr

namespace Line

/-- The raw lines with their numbers, trimmed, without those that are blank. -/
def numbered : Nat → List Text → List Line
  | _, [] => []
  | number, raw :: rest =>
    let text := Text.trim raw
    if text = [] then numbered (number + 1) rest
    else ⟨number, text⟩ :: numbered (number + 1) rest

/-- The lines of a script. -/
def ofSource (source : Text) : List Line := numbered 1 (Text.pieces '\n' source)

end Line

/-- The names that open turns. -/
structure TurnPattern where
  bot : Text
  user : Text
deriving DecidableEq, Repr

namespace TurnPattern

/-- The pattern for the names of the participants. It is taken for granted that there is one for every
two names, of whatever length. -/
def ofParticipants (participants : Participants) : TurnPattern :=
  ⟨participants.bot.name, participants.user.name⟩

/-- The names and keywords, in the order in which they are tried. -/
def names (pattern : TurnPattern) : List Text :=
  [pattern.bot, pattern.user, Role.bot.name, Role.user.name]

/-- The name that a text starts with, as it is written there, and what follows the colon. -/
def splitName? (text name : Text) : Option (Text × Text) :=
  let (speaker, rest) := text.splitAt name.length
  match rest with
  | ':' :: remainder => if Text.fold speaker = Text.fold name then some (speaker, remainder) else none
  | _ => none

/-- The speaker of the turn that a text opens and what is said. -/
def split? (pattern : TurnPattern) (text : Text) : Option (Text × Text) :=
  pattern.names.findSome? (splitName? text)

end TurnPattern

/-- What a line means. -/
inductive LineEvent where
  | directive (key value : Text)
  | turn (speaker remainder : Text)
  | content (text : Text)
deriving DecidableEq, Repr

namespace LineEvent

/-- The keys of directives. -/
def keys : List Text := [Role.bot.name, Role.user.name, Configuration.channelKey]

/-- The key and the value of a directive. -/
def directive? (text : Text) : Option (Text × Text) :=
  keys.findSome? fun key => (Text.after? (key ++ ['=']) text).map fun value => (key, value)

/-- What a line means when turns are opened as a pattern says, if there is one. -/
def ofText (turns : Option TurnPattern) (text : Text) : LineEvent :=
  match directive? text with
  | some (key, value) => .directive key value
  | none =>
    match turns.bind fun pattern => pattern.split? text with
    | some (speaker, remainder) => .turn speaker remainder
    | none => .content text

end LineEvent

example : Line.ofSource "  bot=Zoe \r\n\n\t\nZoe: hi\n" =
    [⟨1, "bot=Zoe"⟩, ⟨4, "Zoe: hi"⟩] := by decide
example : LineEvent.ofText none "bot=Zoe=Sam" = .directive "bot" "Zoe=Sam" := by decide
example : TurnPattern.split? ⟨"R2.D2 (bot)", "Luke"⟩ "r2.d2 (BOT): beep" =
    some ("r2.d2 (BOT)".toList, " beep".toList) := by decide +kernel

end Colloquy
