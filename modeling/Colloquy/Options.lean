import Colloquy.Configuration
import Colloquy.Files.Tree
import Colloquy.Time.Clock

/-!
# Options

What is given along with a script: directives that hold from the start, where attachments are, the
gap and the start of the clock, and how patiently servers are asked.
-/

namespace Colloquy

/-- What is given along with a script. -/
structure Options where
  bot : Option Text := none
  user : Option Text := none
  channel : Option Text := none
  /-- Other directives, in the order of their keys. -/
  directives : List (Text × Text) := []
  workingDirectory : Option Text := none
  /-- Milliseconds between activities. -/
  gap : Int := Time.Clock.defaultGap
  /-- The start of the clock, if it is fixed. -/
  start : Option Time.Moment := none
  /-- Seconds that a server has for an answer. -/
  probeTimeout : Nat := 10
  /-- How often a server is asked again. -/
  probeRetries : Nat := 1
deriving DecidableEq, Repr

namespace Options

/-- The directives to start with, as keys and values. The fields of their own come last, so they
win. -/
def seeds (options : Options) : List (Text × Text) :=
  options.directives ++
    (options.channel.toList.map fun value => (Configuration.channelKey, value)) ++
    (options.bot.toList.map fun value => (Role.bot.name, value)) ++
    options.user.toList.map fun value => (Role.user.name, value)

/-- The directory that a script is in. -/
def directoryOf? (files : Files.Tree) (script : Text) : Option Text :=
  Path.parent? ((files.canonical? script).getD script)

/-- The options for a script of which nothing else is known. -/
def forScript (files : Files.Tree) (script : Text) : Options :=
  { workingDirectory := directoryOf? files script }

end Options

end Colloquy
