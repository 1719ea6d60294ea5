import Colloquy.Activity.Problem
import Colloquy.Activity.Wire
import Colloquy.Options.Toml
import Colloquy.Transcript

/-!
# The command line

There are two commands: `compile` writes the transcript of a script as JSON, `lint` reports what is
wrong with it. A request is what the arguments ask for, or nothing if they are not well formed. A
run takes a request to an outcome: an exit code, what is printed and the files that are left.
-/

namespace Colloquy.CommandLine

/-- What both commands are told about a script. -/
structure ScriptArguments where
  file : Text
  bot : Option Text := none
  user : Option Text := none
  channel : Option Text := none
  /-- The file with options. -/
  config : Option Text := none
  /-- Whether the clock starts at the epoch. -/
  fromEpoch : Bool := false
deriving DecidableEq, Repr

/-- What a program is asked to do. -/
inductive Request where
  | compile (script : ScriptArguments) (out : Option Text) (compact : Bool)
  | lint (script : ScriptArguments) (denyWarnings : Bool)
  /-- To explain itself, or one of its commands. -/
  | help (command : Option Text)
  | version
deriving DecidableEq, Repr

/-- What a run leaves behind. -/
structure Outcome where
  exit : Nat
  stdout : Text
  stderr : Text
  files : Files.Tree

/-! ### Failures -/

/-- Why a run fails. -/
inductive Failure where
  | options (cause : Options.FileError)
  | source (path : Text) (cause : Files.Failure)
  | script (path : Text) (cause : ScriptError)
  | unwritableTime
  | output (path : Text) (cause : Files.Failure)
  | problems (path : Text) (count : Nat)
  | warnings (path : Text) (count : Nat)
deriving DecidableEq, Repr

namespace Failure

/-- The wording of a failure. -/
def message : Failure → Text
  | options cause => cause.message
  | source path _ => Text.concat ["unable to read '", path, "'"]
  | script path _ => Text.concat ["while parsing '", path, "'"]
  | unwritableTime => "The year component cannot be formatted into the requested format."
  | output path _ => Text.concat ["writing '", path, "'"]
  | problems path count =>
    Text.concat [Text.ofNat count, " transcript problems in '", path, "'"]
  | warnings path count =>
    Text.concat [Text.ofNat count, " warnings in '", path, "' (--deny-warnings)"]

/-- The wordings of what is behind a failure, one behind the other. -/
def causes : Failure → List Text
  | options (.unreadable _ cause) => [cause.message]
  | source _ cause => [cause.message]
  | script _ cause => cause.message :: cause.causes
  | output _ cause => [cause.message]
  | _ => []

/-- A text whose first line has one indentation and the others another. -/
def indented (first others text : Text) : Text :=
  first ++ Text.join ('\n' :: others) (Text.pieces '\n' text)

/-- Causes with their numbers. -/
def numbered : Nat → List Text → List Text
  | _, [] => []
  | n, cause :: rest =>
    let number := Text.ofNat n
    let first := Text.concat [List.replicate (5 - number.length) ' ', number, ": "]
    indented first (List.replicate 7 ' ') cause :: numbered (n + 1) rest

/-- The report of a failure: its message, and below it the causes, numbered if there are several. -/
def report (failure : Failure) : Text :=
  let causes :=
    match failure.causes with
    | [] => []
    | [cause] => [indented (List.replicate 4 ' ') (List.replicate 4 ' ') cause]
    | causes => numbered 0 causes
  let lines :=
    Text.concat ["Error: ", failure.message] ::
      if causes = [] then [] else [] :: "Caused by:".toList :: causes
  Text.join ['\n'] lines ++ ['\n']

end Failure

/-! ### Running -/

/-- The options for a script: those of the file, with what the arguments say on top. -/
def options (world : World) (script : ScriptArguments) : Except Failure Options := do
  let options ←
    match script.config with
    | some path => (Options.ofFile world.files path).mapError .options
    | none => pure {}
  pure { options with
    workingDirectory :=
      options.workingDirectory.or (Options.directoryOf? world.files script.file)
    bot := script.bot.or options.bot
    user := script.user.or options.user
    channel := script.channel.or options.channel
    start := if script.fromEpoch then some Time.Moment.epoch else options.start }

/-- The transcript of a script file. -/
def load (world : World) (script : ScriptArguments) : Except Failure Transcript := do
  let options ← options world script
  let source ← (world.files.readText script.file).mapError (.source script.file)
  (Transcript.ofScript world options source).mapError (.script script.file)

/-- A text as a line of its own. -/
def line (text : Text) : Text := text ++ ['\n']

/-- What is printed about the warnings of a transcript. -/
def warningLines (transcript : Transcript) : Text :=
  transcript.warnings.flatMap fun warning => line ("warning: ".toList ++ warning.message)

/-- What is printed about the problems of a transcript. -/
def problemLines (problems : List Problem) : Text :=
  problems.flatMap fun problem => line ("error: ".toList ++ problem.message)

/-- The outcome of a run that fails after some lines have been printed. -/
def failed (world : World) (printed : Text) (failure : Failure) : Outcome :=
  ⟨1, [], printed ++ failure.report, world.files⟩

/-- Writes the transcript of a script. -/
def compile (world : World) (script : ScriptArguments) (out : Option Text) (compact : Bool) :
    Outcome :=
  match load world script with
  | .error failure => failed world [] failure
  | .ok transcript =>
    let printed := warningLines transcript
    match Activity.writeAll? (if compact then .compact else .pretty) transcript.activities with
    | none => failed world printed .unwritableTime
    | some text =>
      match out with
      | none => ⟨0, line text, printed, world.files⟩
      | some path =>
        match world.files.write path (Utf8.encode (line text)) with
        | .error cause => failed world printed (.output path cause)
        | .ok files => ⟨0, [], printed, files⟩

/-- Reports what is wrong with the transcript of a script. -/
def lint (world : World) (script : ScriptArguments) (denyWarnings : Bool) : Outcome :=
  match load world script with
  | .error failure => failed world [] failure
  | .ok transcript =>
    let problems := Activity.problems transcript.activities
    let printed := warningLines transcript ++ problemLines problems
    let count := transcript.warnings.length
    if problems ≠ [] then failed world printed (.problems script.file problems.length)
    else if denyWarnings ∧ count ≠ 0 then failed world printed (.warnings script.file count)
    else
      let verdict := Text.concat ["lint: OK (", Text.ofNat transcript.activities.length,
        " activities, ", Text.ofNat count, " warnings)"]
      ⟨0, [], printed ++ line verdict, world.files⟩

end Colloquy.CommandLine
