import Colloquy.CommandLine

/-!
# Arguments

Arguments are taken from left to right: a command first, then its options, flags and the script in
any order. An option has its value behind `=` or in the next argument, which then cannot start
with a dash; nothing may be given twice. After `--` every argument is a script. Asking for help
ends the reading at once.
-/

namespace Colloquy.CommandLine

/-- The options and flags of a command. -/
structure Vocabulary where
  /-- The options, each with whether its value is a path, which cannot be empty. -/
  options : List (Text × Bool)
  flags : List Text

/-- What both commands understand. -/
def scriptOptions : List (Text × Bool) :=
  [("--bot", false), ("--user", false), ("--channel-id", false), ("--config", true)]

/-- The options and flags of `compile`. -/
def compileVocabulary : Vocabulary := ⟨("--out", true) :: scriptOptions, ["--static", "--compact"]⟩

/-- The options and flags of `lint`. -/
def lintVocabulary : Vocabulary := ⟨scriptOptions, ["--static", "--deny-warnings"]⟩

/-- What has been given so far. -/
structure Given where
  values : List (Text × Text) := []
  flags : List Text := []
  file : Option Text := none
deriving DecidableEq, Repr

/-- What one or two arguments of a command say. -/
inductive Item where
  | value (name value : Text) (isPath : Bool)
  | flag (name : Text)
  | file (path : Text)
  | help
  | wrong
deriving DecidableEq, Repr

/-- What the arguments of a command come to. -/
inductive Reading where
  | complete (given : Given)
  | help
  | wrong
deriving DecidableEq, Repr

namespace Given

/-- The value of an option. -/
def value? (given : Given) (name : Text) : Option Text :=
  (given.values.find? fun entry => entry.1 == name).map Prod.snd

/-- With the value of an option. -/
def addValue? (given : Given) (name value : Text) (isPath : Bool) : Option Given :=
  if (given.value? name).isSome ∨ (isPath = true ∧ value = []) then none
  else some { given with values := (name, value) :: given.values }

/-- With a flag. -/
def addFlag? (given : Given) (name : Text) : Option Given :=
  if given.flags.contains name then none else some { given with flags := name :: given.flags }

/-- With the script. -/
def addFile? (given : Given) (file : Text) : Option Given :=
  if given.file.isSome ∨ file = [] then none else some { given with file := some file }

end Given

/-- With what an argument says, if it can be given. -/
def Given.add? (given : Given) : Item → Option Given
  | .value name value isPath => given.addValue? name value isPath
  | .flag name => given.addFlag? name
  | .file path => given.addFile? path
  | _ => none

/-- What an argument is by itself. -/
inductive Shape where
  /-- All arguments after it are scripts. -/
  | separator
  /-- The name of an option whose value comes next. -/
  | name (name : Text) (isPath : Bool)
  | item (item : Item)
deriving DecidableEq, Repr

/-- What an argument is by itself. -/
def shape (vocabulary : Vocabulary) (argument : Text) : Shape :=
  let (name, value) := (Text.cutFirst? '=' argument).elim (argument, none) fun cut =>
    (cut.1, some cut.2)
  if argument = ['-', '-'] then .separator
  else if argument.head? ≠ some '-' ∨ argument = ['-'] then .item (.file argument)
  else if argument = "--help".toList ∨ argument.take 2 = ['-', 'h'] then .item .help
  else
    match vocabulary.options.find? (fun entry => entry.1 == name), value with
    | some (_, isPath), some value => .item (.value name value isPath)
    | some (_, isPath), none => .name name isPath
    | none, _ =>
      .item (if vocabulary.flags.contains argument then .flag argument else .wrong)

/-- What arguments say. -/
def items (vocabulary : Vocabulary) : List Text → List Item
  | [] => []
  | [argument] =>
    match shape vocabulary argument with
    | .separator => []
    | .name _ _ => [.wrong]
    | .item item => [item]
  | argument :: next :: rest =>
    match shape vocabulary argument with
    | .separator => (next :: rest).map .file
    | .name name isPath =>
      if next.head? = some '-' ∧ next ≠ ['-'] then [.wrong]
      else .value name next isPath :: items vocabulary rest
    | .item item => item :: items vocabulary (next :: rest)

/-- What comes of items, from left to right. -/
def readItems : Given → List Item → Reading
  | given, [] => .complete given
  | _, .help :: _ => .help
  | given, item :: rest =>
    match given.add? item with
    | some given => readItems given rest
    | none => .wrong

/-- Reads the arguments of a command. -/
def readArguments (vocabulary : Vocabulary) (arguments : List Text) : Reading :=
  readItems {} (items vocabulary arguments)

/-- The script arguments among what is given. -/
def Given.script? (given : Given) : Option ScriptArguments :=
  given.file.map fun file =>
    { file
      bot := given.value? "--bot"
      user := given.value? "--user"
      channel := given.value? "--channel-id"
      config := given.value? "--config"
      fromEpoch := given.flags.contains "--static" }

/-- The request of the command with some arguments. -/
def Reading.request? (command : Text) (make : Given → ScriptArguments → Request) :
    Reading → Option Request
  | .complete given => given.script?.map (make given)
  | .help => some (.help (some command))
  | .wrong => none

/-- The names of the commands that have an explanation. -/
def commands : List Text := ["compile", "lint", "help"]

/-- The request that arguments make. -/
def Request.ofArguments? : List Text → Option Request
  | [] => none
  | command :: rest =>
    if command = "compile".toList then
      (readArguments compileVocabulary rest).request? command fun given script =>
        .compile script (given.value? "--out") (given.flags.contains "--compact")
    else if command = "lint".toList then
      (readArguments lintVocabulary rest).request? command fun given script =>
        .lint script (given.flags.contains "--deny-warnings")
    else if command = "help".toList then
      match rest with
      | [] => some (.help none)
      | [topic] =>
        if commands.contains topic then some (.help (some topic)) else none
      | _ => none
    else if command = "--help".toList ∨ command.take 2 = ['-', 'h'] then some (.help none)
    else if command = "--version".toList ∨ command.take 2 = ['-', 'V'] then some .version
    else none

/-- The text of several lines. -/
def lines (texts : List Text) : Text := texts.flatMap line

/-- The options of both commands as they are explained. -/
def explainedOptions : List Text :=
  ["      --bot <BOT>        Bot participant name (same as a \x60bot=\x60 line)",
    "      --user <USER>      User participant name (same as a \x60user=\x60 line)",
    "      --channel-id <ID>  Conversation id stamped on every activity",
    "      --config <FILE>    TOML file with parse options",
    "      --static           Start timestamps at the Unix epoch for reproducible output"]

/-- The explanation of a command. -/
def explained (command about : Text) (options : List Text) : Text :=
  lines ([about, [], Text.concat ["Usage: chatdown ", command, " [OPTIONS] <FILE>"], [],
    "Arguments:", "  <FILE>  The chat script to read", [], "Options:"] ++ explainedOptions ++
    options ++ ["  -h, --help             Print help".toList])

/-- The text that explains the program or one of its commands. -/
def helpText (command : Option Text) : Text :=
  if command = some "compile".toList then
    explained "compile" "Parse a script and write its transcript as JSON"
      ["      --out <FILE>       Write the transcript here instead of stdout",
        "      --compact          Emit single-line JSON"]
  else if command = some "lint".toList then
    explained "lint" "Parse a script, check transcript invariants, and report warnings"
      ["      --deny-warnings    Fail when the parser reported any warnings"]
  else if command = some "help".toList then
    lines ["Print this message or the help of the given subcommand(s)", [],
      "Usage: chatdown help [COMMAND]...", [], "Arguments:",
      "  [COMMAND]...  Print help for the subcommand(s)"]
  else
    lines ["Convert chat scripts into conversation activity transcripts.", [],
      "Usage: chatdown <COMMAND>", [], "Commands:",
      "  compile  Parse a script and write its transcript as JSON",
      "  lint     Parse a script, check transcript invariants, and report warnings",
      "  help     Print this message or the help of the given subcommand(s)", [], "Options:",
      "  -h, --help     Print help", "  -V, --version  Print version"]

/-- What a request comes to. -/
def Request.run (world : World) : Request → Outcome
  | .compile script out compact => CommandLine.compile world script out compact
  | .lint script denyWarnings => CommandLine.lint world script denyWarnings
  | .help command => ⟨0, helpText command, [], world.files⟩
  | .version => ⟨0, "chatdown_script 0.1.0\n", [], world.files⟩

/-- The exit code of a program that is called wrongly. -/
def wrongUsage : Nat := 2

/-- What is printed when the arguments make no request. -/
def usageText : Text :=
  lines ["Usage: chatdown <COMMAND>", [], "For more information, try '--help'."]

/-- What the program does with its arguments. -/
def run (world : World) (arguments : List Text) : Outcome :=
  match Request.ofArguments? arguments with
  | some request => request.run world
  | none => ⟨wrongUsage, [], usageText, world.files⟩

example : Request.ofArguments? ["compile", "--bot=", "--static", "x.chat"] =
    some (.compile ⟨"x.chat", some [], none, none, none, true⟩ none false) := by decide
example : Request.ofArguments? ["lint", "--bot", "--static", "x.chat"] = none := by decide

end Colloquy.CommandLine
