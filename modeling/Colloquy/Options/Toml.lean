import Colloquy.Options
import Colloquy.Time.Rfc3339
import Colloquy.Toml.Document

/-!
# Options from a file

Options are read from a TOML document. Every field may be missing, and keys that mean nothing are
ignored; a field with a value of another kind spoils the document.
-/

namespace Colloquy.Options

open Toml (Entries)

/-- A field that may be missing. -/
def field? {α : Type} (entries : Entries) (key : Text) (value? : Toml → Option α) :
    Option (Option α) :=
  match Toml.find? key entries with
  | none => some none
  | some value => (value? value).map some

/-- A natural number with a greatest value. -/
def nat? (greatest : Nat) (value : Toml) : Option Nat := do
  let n ← value.int?
  if 0 ≤ n ∧ n ≤ greatest then some n.toNat else none

/-- The entries with one more, in its place among the keys. -/
def insertSorted (entry : Text × Text) : List (Text × Text) → List (Text × Text)
  | [] => [entry]
  | first :: rest =>
    if Text.precedes entry.1 first.1 then entry :: first :: rest
    else first :: insertSorted entry rest

/-- Directives in the order of their keys. -/
def sorted (directives : List (Text × Text)) : List (Text × Text) :=
  directives.foldr insertSorted []

/-- The directives of a table of strings. -/
def directives? (value : Toml) : Option (List (Text × Text)) := do
  let entries ← value.entries?
  let directives ← entries.mapM fun entry => entry.2.text?.map fun value => (entry.1, value)
  pure (sorted directives)

/-- The moment of a string. -/
def moment? (value : Toml) : Option Time.Moment := do
  let text ← value.text?
  Time.Rfc3339.read? text

/-- The options that a document sets. -/
def ofToml? (text : Text) : Option Options := do
  let entries ← Toml.read? text
  let defaults : Options := {}
  pure {
    bot := ← field? entries "bot" Toml.text?
    user := ← field? entries "user" Toml.text?
    channel := ← field? entries "channel_id" Toml.text?
    directives := (← field? entries "directives" directives?).getD defaults.directives
    workingDirectory := ← field? entries "working_dir" Toml.text?
    gap := (← field? entries "message_gap_ms" Toml.int?).getD defaults.gap
    start := ← field? entries "start_time" moment?
    probeTimeout := (← field? entries "probe_timeout_secs" (nat? 18446744073709551615)).getD
      defaults.probeTimeout
    probeRetries := (← field? entries "probe_retries" (nat? 4294967295)).getD
      defaults.probeRetries }

/-- Why a file gives no options. -/
inductive FileError where
  | unreadable (path : Text) (failure : Files.Failure)
  | malformed (path : Text)
deriving DecidableEq, Repr

/-- The wording of an error. -/
def FileError.message : FileError → Text
  | unreadable path _ => Text.concat ["reading options from '", path, "'"]
  | malformed path => Text.concat ["parsing options TOML from '", path, "'"]

/-- The options that a file sets. -/
def ofFile (files : Files.Tree) (path : Text) : Except FileError Options := do
  let text ← (files.readText path).mapError (.unreadable path)
  match ofToml? text with
  | some options => pure options
  | none => .error (.malformed path)

example : (ofToml? "bot = \"Zoe\"\n[directives]\nb = '1'\na = '2'\n").map seeds =
    some ([("a", "2"), ("b", "1"), ("bot", "Zoe")] : List (Text × Text)) := by decide +kernel
example : (ofToml? "message_gap_ms = \"soon\"").isNone = true := by decide +kernel

end Colloquy.Options
