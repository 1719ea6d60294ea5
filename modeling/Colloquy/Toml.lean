import Colloquy.Text

/-!
# TOML values

A value of a configuration file. Numbers other than integers, and dates and times, keep the text in
which they are written. A table remembers how it came about, because that decides where it can be
extended: `define` and `openTable` say so.
-/

namespace Colloquy

/-- How a table came about. -/
inductive Toml.Origin where
  /-- By a header of its own. -/
  | header
  /-- As part of a longer header. -/
  | implied
  /-- As part of a dotted key. -/
  | dotted
deriving DecidableEq, Repr

/-- A value of a configuration file. -/
inductive Toml where
  | string (value : Text)
  | integer (value : Int)
  | float (text : Text)
  | boolean (value : Bool)
  | dateTime (text : Text)
  | array (items : List Toml)
  | inlineTable (entries : List (Text × Toml))
  | table (origin : Toml.Origin) (entries : List (Text × Toml))
  | tables (all : List (List (Text × Toml)))
deriving Repr, Inhabited

namespace Toml

/-- The keys of a table and their values. -/
abbrev Entries := List (Text × Toml)

/-- The value of a key. -/
def find? (key : Text) (entries : Entries) : Option Toml :=
  (entries.find? fun entry => entry.1 == key).map Prod.snd

/-- The entries with a value for a key, which replaces the one that it has. -/
def set (key : Text) (value : Toml) : Entries → Entries
  | [] => [(key, value)]
  | entry :: rest => if entry.1 = key then (key, value) :: rest else entry :: set key value rest

/-- The entries after a change in the table at the end of a path. Tables on the way that do not
exist are made, and for a dotted key those that have a header cannot be gone through. Of several
tables in an array the last one is meant. -/
def alter (origin : Origin) (change : Origin → Entries → Option Entries) :
    List Text → Origin → Entries → Option Entries
  | [], this, entries => change this entries
  | key :: path, _, entries =>
    match find? key entries with
    | none => do
      let inner ← alter origin change path origin []
      pure (set key (.table origin inner) entries)
    | some (.table found inner) =>
      if origin = .dotted ∧ found = .header then none
      else do
        let inner ← alter origin change path found inner
        pure (set key (.table found inner) entries)
    | some (.tables all) => do
      let inner ← alter origin change path .header (all.getLastD [])
      pure (set key (.tables (all.dropLast ++ [inner])) entries)
    | some _ => none

/-- The entries with a value for a dotted key. The key must be new, and a table that the dots lead
to must come from dotted keys alone. -/
def define (path : List Text) (value : Toml) : Origin → Entries → Option Entries :=
  let key := path.getLastD []
  alter .dotted (fun this entries =>
    if (path.length ≠ 1 ∧ this ≠ .dotted) ∨ (find? key entries).isSome then none
    else some (set key value entries)) path.dropLast

/-- The entries with a table that a header opens. It may exist as part of longer headers only. -/
def openTable (path : List Text) (entries : Entries) : Option Entries :=
  let key := path.getLastD []
  alter .implied (fun _ entries =>
    match find? key entries with
    | none => some (set key (.table .header []) entries)
    | some (.table .implied inner) => some (set key (.table .header inner) entries)
    | some _ => none) path.dropLast .header entries

/-- The entries with one table more in an array of tables. -/
def openTables (path : List Text) (entries : Entries) : Option Entries :=
  let key := path.getLastD []
  alter .implied (fun _ entries =>
    match find? key entries with
    | none => some (set key (.tables [[]]) entries)
    | some (.tables all) => some (set key (.tables (all ++ [[]])) entries)
    | some _ => none) path.dropLast .header entries

/-- A line of a configuration file that means something. -/
inductive Statement where
  | pair (path : List Text) (value : Toml)
  | header (path : List Text)
  | arrayHeader (path : List Text)
deriving Repr

/-- The path of the last header and the entries after a statement. -/
def Statement.run : List Text × Entries → Statement → Option (List Text × Entries)
  | (place, entries), .pair path value => do
    pure (place, ← alter .implied (define path value) place .header entries)
  | (_, entries), .header path => do pure (path, ← openTable path entries)
  | (_, entries), .arrayHeader path => do pure (path, ← openTables path entries)

/-- The entries that some statements make. -/
def ofStatements? (statements : List Statement) : Option Entries :=
  (statements.foldlM Statement.run ([], [])).map Prod.snd

/-- The entries of an inline table. -/
def ofPairs? (pairs : List (List Text × Toml)) : Option Entries :=
  pairs.foldlM (fun entries pair => define pair.1 pair.2 .header entries) []

/-- The text of a string. -/
def text? : Toml → Option Text
  | .string value => some value
  | _ => none

/-- The number that an integer is. -/
def int? : Toml → Option Int
  | .integer value => some value
  | _ => none

/-- The entries of a table. -/
def entries? : Toml → Option Entries
  | .table _ entries => some entries
  | .inlineTable entries => some entries
  | _ => none

end Toml

end Colloquy
