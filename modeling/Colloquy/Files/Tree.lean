import Colloquy.Path
import Colloquy.Utf8

/-!
# Files

A file tree says what is at each place, a place being the names on the way to it from the root.
A path is followed part by part, from the root or from the current directory: every part but the
last leads through a directory, and a slash after a name asks for a directory as well. Reading and
writing fail for the reasons that `Failure` lists.
-/

namespace Colloquy.Files

/-- Why a file cannot be read or written. -/
inductive Failure where
  | notFound
  | notDirectory
  | isDirectory
  | nameTooLong
  | nulInPath
  | notText
deriving DecidableEq, Repr

/-- The wording of a failure. -/
def Failure.message : Failure → Text
  | notFound => "No such file or directory (os error 2)"
  | notDirectory => "Not a directory (os error 20)"
  | isDirectory => "Is a directory (os error 21)"
  | nameTooLong => "File name too long (os error 36)"
  | nulInPath => "file name contained an unexpected NUL byte"
  | notText => "stream did not contain valid UTF-8"

/-- What is at a place. -/
inductive Node where
  | directory
  | file (bytes : List UInt8)
deriving DecidableEq, Repr

/-- What is at each place, and the place that relative paths start from. -/
structure Tree where
  current : List Text
  node? : List Text → Option Node

namespace Tree

/-- The longest name of a file in bytes. -/
def longestName : Nat := 255

/-- The length in bytes that a path has to stay below. -/
def longestPath : Nat := 4096

/-- The place that some parts of a path lead to from a place. -/
def follow (tree : Tree) : List Text → List Text → Except Failure (List Text)
  | place, [] => .ok place
  | place, part :: rest =>
    match tree.node? place with
    | none => .error .notFound
    | some (.file _) => .error .notDirectory
    | some .directory =>
      if part = [] ∨ part = ['.'] then tree.follow place rest
      else if part = ['.', '.'] then tree.follow place.dropLast rest
      else if longestName < Utf8.size part then .error .nameTooLong
      else if tree.node? (place ++ [part]) = none then .error .notFound
      else tree.follow (place ++ [part]) rest

/-- The parts of a path, if it can be one at all. -/
def parts? (path : Text) : Except Failure (List Text) :=
  if path.contains '\x00' then .error .nulInPath
  else if path = [] then .error .notFound
  else if longestPath ≤ Utf8.size path then .error .nameTooLong
  else .ok (Text.pieces '/' path)

/-- The place that a path starts from. -/
def base (tree : Tree) (path : Text) : List Text :=
  if Path.isAbsolute path then [] else tree.current

/-- The place that a path leads to. -/
def place? (tree : Tree) (path : Text) : Except Failure (List Text) := do
  let parts ← parts? path
  tree.follow (tree.base path) parts

/-- What a path leads to. -/
def at? (tree : Tree) (path : Text) : Except Failure Node := do
  let place ← tree.place? path
  match tree.node? place with
  | some node => pure node
  | none => .error .notFound

/-- Whether a path leads to a file. -/
def isFile (tree : Tree) (path : Text) : Bool :=
  match tree.at? path with
  | .ok (.file _) => true
  | _ => false

/-- The bytes of the file that a path leads to. -/
def read (tree : Tree) (path : Text) : Except Failure (List UInt8) := do
  match ← tree.at? path with
  | .file bytes => pure bytes
  | .directory => .error .isDirectory

/-- The text of the file that a path leads to. -/
def readText (tree : Tree) (path : Text) : Except Failure Text := do
  let bytes ← tree.read path
  match Utf8.decode? bytes with
  | some text => pure text
  | none => .error .notText

/-- The path from the root to a place. -/
def absolute (place : List Text) : Text := '/' :: Text.join ['/'] place

/-- The absolute path without detours that a path leads to. -/
def canonical? (tree : Tree) (path : Text) : Option Text :=
  (tree.place? path).toOption.map absolute

/-- The tree with a node put at a place. -/
def put (tree : Tree) (place : List Text) (node : Node) : Tree :=
  { tree with node? := fun other => if other = place then some node else tree.node? other }

/-- The place that writing to a path writes to. A path that ends in a slash or in dots is one of a
directory, whether there is one or not. -/
def target? (tree : Tree) (path : Text) : Except Failure (List Text) := do
  let parts ← parts? path
  let named := (parts.reverse.dropWhile (· == [])).reverse
  let name := named.getLastD []
  let place ← tree.follow (tree.base path) named.dropLast
  match tree.node? place with
  | none => .error .notFound
  | some (.file _) => .error .notDirectory
  | some .directory =>
    if named ≠ parts ∨ name = ['.'] ∨ name = ['.', '.'] then .error .isDirectory
    else if longestName < Utf8.size name then .error .nameTooLong
    else
      match tree.node? (place ++ [name]) with
      | some .directory => .error .isDirectory
      | _ => pure (place ++ [name])

/-- The tree after writing bytes to a path. -/
def write (tree : Tree) (path : Text) (bytes : List UInt8) : Except Failure Tree := do
  let place ← tree.target? path
  pure (tree.put place (.file bytes))

/-- What has been put at a place is there, and nowhere else. -/
theorem node?_put (tree : Tree) (place other : List Text) (node : Node) :
    (tree.put place node).node? other = if other = place then some node else tree.node? other := rfl

theorem isFile_iff (tree : Tree) (path : Text) :
    tree.isFile path = true ↔ ∃ bytes, tree.read path = .ok bytes := by
  simp only [isFile, read, bind, Except.bind]
  cases tree.at? path with
  | error e => simp
  | ok node => cases node <;> simp [pure, Except.pure]

end Tree

end Colloquy.Files
