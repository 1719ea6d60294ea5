import Colloquy.Text

/-!
# Paths

A path is a text cut into parts at its slashes. Empty parts and single dots stand for the place
where they are, except for a dot that a relative path starts with. Joining, the extension of the
last name and the parent are functions on the text alone; what a path leads to is said by
`Colloquy.Files.Tree`.
-/

namespace Colloquy.Path

open Text (pieces join)

/-- Whether the path starts at the root. -/
def isAbsolute (path : Text) : Bool := path.head? == some '/'

/-- A path seen from a directory. -/
def joined (directory path : Text) : Text :=
  if isAbsolute path || directory = [] then path
  else if directory.getLast? == some '/' then directory ++ path
  else directory ++ '/' :: path

/-- The parts without those at the end that stand for the place where they are. -/
def dropIdle (parts : List Text) : List Text :=
  (parts.reverse.dropWhile fun part => part == [] || part == ['.']).reverse

/-- The parts of a path up to its last name; the root is no part. -/
def parts (path : Text) : List Text :=
  if isAbsolute path then dropIdle (pieces '/' path.tail)
  else
    match pieces '/' path with
    | ['.'] :: rest => ['.'] :: dropIdle rest
    | all => dropIdle all

/-- The extension of a name: what follows its last dot, unless the name starts with it. -/
def extensionOfName? (name : Text) : Option Text :=
  let ending := (name.reverse.takeWhile (· ≠ '.')).reverse
  if name = ['.', '.'] ∨ name.length ≤ ending.length + 1 then none else some ending

/-- The extension of the last name of a path. -/
def extension? (path : Text) : Option Text := (parts path).getLast?.bind extensionOfName?

/-- The path without its last part, if there is one. -/
def parent? (path : Text) : Option Text :=
  match parts path with
  | [] => none
  | found =>
    let left := found.dropLast
    if isAbsolute path then some ('/' :: join ['/'] (dropIdle left))
    else
      match left with
      | ['.'] :: rest => some (join ['/'] (['.'] :: dropIdle rest))
      | all => some (join ['/'] (dropIdle all))

example : extension? "a/b.tar.gz" = some "gz".toList ∧ extension? ".hero" = none ∧
    extension? "x/card.json/." = some "json".toList ∧ extension? "a." = some [] := by decide
example : parent? "a//b/./" = some "a".toList ∧ parent? "b" = some [] ∧
    parent? "./b" = some ".".toList ∧ parent? "/b" = some "/".toList ∧ parent? "/" = none := by decide
example : joined "w" "a.png" = "w/a.png".toList ∧ joined "w" "/a" = "/a".toList := by decide

end Colloquy.Path
