import Colloquy.Json.Scalar
import Colloquy.Json.Writer

/-!
# The outline of a JSON text

An outline is the nesting of a JSON text with the values of its leaves. A leaf can be without a
value: a number out of range, or a string with half a character. A strict reading refuses such
leaves, and nesting beyond its limit; a lenient one, for parts of a text that nobody asks about,
does not. Members stand in the order of the text, those of one key included.

The reader recurs on the levels of nesting that are left; the loops over items and members recur on
a bound for their number, for which the length of the text is enough.
-/

namespace Colloquy.Json

/-- The nesting of a JSON text and the values of its leaves. -/
inductive Outline where
  | leaf (value : Option Json)
  | array (items : List Outline)
  | object (members : List (Option Text × Outline))
deriving Repr, Inhabited

namespace Outline

/-- The rest of a word of which the first letter has been read. -/
def word? (rest : Text) (value : Json) : Text → Except Fault (Outline × Text)
  | text =>
    match rest with
    | [] => .ok (.leaf (some value), text)
    | c :: cs =>
      match text with
      | [] => .error (.before .endInValue text)
      | d :: ds => if c = d then word? cs value ds else .error (.within .word text)

/-- The items after the opening bracket or a comma, and the closing bracket. -/
def items? (item? : Text → Except Fault (Outline × Text)) : Nat → Text → Except Fault ((List Outline) × Text)
  | 0, text => .error (.within .endInList text)
  | fuel + 1, text => do
    let (item, text) ← item? text
    match skip text with
    | [] => .error (.within .endInList [])
    | ']' :: rest => pure ([item], rest)
    | ',' :: rest =>
      match skip rest with
      | [] => .error (.within .endInValue [])
      | ']' :: more => .error (.within .trailingComma (']' :: more))
      | rest => do
        let (items, rest) ← items? item? fuel rest
        pure (item :: items, rest)
    | text => .error (.within .listEnd text)

/-- The array after its opening bracket. -/
def array? (item? : Text → Except Fault (Outline × Text)) (text : Text) : Except Fault (Outline × Text) :=
  match skip text with
  | [] => .error (.within .endInList [])
  | ']' :: rest => .ok (.array [], rest)
  | text => do
    let (items, rest) ← items? item? text.length text
    pure (.array items, rest)

/-- The members after the opening quote of a key, and the closing brace. -/
def members? (strict : Bool) (item? : Text → Except Fault (Outline × Text)) :
    Nat → Text → Except Fault ((List (Option Text × Outline)) × Text)
  | 0, text => .error (.within .endInObject text)
  | fuel + 1, text => do
    let (key, text) ← string? strict text
    match skip text with
    | [] => .error (.within .endInObject [])
    | ':' :: text =>
      let (item, text) ← item? text
      match skip text with
      | [] => .error (.within .endInObject [])
      | '\x7d' :: rest => pure ([(key, item)], rest)
      | ',' :: rest =>
        match skip rest with
        | [] => .error (.within .endInValue [])
        | '\x7d' :: more => .error (.within .trailingComma ('\x7d' :: more))
        | '"' :: rest => do
          let (members, rest) ← members? strict item? fuel rest
          pure ((key, item) :: members, rest)
        | rest => .error (.within .key rest)
      | text => .error (.within .objectEnd text)
    | text => .error (.within .colon text)

/-- The object after its opening brace. -/
def object? (strict : Bool) (item? : Text → Except Fault (Outline × Text)) (text : Text) : Except Fault (Outline × Text) :=
  match skip text with
  | [] => .error (.within .endInObject [])
  | '\x7d' :: rest => .ok (.object [], rest)
  | '"' :: rest => do
    let (members, rest) ← members? strict item? rest.length rest
    pure (.object members, rest)
  | text => .error (.within .key text)

/-- The value that is no array and no object, from its first character on. -/
def leaf? (strict : Bool) (text : Text) : Except Fault (Outline × Text) :=
  match text with
  | [] => .error (.within .endInValue [])
  | 'n' :: rest => word? "ull" .null rest
  | 't' :: rest => word? "rue" (.bool true) rest
  | 'f' :: rest => word? "alse" (.bool false) rest
  | '"' :: rest => do
    let (found, rest) ← string? strict rest
    pure (.leaf (found.map .string), rest)
  | c :: _ =>
    if c = '-' ∨ Text.isDigit c then do
      let (found, rest) ← number? text
      let value ← settle strict found
      pure (.leaf value, rest)
    else .error (.within .value text)

/-- The value that a text starts with, with at most so many levels of arrays and objects. -/
def value? (strict : Bool) : Nat → Text → Except Fault (Outline × Text)
  | 0, text =>
    match skip text with
    | '[' :: rest => .error (.within .depth ('[' :: rest))
    | '\x7b' :: rest => .error (.within .depth ('\x7b' :: rest))
    | text => leaf? strict text
  | levels + 1, text =>
    match skip text with
    | '[' :: rest => array? (value? strict levels) rest
    | '\x7b' :: rest => object? strict (value? strict levels) rest
    | text => leaf? strict text

/-- The levels of arrays and objects that a strict reading goes into. -/
def deepest : Nat := 127

/-- The outline that the whole text is. -/
def read? (strict : Bool) (text : Text) : Except Fault Outline := do
  let (outline, rest) ← value? strict (if strict then deepest else text.length) text
  match skip rest with
  | [] => pure outline
  | rest => .error (.within .trailingText rest)

mutual

/-- The number of levels of arrays and objects. -/
def depth : Outline → Nat
  | .leaf _ => 0
  | .array items => depthOfItems items + 1
  | .object members => depthOfMembers members + 1

/-- The greatest depth of the items. -/
def depthOfItems : List Outline → Nat
  | [] => 0
  | item :: rest => max item.depth (depthOfItems rest)

/-- The greatest depth of the members. -/
def depthOfMembers : List (Option Text × Outline) → Nat
  | [] => 0
  | entry :: rest => max (depthOfMember entry) (depthOfMembers rest)

/-- The depth of a member. -/
def depthOfMember : Option Text × Outline → Nat
  | (_, item) => item.depth

end

mutual

/-- The value of an outline whose leaves and keys all have one. -/
def toJson? : Outline → Option Json
  | .leaf value => value
  | .array items => (itemsToJson? items).map .array
  | .object members => (membersToJson? members).map fun found =>
      .object (found.foldl (fun sorted entry => insert entry.1 entry.2 sorted) [])

/-- The values of the items. -/
def itemsToJson? : List Outline → Option (List Json)
  | [] => some []
  | item :: rest => do
    let value ← item.toJson?
    let values ← itemsToJson? rest
    pure (value :: values)

/-- The keys and the values of the members. -/
def membersToJson? : List (Option Text × Outline) → Option (List (Text × Json))
  | [] => some []
  | entry :: rest => do
    let found ← memberToJson? entry
    let others ← membersToJson? rest
    pure (found :: others)

/-- The key and the value of a member. -/
def memberToJson? : Option Text × Outline → Option (Text × Json)
  | (key, item) => do
    let key ← key
    let value ← item.toJson?
    pure (key, value)

end

end Outline

/-- The value that the whole text stands for. -/
def read? (text : Text) : Except Fault Json := do
  let outline ← Outline.read? true text
  match outline.toJson? with
  | some value => pure value
  | none => .error (.before .value text)

example : (read? " [1, \x7b\"b\":true,\"a\":null,\"b\":[]\x7d] ").toOption.map (write .compact) =
    some "[1,\x7b\"a\":null,\"b\":[]\x7d]".toList := by decide +kernel
example : (read? "[1,]") matches .error ⟨.trailingComma, 0⟩ := by decide +kernel
example : Fault.message "[1,\n ]" ⟨.trailingComma, 0⟩ = "trailing comma at line 2 column 2".toList := by
  decide +kernel

end Colloquy.Json
