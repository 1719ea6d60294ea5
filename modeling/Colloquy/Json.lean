import Colloquy.Binary64
import Colloquy.Text

/-!
# JSON values

A value is what a JSON text stands for. A whole number that fits in 64 bits, with or without a
sign, is an integer and every other number is a double. An object is a list of members in the
order in which they are written; `insert` builds the list that a reader makes, in the order of
the keys and with the last of several members of one key.
-/

namespace Colloquy

/-- A JSON value. -/
inductive Json where
  | null
  | bool (value : Bool)
  | int (value : Int)
  | real (value : Binary64)
  | string (value : Text)
  | array (items : List Json)
  | object (members : List (Text × Json))
deriving Repr, Inhabited

namespace Json

/-! ### Equality -/

mutual

/-- Whether two values are the same. -/
def same : Json → Json → Bool
  | .null, .null => true
  | .bool a, .bool b => a == b
  | .int a, .int b => a == b
  | .real a, .real b => a == b
  | .string a, .string b => a == b
  | .array as, .array bs => sameItems as bs
  | .object as, .object bs => sameMembers as bs
  | _, _ => false

/-- Whether two lists of items are the same. -/
def sameItems : List Json → List Json → Bool
  | [], [] => true
  | a :: as, b :: bs => same a b && sameItems as bs
  | _, _ => false

/-- Whether two lists of members are the same. -/
def sameMembers : List (Text × Json) → List (Text × Json) → Bool
  | [], [] => true
  | a :: as, b :: bs => sameMember a b && sameMembers as bs
  | _, _ => false

/-- Whether two members are the same. -/
def sameMember : Text × Json → Text × Json → Bool
  | (key, a), (other, b) => key == other && same a b

end

mutual

theorem same_iff (a b : Json) : same a b = true ↔ a = b := by
  cases a <;> cases b <;> simp only [same, Bool.false_eq_true, reduceCtorEq, beq_iff_eq,
    bool.injEq, int.injEq, real.injEq, string.injEq, array.injEq, object.injEq]
  · exact sameItems_iff _ _
  · exact sameMembers_iff _ _

theorem sameItems_iff (as bs : List Json) : sameItems as bs = true ↔ as = bs := by
  match as, bs with
  | [], [] => simp [sameItems]
  | [], _ :: _ => simp [sameItems]
  | _ :: _, [] => simp [sameItems]
  | a :: as, b :: bs => simp [sameItems, same_iff a b, sameItems_iff as bs]

theorem sameMembers_iff (as bs : List (Text × Json)) : sameMembers as bs = true ↔ as = bs := by
  match as, bs with
  | [], [] => simp [sameMembers]
  | [], _ :: _ => simp [sameMembers]
  | _ :: _, [] => simp [sameMembers]
  | a :: as, b :: bs => simp [sameMembers, sameMember_iff a b, sameMembers_iff as bs]

theorem sameMember_iff (a b : Text × Json) : sameMember a b = true ↔ a = b := by
  match a, b with
  | (key, a), (other, b) => simp [sameMember, same_iff a b]

end

instance : DecidableEq Json := fun a b => decidable_of_iff _ (same_iff a b)

/-! ### Parts of a value -/

/-- The members with one more, in its place among the keys; it replaces a member of its key. -/
def insert (key : Text) (value : Json) : List (Text × Json) → List (Text × Json)
  | [] => [(key, value)]
  | (k, v) :: rest =>
    if key = k then (key, value) :: rest
    else if Text.precedes key k then (key, value) :: (k, v) :: rest
    else (k, v) :: insert key value rest

/-- The value of the member with this key. -/
def member? (key : Text) : Json → Option Json
  | .object members => (members.find? fun entry => entry.1 == key).map Prod.snd
  | _ => none

/-- The text that a string is. -/
def text? : Json → Option Text
  | .string value => some value
  | _ => none

/-- The number that an integer is. -/
def int? : Json → Option Int
  | .int value => some value
  | _ => none

/-- The items of an array. -/
def items? : Json → Option (List Json)
  | .array items => some items
  | _ => none

/-- The members of an object. -/
def members? : Json → Option (List (Text × Json))
  | .object members => some members
  | _ => none

/-- A string, or null for none. -/
def textOrNull : Option Text → Json
  | some value => .string value
  | none => .null

end Json

end Colloquy
