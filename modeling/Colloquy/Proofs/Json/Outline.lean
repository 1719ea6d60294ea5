import Mathlib.Data.Char
import Mathlib.Data.List.Lex
import Colloquy.Json.Outline

/-!
# Values and their outlines

Every value has an outline, `Outline.ofJson`, with the same items and members in the same order.
A reader puts the members of an object in the order of their keys, so the outline leads back to the
value if in all of its objects the members stand in that order already (`toJson?_ofJson`).

Values nest, and what is said of a value is mostly said of all that it contains: `Part` is that
relation, for values and for outlines, and `induction` goes from the parts of a value to the value.
-/

namespace Colloquy

/-! ### The order of texts -/

theorem Text.precedes_iff {a b : Text} : precedes a b = true ↔ a < b := by
  induction a generalizing b with
  | nil => cases b <;> simp [precedes]
  | cons c cs ih =>
    cases b with
    | nil => simp [precedes]
    | cons d ds =>
      rw [List.cons_lt_cons_iff, ← ih, precedes]
      simp [Char.lt_def]

namespace Json

/-! ### Parts -/

/-- The first value is the second one or stands somewhere within it. -/
inductive Part (part : Json) : Json → Prop where
  | self : Part part part
  | item {items : List Json} {item : Json} (hitem : item ∈ items) (h : Part part item) :
      Part part (.array items)
  | member {members : List (Text × Json)} {entry : Text × Json} (hentry : entry ∈ members)
      (h : Part part entry.2) : Part part (.object members)

/-- A property of values that passes from the items to their array and from the members to their
object is one of all values. -/
theorem induction {motive : Json → Prop} (null : motive .null)
    (bool : ∀ value, motive (.bool value)) (int : ∀ value, motive (.int value))
    (real : ∀ value, motive (.real value)) (string : ∀ value, motive (.string value))
    (array : ∀ items, (∀ item ∈ items, motive item) → motive (.array items))
    (object : ∀ members, (∀ entry ∈ members, motive entry.2) → motive (.object members))
    (value : Json) : motive value :=
  @Json.rec motive (fun items => ∀ item ∈ items, motive item)
    (fun members => ∀ entry ∈ members, motive entry.2) (fun entry => motive entry.2)
    null bool int real string array object (List.forall_mem_nil _)
    (fun _ _ hitem hrest => List.forall_mem_cons.2 ⟨hitem, hrest⟩) (List.forall_mem_nil _)
    (fun _ _ hentry hrest => List.forall_mem_cons.2 ⟨hentry, hrest⟩) (fun _ _ h => h) value

/-- The first outline is the second one or stands somewhere within it. -/
inductive Outline.Part (part : Outline) : Outline → Prop where
  | self : Part part part
  | item {items : List Outline} {item : Outline} (hitem : item ∈ items) (h : Part part item) :
      Part part (.array items)
  | member {members : List (Option Text × Outline)} {entry : Option Text × Outline}
      (hentry : entry ∈ members) (h : Part part entry.2) : Part part (.object members)

theorem Outline.Part.trans {part outline whole : Outline} (h : Part part outline)
    (hwhole : Part outline whole) : Part part whole := by
  induction hwhole with
  | self => exact h
  | item hitem _ ih => exact .item hitem ih
  | member hentry _ ih => exact .member hentry ih

/-! ### Sorted members -/

/-- The keys increase from each member to the next. -/
def Increasing (members : List (Text × Json)) : Prop := members.Pairwise fun a b => a.1 < b.1

/-- In every object within the value the keys increase. -/
def Sorted (value : Json) : Prop := ∀ members, Part (.object members) value → Increasing members

theorem Sorted.item {items : List Json} {item : Json} (h : (Json.array items).Sorted)
    (hitem : item ∈ items) : item.Sorted :=
  fun members hpart => h members (.item hitem hpart)

theorem Sorted.member {members : List (Text × Json)} {entry : Text × Json}
    (h : (Json.object members).Sorted) (hentry : entry ∈ members) : entry.2.Sorted :=
  fun others hpart => h others (.member hentry hpart)

/-- A member whose key comes after all the others goes to the end. -/
theorem insert_of_forall_lt {key : Text} {value : Json} {members : List (Text × Json)}
    (h : ∀ entry ∈ members, entry.1 < key) :
    insert key value members = members ++ [(key, value)] := by
  induction members with
  | nil => rfl
  | cons entry rest ih =>
    obtain ⟨hfirst, hrest⟩ := List.forall_mem_cons.1 h
    have hne : key ≠ entry.1 := fun heq => List.lt_irrefl _ (heq ▸ hfirst)
    have hafter : ¬ Text.precedes key entry.1 = true := by
      rw [Text.precedes_iff]
      exact List.lt_asymm hfirst
    rw [insert, if_neg hne, if_neg hafter, ih hrest]
    rfl

/-- Members that stand in order stay where they are. -/
theorem foldl_insert_append {sorted members : List (Text × Json)}
    (h : Increasing (sorted ++ members)) :
    members.foldl (fun sorted entry => insert entry.1 entry.2 sorted) sorted = sorted ++ members := by
  induction members generalizing sorted with
  | nil => exact (List.append_nil _).symm
  | cons entry rest ih =>
    have hlast : ∀ other ∈ sorted, other.1 < entry.1 := by
      intro other hother
      exact (List.pairwise_append.1 h).2.2 other hother entry (by simp)
    rw [List.foldl_cons, insert_of_forall_lt hlast, ih (by simpa using h)]
    simp

theorem mem_insert {key : Text} {value : Json} {members : List (Text × Json)}
    {entry : Text × Json} (h : entry ∈ insert key value members) :
    entry = (key, value) ∨ entry ∈ members := by
  induction members with
  | nil => simpa [insert] using h
  | cons first rest ih =>
    rw [insert] at h
    split at h
    · rcases List.mem_cons.1 h with h | h
      · exact .inl h
      · exact .inr (List.mem_cons_of_mem _ h)
    · split at h
      · exact List.mem_cons.1 h
      · rcases List.mem_cons.1 h with h | h
        · exact .inr (by simp [h])
        · exact (ih h).imp_right (List.mem_cons_of_mem _)

theorem Increasing.insert {key : Text} {value : Json} {members : List (Text × Json)}
    (h : Increasing members) : Increasing (insert key value members) := by
  induction members with
  | nil => exact List.pairwise_singleton _ _
  | cons first rest ih =>
    obtain ⟨hfirst, hrest⟩ := List.pairwise_cons.1 h
    rw [Json.insert]
    split
    · rename_i heq
      exact List.pairwise_cons.2 ⟨fun entry hentry => heq ▸ hfirst entry hentry, hrest⟩
    · rename_i hne
      split
      · rename_i hbefore
        rw [Text.precedes_iff] at hbefore
        refine List.pairwise_cons.2 ⟨List.forall_mem_cons.2 ⟨hbefore, ?_⟩, h⟩
        exact fun entry hentry => List.lt_trans hbefore (hfirst entry hentry)
      · rename_i hafter
        rw [Text.precedes_iff] at hafter
        refine List.pairwise_cons.2 ⟨?_, ih hrest⟩
        intro entry hentry
        rcases mem_insert hentry with rfl | hentry
        · exact lt_of_le_of_ne (not_lt.1 hafter) (Ne.symm hne)
        · exact hfirst entry hentry

/-! ### Outlines -/

namespace Outline

mutual

/-- The outline of a value. -/
def ofJson : Json → Outline
  | .null => .leaf (some .null)
  | .bool value => .leaf (some (.bool value))
  | .int value => .leaf (some (.int value))
  | .real value => .leaf (some (.real value))
  | .string value => .leaf (some (.string value))
  | .array items => .array (ofItems items)
  | .object members => .object (ofMembers members)

/-- The outlines of the items. -/
def ofItems : List Json → List Outline
  | [] => []
  | item :: rest => ofJson item :: ofItems rest

/-- The keys and the outlines of the members. -/
def ofMembers : List (Text × Json) → List (Option Text × Outline)
  | [] => []
  | entry :: rest => ofMember entry :: ofMembers rest

/-- The key and the outline of a member. -/
def ofMember : Text × Json → Option Text × Outline
  | (key, value) => (some key, ofJson value)

end

theorem ofItems_eq_map (items : List Json) : ofItems items = items.map ofJson := by
  induction items with
  | nil => rfl
  | cons item rest ih => rw [ofItems, ih, List.map_cons]

theorem ofMembers_eq_map (members : List (Text × Json)) :
    ofMembers members = members.map fun entry => (some entry.1, ofJson entry.2) := by
  induction members with
  | nil => rfl
  | cons entry rest ih =>
    obtain ⟨key, value⟩ := entry
    rw [ofMembers, ofMember, ih, List.map_cons]

theorem itemsToJson?_ofItems {items : List Json}
    (h : ∀ item ∈ items, (ofJson item).toJson? = some item) :
    itemsToJson? (ofItems items) = some items := by
  induction items with
  | nil => rfl
  | cons item rest ih =>
    obtain ⟨hitem, hrest⟩ := List.forall_mem_cons.1 h
    rw [ofItems, itemsToJson?, hitem, ih hrest]
    rfl

theorem membersToJson?_ofMembers {members : List (Text × Json)}
    (h : ∀ entry ∈ members, (ofJson entry.2).toJson? = some entry.2) :
    membersToJson? (ofMembers members) = some members := by
  induction members with
  | nil => rfl
  | cons entry rest ih =>
    obtain ⟨hentry, hrest⟩ := List.forall_mem_cons.1 h
    rw [ofMembers, membersToJson?, ofMember, memberToJson?, ih hrest]
    simp [hentry]

/-- The outline of a value leads back to it if its objects are in order. -/
theorem toJson?_ofJson {value : Json} (h : value.Sorted) : (ofJson value).toJson? = some value := by
  induction value using Json.induction with
  | null => rfl
  | bool value => rfl
  | int value => rfl
  | real value => rfl
  | string value => rfl
  | array items ih =>
    rw [ofJson, toJson?, itemsToJson?_ofItems fun item hitem => ih item hitem (h.item hitem)]
    rfl
  | object members ih =>
    have hsorted : members.foldl (fun sorted entry => insert entry.1 entry.2 sorted) [] = members :=
      foldl_insert_append (h members .self)
    rw [ofJson, toJson?,
      membersToJson?_ofMembers fun entry hentry => ih entry hentry (h.member hentry),
      Option.map_some, hsorted]

/-! ### Depth -/

theorem depthOfItems_le_iff {items : List Outline} {levels : Nat} :
    depthOfItems items ≤ levels ↔ ∀ item ∈ items, item.depth ≤ levels := by
  induction items with
  | nil => simp [depthOfItems]
  | cons item rest ih => rw [depthOfItems, Nat.max_le, ih, List.forall_mem_cons]

theorem depthOfMembers_le_iff {members : List (Option Text × Outline)} {levels : Nat} :
    depthOfMembers members ≤ levels ↔ ∀ entry ∈ members, entry.2.depth ≤ levels := by
  induction members with
  | nil => simp [depthOfMembers]
  | cons entry rest ih =>
    rw [depthOfMembers, depthOfMember, Nat.max_le, ih, List.forall_mem_cons]

end Outline

/-- The number of levels of arrays and objects. -/
def depth (value : Json) : Nat := (Outline.ofJson value).depth

theorem depth_array_le_iff {items : List Json} {levels : Nat} :
    (Json.array items).depth ≤ levels + 1 ↔ ∀ item ∈ items, item.depth ≤ levels := by
  rw [depth, Outline.ofJson, Outline.depth, Nat.add_le_add_iff_right, Outline.depthOfItems_le_iff,
    Outline.ofItems_eq_map, List.forall_mem_map]
  rfl

theorem depth_object_le_iff {members : List (Text × Json)} {levels : Nat} :
    (Json.object members).depth ≤ levels + 1 ↔ ∀ entry ∈ members, entry.2.depth ≤ levels := by
  rw [depth, Outline.ofJson, Outline.depth, Nat.add_le_add_iff_right,
    Outline.depthOfMembers_le_iff, Outline.ofMembers_eq_map, List.forall_mem_map]
  rfl

theorem depth_array_pos (items : List Json) : 0 < (Json.array items).depth := by
  rw [depth, Outline.ofJson, Outline.depth]
  exact Nat.succ_pos _

theorem depth_object_pos (members : List (Text × Json)) : 0 < (Json.object members).depth := by
  rw [depth, Outline.ofJson, Outline.depth]
  exact Nat.succ_pos _

end Json

end Colloquy
