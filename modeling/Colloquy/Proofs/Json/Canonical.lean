import Colloquy.Proofs.Json.Outline
import Colloquy.Proofs.Json.Scalar

/-!
# What a reader makes

A value that is read has its members in the order of their keys, each key once, and its integers
are of 64 bits (`canonical_of_read?`). The first is because members are inserted one by one, the
second because of how numbers are read; both ways of reading agree in this.

`value?_spec` is the induction behind it: what holds of all leaves that are read, and passes from
items and members to arrays and objects, holds of all outlines that are read, and of all their parts
(`part_spec`).
-/

namespace Colloquy.Json

/-! ### Canonical values -/

/-- Keys increase, and integers fit in 64 bits. -/
structure Canonical (value : Json) : Prop where
  sorted : value.Sorted
  fits : ∀ n, Part (.int n) value → Fits n

/-- What a leaf can be: no array and no object, and no integer of more than 64 bits. -/
def Simple : Json → Prop
  | .int n => Fits n
  | .array _ => False
  | .object _ => False
  | _ => True

theorem canonical_of_simple (value : Json) (h : value.Simple) : value.Canonical := by
  cases value with
  | array items => exact h.elim
  | object members => exact h.elim
  | int n =>
    refine ⟨by rintro members ⟨⟩, ?_⟩
    rintro m ⟨⟩
    exact h
  | _ => exact ⟨by rintro members ⟨⟩, by rintro n ⟨⟩⟩

theorem canonical_array {items : List Json} (h : ∀ item ∈ items, item.Canonical) :
    (Json.array items).Canonical := by
  constructor
  · rintro members (_ | ⟨hitem, hpart⟩)
    exact (h _ hitem).sorted members hpart
  · rintro n (_ | ⟨hitem, hpart⟩)
    exact (h _ hitem).fits n hpart

theorem canonical_object {members : List (Text × Json)} (hmembers : Increasing members)
    (h : ∀ entry ∈ members, entry.2.Canonical) : (Json.object members).Canonical := by
  constructor
  · rintro others (_ | _ | ⟨hentry, hpart⟩)
    · exact hmembers
    · exact (h _ hentry).sorted others hpart
  · rintro n (_ | _ | ⟨hentry, hpart⟩)
    exact (h _ hentry).fits n hpart

theorem increasing_foldl_insert {sorted members : List (Text × Json)} (h : Increasing sorted) :
    Increasing (members.foldl (fun sorted entry => insert entry.1 entry.2 sorted) sorted) := by
  induction members generalizing sorted with
  | nil => exact h
  | cons entry rest ih => exact ih h.insert

theorem mem_foldl_insert {sorted members : List (Text × Json)} {entry : Text × Json}
    (h : entry ∈ members.foldl (fun sorted entry => insert entry.1 entry.2 sorted) sorted) :
    entry ∈ sorted ∨ entry ∈ members := by
  induction members generalizing sorted with
  | nil => exact .inl h
  | cons first rest ih =>
    rcases ih h with h | h
    · rcases mem_insert h with rfl | h
      · exact .inr (List.mem_cons_self ..)
      · exact .inl h
    · exact .inr (List.mem_cons_of_mem _ h)

/-! ### Leaves -/

namespace Numeral

theorem absorb_le {limit n : Nat} (h : n ≤ limit) (digits : Text) :
    (absorb limit n digits).1 ≤ limit := by
  induction digits generalizing n with
  | nil => exact h
  | cons c cs ih =>
    rw [absorb]
    split
    · exact h
    · rename_i hnext
      exact ih (Nat.le_of_not_lt hnext)

theorem simple_of_integer? {negative : Bool} {n : Nat} {value : Json} (hn : n ≤ greatest)
    (h : integer? negative n = some value) : value.Simple := by
  rw [greatest] at hn
  rw [integer?] at h
  split at h
  · rw [← Option.some.inj h]
    exact ⟨by omega, by omega⟩
  · split at h
    · rename_i hrange
      rw [← Option.some.inj h]
      exact ⟨by omega, by omega⟩
    · obtain ⟨x, -, rfl⟩ := Option.map_eq_some_iff.1 h
      trivial

theorem simple_of_value? {numeral : Numeral} {value : Json} (h : numeral.value? = .ok value) :
    value.Simple := by
  have hn := absorb_le (Nat.zero_le greatest) numeral.whole
  simp only [value?] at h
  split at h
  · split at h
    · rename_i number hinteger
      cases h
      exact simple_of_integer? hn hinteger
    · cases h
  · split at h
    · split at h <;> cases h
      trivial
    · split at h
      · split at h <;> cases h
        trivial
      · split at h <;> cases h
        trivial

end Numeral

namespace Outline

/-- The outline is a leaf whose value, if it has one, is no more than a leaf can be. -/
def SimpleLeaf (outline : Outline) : Prop :=
  ∃ value : Option Json, outline = .leaf value ∧ ∀ found, value = some found → found.Simple

theorem simpleLeaf_word? {word text rest : Text} {value : Json} {outline : Outline}
    (h : word? word value text = .ok (outline, rest)) (hvalue : value.Simple) :
    SimpleLeaf outline := by
  induction word generalizing text with
  | nil =>
    cases h
    refine ⟨some value, rfl, ?_⟩
    rintro found ⟨⟩
    exact hvalue
  | cons c cs ih =>
    cases text with
    | nil => cases h
    | cons d ds =>
      rw [word?] at h
      split at h
      · exact ih h
      · cases h

theorem simpleLeaf_leaf? {strict : Bool} {text rest : Text} {outline : Outline}
    (h : leaf? strict text = .ok (outline, rest)) : SimpleLeaf outline := by
  rw [leaf?.eq_def] at h
  split at h
  · cases h
  · exact simpleLeaf_word? h trivial
  · exact simpleLeaf_word? h trivial
  · exact simpleLeaf_word? h trivial
  · obtain ⟨⟨found, after⟩, -, h⟩ := bind_eq_ok.1 h
    cases h
    refine ⟨found.map .string, rfl, ?_⟩
    intro value hvalue
    obtain ⟨string, -, rfl⟩ := Option.map_eq_some_iff.1 hvalue
    trivial
  · split at h
    · obtain ⟨⟨found, after⟩, hnumber, h⟩ := bind_eq_ok.1 h
      obtain ⟨value, hsettle, h⟩ := bind_eq_ok.1 h
      cases h
      refine ⟨value, rfl, ?_⟩
      rintro number rfl
      cases found with
      | ok found =>
        cases hsettle
        obtain ⟨numeral, -, hvalue⟩ := number?_eq_ok_iff.1 hnumber
        exact Numeral.simple_of_value? hvalue
      | error fault =>
        rw [settle] at hsettle
        split at hsettle <;> cases hsettle
    · cases h

/-! ### Arrays and objects -/

variable {P : Outline → Prop} {item? : Text → Except Fault (Outline × Text)} {text rest : Text}

theorem items?_spec (hitem : ∀ text item rest, item? text = .ok (item, rest) → P item) {fuel : Nat}
    {items : List Outline} (h : items? item? fuel text = .ok (items, rest)) :
    ∀ item ∈ items, P item := by
  induction fuel generalizing text items with
  | zero => cases h
  | succ fuel ih =>
    rw [items?] at h
    obtain ⟨⟨item, after⟩, hfirst, h⟩ := bind_eq_ok.1 h
    have hP := hitem _ _ _ hfirst
    dsimp only at h
    split at h
    · cases h
    · cases h
      exact List.forall_mem_singleton.2 hP
    · split at h
      · cases h
      · cases h
      · obtain ⟨⟨others, after⟩, hothers, h⟩ := bind_eq_ok.1 h
        cases h
        exact List.forall_mem_cons.2 ⟨hP, ih hothers⟩
    · cases h

theorem members?_spec {strict : Bool}
    (hitem : ∀ text item rest, item? text = .ok (item, rest) → P item) {fuel : Nat}
    {members : List (Option Text × Outline)}
    (h : members? strict item? fuel text = .ok (members, rest)) :
    ∀ entry ∈ members, P entry.2 := by
  induction fuel generalizing text members with
  | zero => cases h
  | succ fuel ih =>
    rw [members?] at h
    obtain ⟨⟨key, after⟩, -, h⟩ := bind_eq_ok.1 h
    dsimp only at h
    split at h
    · cases h
    · obtain ⟨⟨item, after⟩, hfirst, h⟩ := bind_eq_ok.1 h
      have hP := hitem _ _ _ hfirst
      dsimp only at h
      split at h
      · cases h
      · cases h
        exact List.forall_mem_singleton.2 hP
      · split at h
        · cases h
        · cases h
        · obtain ⟨⟨others, after⟩, hothers, h⟩ := bind_eq_ok.1 h
          cases h
          exact List.forall_mem_cons.2 ⟨hP, ih hothers⟩
        · cases h
      · cases h
    · cases h

theorem array?_spec (hitem : ∀ text item rest, item? text = .ok (item, rest) → P item)
    (harray : ∀ items, (∀ item ∈ items, P item) → P (.array items)) {outline : Outline}
    (h : array? item? text = .ok (outline, rest)) : P outline := by
  rw [array?] at h
  split at h
  · cases h
  · cases h
    exact harray [] (List.forall_mem_nil _)
  · obtain ⟨⟨items, after⟩, hitems, h⟩ := bind_eq_ok.1 h
    cases h
    exact harray items (items?_spec hitem hitems)

theorem object?_spec {strict : Bool}
    (hitem : ∀ text item rest, item? text = .ok (item, rest) → P item)
    (hobject : ∀ members, (∀ entry ∈ members, P entry.2) → P (.object members)) {outline : Outline}
    (h : object? strict item? text = .ok (outline, rest)) : P outline := by
  rw [object?] at h
  split at h
  · cases h
  · cases h
    exact hobject [] (List.forall_mem_nil _)
  · obtain ⟨⟨members, after⟩, hmembers, h⟩ := bind_eq_ok.1 h
    cases h
    exact hobject members (members?_spec hitem hmembers)
  · cases h

/-- What holds of the leaves that are read, and passes on to arrays and objects, holds of all that
is read. -/
theorem value?_spec {strict : Bool} (hleaf : ∀ outline, SimpleLeaf outline → P outline)
    (harray : ∀ items, (∀ item ∈ items, P item) → P (.array items))
    (hobject : ∀ members, (∀ entry ∈ members, P entry.2) → P (.object members)) {levels : Nat}
    {outline : Outline} (h : value? strict levels text = .ok (outline, rest)) : P outline := by
  induction levels generalizing text outline rest with
  | zero =>
    rw [value?] at h
    split at h
    · cases h
    · cases h
    · exact hleaf _ (simpleLeaf_leaf? h)
  | succ levels ih =>
    rw [value?] at h
    split at h
    · exact array?_spec (fun _ _ _ hitem => ih hitem) harray h
    · exact object?_spec (fun _ _ _ hitem => ih hitem) hobject h
    · exact hleaf _ (simpleLeaf_leaf? h)

/-! ### Values of outlines -/

/-- Whatever value the outline has is canonical. -/
def Yields (outline : Outline) : Prop := ∀ value, outline.toJson? = some value → value.Canonical

theorem exists_of_itemsToJson? {items : List Outline} {values : List Json}
    (h : itemsToJson? items = some values) :
    ∀ value ∈ values, ∃ item ∈ items, item.toJson? = some value := by
  induction items generalizing values with
  | nil =>
    cases h
    exact List.forall_mem_nil _
  | cons item rest ih =>
    obtain ⟨value, hvalue, h⟩ := Option.bind_eq_some_iff.1 h
    obtain ⟨others, hothers, h⟩ := Option.bind_eq_some_iff.1 h
    cases h
    refine List.forall_mem_cons.2 ⟨⟨item, List.mem_cons_self .., hvalue⟩, ?_⟩
    intro other hother
    obtain ⟨source, hsource, hother⟩ := ih hothers other hother
    exact ⟨source, List.mem_cons_of_mem _ hsource, hother⟩

theorem exists_of_membersToJson? {members : List (Option Text × Outline)}
    {found : List (Text × Json)} (h : membersToJson? members = some found) :
    ∀ entry ∈ found, ∃ source ∈ members, source.2.toJson? = some entry.2 := by
  induction members generalizing found with
  | nil =>
    cases h
    exact List.forall_mem_nil _
  | cons source rest ih =>
    obtain ⟨member, hmember, h⟩ := Option.bind_eq_some_iff.1 h
    obtain ⟨others, hothers, h⟩ := Option.bind_eq_some_iff.1 h
    cases h
    obtain ⟨key?, item⟩ := source
    obtain ⟨key, -, hmember⟩ := Option.bind_eq_some_iff.1 hmember
    obtain ⟨value, hvalue, hmember⟩ := Option.bind_eq_some_iff.1 hmember
    cases hmember
    refine List.forall_mem_cons.2 ⟨⟨(key?, item), List.mem_cons_self .., hvalue⟩, ?_⟩
    intro other hother
    obtain ⟨source, hsource, hother⟩ := ih hothers other hother
    exact ⟨source, List.mem_cons_of_mem _ hsource, hother⟩

/-- The members of the value of an object come from the members of the object. -/
theorem exists_of_mem_sorted {members : List (Option Text × Outline)} {found : List (Text × Json)}
    (h : membersToJson? members = some found) :
    ∀ entry ∈ found.foldl (fun sorted entry => insert entry.1 entry.2 sorted) [],
      ∃ source ∈ members, source.2.toJson? = some entry.2 := by
  intro entry hentry
  rcases mem_foldl_insert hentry with hentry | hentry
  · cases hentry
  · exact exists_of_membersToJson? h entry hentry

theorem yields_array {items : List Outline} (h : ∀ item ∈ items, Yields item) :
    Yields (.array items) := by
  intro value hvalue
  obtain ⟨values, hvalues, rfl⟩ := Option.map_eq_some_iff.1 hvalue
  refine canonical_array fun value hvalue => ?_
  obtain ⟨item, hitem, hvalue⟩ := exists_of_itemsToJson? hvalues value hvalue
  exact h item hitem value hvalue

theorem yields_object {members : List (Option Text × Outline)}
    (h : ∀ entry ∈ members, Yields entry.2) : Yields (.object members) := by
  intro value hvalue
  obtain ⟨found, hfound, rfl⟩ := Option.map_eq_some_iff.1 hvalue
  refine canonical_object (increasing_foldl_insert List.Pairwise.nil) fun entry hentry => ?_
  obtain ⟨source, hsource, hvalue⟩ := exists_of_mem_sorted hfound entry hentry
  exact h source hsource entry.2 hvalue

theorem yields_of_simpleLeaf {outline : Outline} (h : SimpleLeaf outline) : Yields outline := by
  obtain ⟨value, rfl, hsimple⟩ := h
  exact fun found hfound => canonical_of_simple found (hsimple found hfound)

/-! ### Values and their levels -/

/-- Whatever value the outline has, it has no more levels; repeated members are lost. -/
def Bounds (outline : Outline) : Prop :=
  ∀ value, outline.toJson? = some value → value.depth ≤ outline.depth

theorem bounds_array {items : List Outline} (h : ∀ item ∈ items, Bounds item) :
    Bounds (.array items) := by
  intro value hvalue
  obtain ⟨values, hvalues, rfl⟩ := Option.map_eq_some_iff.1 hvalue
  rw [depth, depth_array_le_iff]
  intro value hvalue
  obtain ⟨item, hitem, hvalue⟩ := exists_of_itemsToJson? hvalues value hvalue
  exact le_trans (h item hitem value hvalue) (depthOfItems_le_iff.1 (le_refl _) item hitem)

theorem bounds_object {members : List (Option Text × Outline)}
    (h : ∀ entry ∈ members, Bounds entry.2) : Bounds (.object members) := by
  intro value hvalue
  obtain ⟨found, hfound, rfl⟩ := Option.map_eq_some_iff.1 hvalue
  rw [depth, depth_object_le_iff]
  intro entry hentry
  obtain ⟨source, hsource, hvalue⟩ := exists_of_mem_sorted hfound entry hentry
  exact le_trans (h source hsource entry.2 hvalue)
    (depthOfMembers_le_iff.1 (le_refl _) source hsource)

theorem bounds_of_simpleLeaf {outline : Outline} (h : SimpleLeaf outline) : Bounds outline := by
  obtain ⟨value, rfl, hsimple⟩ := h
  intro found hfound
  have hfound := hsimple found hfound
  cases found with
  | array items => exact hfound.elim
  | object members => exact hfound.elim
  | _ => exact Nat.zero_le _

/-! ### What is read -/

/-- What holds of the leaves that are read, and passes on to arrays and objects, holds of all parts
of what is read. -/
theorem part_spec {strict : Bool} (hleaf : ∀ outline, SimpleLeaf outline → P outline)
    (harray : ∀ items, (∀ item ∈ items, P item) → P (.array items))
    (hobject : ∀ members, (∀ entry ∈ members, P entry.2) → P (.object members)) {levels : Nat}
    {outline : Outline} (h : value? strict levels text = .ok (outline, rest)) :
    ∀ part, Part part outline → P part := by
  refine @value?_spec (fun outline => ∀ part, Part part outline → P part) text rest strict
    ?_ ?_ ?_ levels outline h
  · rintro _ ⟨value, rfl, hvalue⟩ _ ⟨⟩
    exact hleaf _ ⟨value, rfl, hvalue⟩
  · rintro items hitems part (_ | ⟨hitem, hpart⟩)
    · exact harray items fun item hitem => hitems item hitem item .self
    · exact hitems _ hitem part hpart
  · rintro members hmembers part (_ | _ | ⟨hentry, hpart⟩)
    · exact hobject members fun entry hentry => hmembers entry hentry entry.2 .self
    · exact hmembers _ hentry part hpart

/-- The outline that a whole text is, is what the text starts with. -/
theorem exists_value?_of_read? {strict : Bool} {outline : Outline}
    (h : Outline.read? strict text = .ok outline) :
    ∃ levels rest, value? strict levels text = .ok (outline, rest) := by
  obtain ⟨⟨found, rest⟩, hfound, h⟩ := bind_eq_ok.1 h
  dsimp only at h
  split at h
  · cases h
    exact ⟨_, rest, hfound⟩
  · cases h

variable {strict : Bool} {outline part : Outline}

/-- The values of all parts of an outline that is read are canonical. -/
theorem yields_of_read? (h : Outline.read? strict text = .ok outline) (hpart : Part part outline) :
    Yields part := by
  obtain ⟨levels, rest, h⟩ := exists_value?_of_read? h
  exact part_spec (fun _ => yields_of_simpleLeaf) (fun _ => yields_array) (fun _ => yields_object) h
    part hpart

/-- The values of all parts of an outline that is read have no more levels than the parts. -/
theorem bounds_of_read? (h : Outline.read? strict text = .ok outline) (hpart : Part part outline) :
    Bounds part := by
  obtain ⟨levels, rest, h⟩ := exists_value?_of_read? h
  exact part_spec (fun _ => bounds_of_simpleLeaf) (fun _ => bounds_array) (fun _ => bounds_object) h
    part hpart

end Outline

/-- A value that is read is canonical. -/
theorem canonical_of_read? {text : Text} {value : Json} (h : read? text = .ok value) :
    value.Canonical := by
  obtain ⟨outline, houtline, h⟩ := bind_eq_ok.1 h
  cases hvalue : outline.toJson? with
  | none =>
    rw [hvalue] at h
    cases h
  | some other =>
    rw [hvalue] at h
    cases h
    exact Outline.yields_of_read? houtline .self value hvalue

end Colloquy.Json
