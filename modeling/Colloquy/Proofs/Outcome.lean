import Mathlib.Data.List.Forall2

/-!
# Outcomes of computations

When a computation of several steps, each of which can fail, succeeds; and when one that is made
for each item of a list does.
-/

namespace Colloquy

variable {ε α β : Type}

/-! ### Steps -/

/-- A computation succeeds if its first step does and the rest does from there. -/
theorem bind_eq_ok {step : Except ε α} {rest : α → Except ε β} {b : β} :
    (step >>= rest) = .ok b ↔ ∃ a, step = .ok a ∧ rest a = .ok b := by
  cases step with
  | error e => simp [bind, Except.bind]
  | ok a => simp [bind, Except.bind]

/-- A computation fails if its first step does, or the rest does from where that has led. -/
theorem bind_eq_error {step : Except ε α} {rest : α → Except ε β} {e : ε} :
    (step >>= rest) = .error e ↔ step = .error e ∨ ∃ a, step = .ok a ∧ rest a = .error e := by
  cases step with
  | error d => simp [bind, Except.bind]
  | ok a => simp [bind, Except.bind]

theorem mapError_eq_error {ε' : Type} {f : ε → ε'} {step : Except ε α} {d : ε'} :
    step.mapError f = .error d ↔ ∃ e, step = .error e ∧ f e = d := by
  cases step with
  | error e => simp [Except.mapError]
  | ok a => simp [Except.mapError]

theorem mapError_eq_ok {ε' : Type} {f : ε → ε'} {step : Except ε α} {a : α} :
    step.mapError f = .ok a ↔ step = .ok a := by
  cases step with
  | error e => simp [Except.mapError]
  | ok b => simp [Except.mapError]

theorem foldlM_cons_eq_ok {step : β → α → Except ε β} {x : α} {rest : List α} {first last : β} :
    (x :: rest).foldlM step first = .ok last ↔
      ∃ next, step first x = .ok next ∧ rest.foldlM step next = .ok last := by
  rw [List.foldlM_cons, bind_eq_ok]

/-- If steps one after another fail, one of them does. -/
theorem exists_of_foldlM_eq_error {step : β → α → Except ε β} {items : List α} {first : β} {e : ε}
    (h : items.foldlM step first = .error e) : ∃ b, ∃ item ∈ items, step b item = .error e := by
  induction items generalizing first with
  | nil => cases h
  | cons item rest ih =>
    rw [List.foldlM_cons] at h
    rcases bind_eq_error.1 h with hfirst | ⟨next, -, hrest⟩
    · exact ⟨first, item, List.mem_cons_self .., hfirst⟩
    · obtain ⟨b, other, hother, hfails⟩ := ih hrest
      exact ⟨b, other, List.mem_cons_of_mem _ hother, hfails⟩

/-! ### Items -/

theorem filterMap_cons_toList (f : α → Option β) (item : α) (items : List α) :
    (item :: items).filterMap f = (f item).toList ++ items.filterMap f := by
  rw [List.filterMap_cons]
  cases f item <;> rfl

theorem filterMap_snoc (f : α → Option β) (items : List α) (item : α) :
    (items ++ [item]).filterMap f = items.filterMap f ++ (f item).toList := by
  rw [List.filterMap_append, filterMap_cons_toList, List.filterMap_nil, List.append_nil]

theorem mapM_eq_some_iff {f : α → Option β} {items : List α} {found : List β} :
    items.mapM f = some found ↔
      List.Forall₂ (fun item value => f item = some value) items found := by
  induction items generalizing found with
  | nil =>
    rw [List.forall₂_nil_left_iff, List.mapM_nil]
    exact ⟨fun h => (Option.some.inj h).symm, fun h => h ▸ rfl⟩
  | cons item rest ih =>
    rw [List.mapM_cons, List.forall₂_cons_left_iff]
    constructor
    · intro h
      obtain ⟨value, hvalue, h⟩ := Option.bind_eq_some_iff.1 h
      obtain ⟨values, hvalues, h⟩ := Option.bind_eq_some_iff.1 h
      exact ⟨value, values, hvalue, ih.1 hvalues, (Option.some.inj h).symm⟩
    · rintro ⟨value, values, hvalue, hvalues, rfl⟩
      rw [hvalue, ih.2 hvalues]
      rfl

theorem mapM_congr {f g : α → Option β} {items : List α} (h : ∀ item ∈ items, f item = g item) :
    items.mapM f = items.mapM g := by
  induction items with
  | nil => rfl
  | cons item rest ih =>
    obtain ⟨hitem, hrest⟩ := List.forall_mem_cons.1 h
    rw [List.mapM_cons, List.mapM_cons, hitem, ih hrest]

theorem exists_mapM {f : α → Option β} {items : List α}
    (h : ∀ item ∈ items, ∃ value, f item = some value) : ∃ found, items.mapM f = some found := by
  induction items with
  | nil => exact ⟨[], rfl⟩
  | cons item rest ih =>
    obtain ⟨⟨value, hvalue⟩, hrest⟩ := List.forall_mem_cons.1 h
    obtain ⟨values, hvalues⟩ := ih hrest
    refine ⟨value :: values, ?_⟩
    rw [List.mapM_cons, hvalue, hvalues]
    rfl

theorem mapM_eq_self {f : α → Option α} {items : List α} (h : ∀ item ∈ items, f item = some item) :
    items.mapM f = some items :=
  mapM_eq_some_iff.2 (List.forall₂_same.2 h)

theorem exists_of_mapM {f : α → Option β} {items : List α} {found : List β}
    (h : items.mapM f = some found) {item : α} (hitem : item ∈ items) :
    ∃ value ∈ found, f item = some value := by
  have hpairs := mapM_eq_some_iff.1 h
  clear h
  induction hpairs with
  | nil => cases hitem
  | @cons _ value _ _ hvalue _ ih =>
    rcases List.mem_cons.1 hitem with rfl | hitem
    · exact ⟨value, List.mem_cons_self .., hvalue⟩
    · obtain ⟨other, hother, hread⟩ := ih hitem
      exact ⟨other, List.mem_cons_of_mem _ hother, hread⟩

theorem exists_of_mem_mapM {f : α → Option β} {items : List α} {found : List β}
    (h : items.mapM f = some found) {value : β} (hvalue : value ∈ found) :
    ∃ item ∈ items, f item = some value := by
  have hpairs := mapM_eq_some_iff.1 h
  clear h
  induction hpairs with
  | nil => cases hvalue
  | @cons item _ _ _ hfirst _ ih =>
    rcases List.mem_cons.1 hvalue with rfl | hvalue
    · exact ⟨item, List.mem_cons_self .., hfirst⟩
    · obtain ⟨other, hother, hread⟩ := ih hvalue
      exact ⟨other, List.mem_cons_of_mem _ hother, hread⟩

end Colloquy
