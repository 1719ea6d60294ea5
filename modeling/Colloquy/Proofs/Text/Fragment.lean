import Mathlib.Data.List.Basic
import Mathlib.Data.List.TakeWhile
import Colloquy.Text.Blank

/-!
# Fragments of text

A fragment is a text that is not empty and tight. Fragments joined by anything are a fragment
again (`Fragment.join`), and a text that consists of lines, each a fragment and a line break, is
read back by trimming it: what is left are the fragments with a line break between neighbours
(`trim_terminated`).
-/

namespace Colloquy.Text

/-- A text that is not empty and has no blank at either end. -/
structure Fragment (text : Text) : Prop where
  ne_nil : text ≠ []
  tight : Tight text

/-- The texts one after another, each with a mark behind it. -/
def terminated (mark : Char) (parts : List Text) : Text :=
  concat (parts.map fun part => part ++ [mark])

/-! ### Blank texts -/

theorem not_mem_trim {text : Text} {c : Char} (h : c ∉ text) : c ∉ trim text := by
  intro hmem
  have hmem : c ∈ (trimStart text).reverse.dropWhile isBlank := List.mem_reverse.1 hmem
  have hmem := List.mem_reverse.1 ((List.dropWhile_sublist _).mem hmem)
  exact h ((List.dropWhile_sublist _).mem hmem)

theorem mem_dropWhile_isBlank {text : Text} {c : Char} (hc : c ∈ text) (hblank : isBlank c = false) :
    c ∈ text.dropWhile isBlank := by
  rw [← List.takeWhile_append_dropWhile (p := isBlank) (l := text)] at hc
  rcases List.mem_append.1 hc with hc | hc
  · rw [List.mem_takeWhile_imp hc] at hblank
    cases hblank
  · exact hc

/-- Trimming leaves what is not blank. -/
theorem mem_trim {text : Text} {c : Char} (hc : c ∈ text) (hblank : isBlank c = false) :
    c ∈ trim text := by
  have hstart : c ∈ (trimStart text).reverse :=
    List.mem_reverse.2 (mem_dropWhile_isBlank hc hblank)
  exact List.mem_reverse.2 (mem_dropWhile_isBlank hstart hblank)

theorem trim_ne_nil {text : Text} {c : Char} (hc : c ∈ text) (hblank : isBlank c = false) :
    trim text ≠ [] :=
  List.ne_nil_of_mem (mem_trim hc hblank)

/-- What trimming leaves of a text is a fragment, if it leaves anything. -/
theorem fragment_trim {text : Text} (h : trim text ≠ []) : Fragment (trim text) :=
  ⟨h, tight_trim text⟩

/-! ### Fragments side by side -/

theorem Fragment.append {a b c : Text} (ha : Fragment a) (hc : Fragment c) :
    Fragment (a ++ b ++ c) := by
  obtain ⟨first, front, rfl⟩ := List.exists_cons_of_ne_nil ha.ne_nil
  refine ⟨by simp, ?_, ?_⟩
  · intro x hx
    exact ha.tight.1 x (by simpa using hx)
  · intro x hx
    refine hc.tight.2 x ?_
    rwa [List.getLast?_append_of_ne_nil _ hc.ne_nil] at hx

theorem Fragment.join {between : Text} {parts : List Text} (hne : parts ≠ [])
    (h : ∀ part ∈ parts, Fragment part) : Fragment (Text.join between parts) := by
  induction parts with
  | nil => exact absurd rfl hne
  | cons part rest ih =>
    cases rest with
    | nil => exact h part (by simp)
    | cons next more =>
      exact (h part (by simp)).append (ih (by simp) fun p hp => h p (List.mem_cons_of_mem _ hp))

theorem join_eq_nil_iff {between : Text} {parts : List Text} (h : ∀ part ∈ parts, Fragment part) :
    Text.join between parts = [] ↔ parts = [] := by
  constructor
  · intro hjoin
    by_contra hne
    exact (Fragment.join hne h).ne_nil hjoin
  · intro hnil
    rw [hnil]
    rfl

/-! ### Lines with a mark behind them -/

@[simp] theorem terminated_nil (mark : Char) : terminated mark [] = [] := rfl

@[simp] theorem terminated_append (mark : Char) (parts more : List Text) :
    terminated mark (parts ++ more) = terminated mark parts ++ terminated mark more := by
  simp [terminated, concat]

@[simp] theorem terminated_singleton (mark : Char) (part : Text) :
    terminated mark [part] = part ++ [mark] := by
  simp [terminated]

/-- Marks behind the parts are marks between them and one more at the end. -/
theorem terminated_eq_join {mark : Char} {parts : List Text} (hne : parts ≠ []) :
    terminated mark parts = join [mark] parts ++ [mark] := by
  induction parts with
  | nil => exact absurd rfl hne
  | cons part rest ih =>
    cases rest with
    | nil => simp [join]
    | cons next more =>
      have hcons : terminated mark (part :: next :: more)
          = part ++ [mark] ++ terminated mark (next :: more) := rfl
      rw [hcons, ih (by simp), join]
      simp

theorem trim_append_blank {text : Text} {mark : Char} (h : Fragment text)
    (hmark : isBlank mark = true) : trim (text ++ [mark]) = text := by
  obtain ⟨first, rest, rfl⟩ := List.exists_cons_of_ne_nil h.ne_nil
  have hfirst : isBlank first = false := h.tight.1 first rfl
  have hstart : trimStart (first :: rest ++ [mark]) = first :: rest ++ [mark] := by
    simp [trimStart, hfirst]
  have hend : trimEnd (first :: rest ++ [mark]) = trimEnd (first :: rest) := by
    simp [trimEnd, hmark]
  have htrim : trim (first :: rest) = trimEnd (first :: rest) := by
    simp [trim, trimStart, hfirst]
  rw [trim, hstart, hend, ← htrim, trim_of_tight h.tight]

/-- Trimming takes the last of the marks away and nothing else. -/
theorem trim_terminated {mark : Char} {parts : List Text} (hmark : isBlank mark = true)
    (h : ∀ part ∈ parts, Fragment part) : trim (terminated mark parts) = join [mark] parts := by
  by_cases hne : parts = []
  · rw [hne]
    rfl
  · rw [terminated_eq_join hne]
    exact trim_append_blank (Fragment.join hne h) hmark

end Colloquy.Text
