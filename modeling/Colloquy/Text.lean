/-!
# Text

Text is a list of Unicode characters, so every function on it is a recursion on a list and a
position is the text that is still to come. String literals are read as text where text is
expected. Blank space, letter case, digits and encodings have modules of their own.

The last section says what cutting keeps: joining the pieces again gives the text back.
-/

namespace Colloquy

/-- A text: its characters in order. -/
abbrev Text := List Char

instance : Coe String Text := ⟨String.toList⟩

namespace Text

/-- The texts one after another. -/
def concat (parts : List Text) : Text := parts.flatten

@[simp] theorem concat_nil : concat [] = [] := rfl

@[simp] theorem concat_cons (part : Text) (parts : List Text) :
    concat (part :: parts) = part ++ concat parts := rfl

/-- The texts with `between` put between neighbours. -/
def join (between : Text) : List Text → Text
  | [] => []
  | [part] => part
  | part :: next :: parts => part ++ between ++ join between (next :: parts)

/-- The text cut at every `mark`. There is always one piece more than there are marks. -/
def pieces (mark : Char) : Text → List Text
  | [] => [[]]
  | c :: cs =>
    if c = mark then [] :: pieces mark cs
    else
      match pieces mark cs with
      | [] => [[c]]
      | piece :: rest => (c :: piece) :: rest

/-- The text before and after the first `mark`, if there is one. -/
def cutFirst? (mark : Char) : Text → Option (Text × Text)
  | [] => none
  | c :: cs =>
    if c = mark then some ([], cs)
    else (cutFirst? mark cs).map fun cut => (c :: cut.1, cut.2)

/-- What follows `lead`, if the text starts with it. -/
def after? (lead text : Text) : Option Text :=
  match lead, text with
  | [], rest => some rest
  | _ :: _, [] => none
  | l :: ls, c :: cs => if l = c then after? ls cs else none

/-- Whether `part` occurs in the text. -/
def holds (part : Text) : Text → Bool
  | [] => part.isEmpty
  | c :: cs => part.isPrefixOf (c :: cs) || holds part cs

/-- Code point order, character by character; a text comes after its beginnings. -/
def precedes : Text → Text → Bool
  | [], [] => false
  | [], _ :: _ => true
  | _ :: _, [] => false
  | a :: as, b :: bs => a.val < b.val || (a == b && precedes as bs)

/-! ### Cutting keeps everything -/

theorem pieces_ne_nil (mark : Char) (text : Text) : pieces mark text ≠ [] := by
  cases text with
  | nil => simp [pieces]
  | cons c cs =>
    simp only [pieces]
    split
    · simp
    · split <;> simp

/-- Joining the pieces with the mark gives the text back. -/
theorem join_pieces (mark : Char) (text : Text) : join [mark] (pieces mark text) = text := by
  induction text with
  | nil => rfl
  | cons c cs ih =>
    cases hp : pieces mark cs with
    | nil => exact absurd hp (pieces_ne_nil mark cs)
    | cons piece rest =>
      rw [hp] at ih
      by_cases h : c = mark
      · simp [pieces, h, hp, join, ih]
      · cases rest with
        | nil => simpa [pieces, h, hp, join] using ih
        | cons next rest => simpa [pieces, h, hp, join] using ih

/-- No piece holds the mark. -/
theorem mark_notMem_of_mem_pieces {mark : Char} {text piece : Text}
    (h : piece ∈ pieces mark text) : mark ∉ piece := by
  induction text generalizing piece with
  | nil => simp_all [pieces]
  | cons c cs ih =>
    cases hp : pieces mark cs with
    | nil => exact absurd hp (pieces_ne_nil mark cs)
    | cons first rest =>
      rw [hp] at ih
      by_cases hc : c = mark
      · simp only [pieces, hc, if_pos, hp, List.mem_cons] at h
        rcases h with h | h
        · simp [h]
        · exact ih (by simpa using h)
      · simp only [pieces, hc, if_false, hp, List.mem_cons] at h
        rcases h with h | h
        · have : mark ∉ first := ih (by simp)
          simp [h, this, Ne.symm hc]
        · exact ih (by simp [h])

/-- A text without the mark is left in one piece. -/
theorem pieces_of_notMem {mark : Char} {text : Text} (h : mark ∉ text) :
    pieces mark text = [text] := by
  induction text with
  | nil => rfl
  | cons c rest ih =>
    rw [List.mem_cons, not_or] at h
    obtain ⟨hne, hrest⟩ := h
    rw [pieces, if_neg (Ne.symm hne), ih hrest]

/-- The pieces on the two sides of a mark are cut apart. -/
theorem pieces_append (mark : Char) (text more : Text) :
    pieces mark (text ++ mark :: more) = pieces mark text ++ pieces mark more := by
  induction text with
  | nil => simp [pieces]
  | cons c rest ih =>
    rw [List.cons_append, pieces, pieces, ih]
    split
    · rfl
    · cases hpieces : pieces mark rest with
      | nil => exact absurd hpieces (pieces_ne_nil mark rest)
      | cons piece others => rfl

/-- A cut text is its two sides with the mark between them. -/
theorem eq_of_cutFirst?_eq_some {mark : Char} {text before rest : Text}
    (h : cutFirst? mark text = some (before, rest)) : text = before ++ mark :: rest := by
  induction text generalizing before rest with
  | nil => simp [cutFirst?] at h
  | cons c cs ih =>
    by_cases hc : c = mark
    · simp only [cutFirst?, hc, if_pos, Option.some.injEq, Prod.mk.injEq] at h
      simp [← h.1, ← h.2, hc]
    · simp only [cutFirst?, hc, if_false, Option.map_eq_some_iff] at h
      obtain ⟨⟨left, right⟩, hcut, hpair⟩ := h
      simp only [Prod.mk.injEq] at hpair
      rw [← hpair.1, ← hpair.2, List.cons_append, ← ih hcut]

/-- The text that is left is the text without its lead. -/
theorem after?_eq_some_iff {lead text rest : Text} :
    after? lead text = some rest ↔ text = lead ++ rest := by
  induction lead generalizing text with
  | nil => simp [after?]
  | cons l ls ih =>
    cases text with
    | nil => simp [after?]
    | cons c cs =>
      by_cases h : l = c
      · simp [after?, h, ih]
      · simp [after?, h, Ne.symm h]

example : pieces '/' "a//b" = (["a", "", "b"] : List Text) := by decide
example : cutFirst? '=' "Delay=1=2" = some ("Delay".toList, "1=2".toList) := by decide

end Text

end Colloquy
