import Colloquy.Text

/-!
# Blank space

The characters with the Unicode property `White_Space`, and what leaves them out: trimming a text
at both ends, cutting it into words, cutting a source into its numbered lines. Trimming is
characterised from both sides: what is left has no blank at either end, and what is taken away
is blank.
-/

namespace Colloquy.Text

/-- The characters with the property `White_Space`. -/
def isBlank (c : Char) : Bool :=
  let n := c.toNat
  (9 ≤ n && n ≤ 13) || n == 0x20 || n == 0x85 || n == 0xA0 || n == 0x1680 ||
    (0x2000 ≤ n && n ≤ 0x200A) || n == 0x2028 || n == 0x2029 || n == 0x202F || n == 0x205F ||
    n == 0x3000

/-- The text without the blanks it starts with. -/
def trimStart (text : Text) : Text := text.dropWhile isBlank

/-- The text without the blanks it ends with. -/
def trimEnd (text : Text) : Text := (text.reverse.dropWhile isBlank).reverse

/-- The text without the blanks at its ends. -/
def trim (text : Text) : Text := trimEnd (trimStart text)

/-- The words of a text: its longest runs without a blank. -/
def words : Text → List Text
  | [] => []
  | c :: cs =>
    if isBlank c then words cs
    else
      match cs with
      | [] => [[c]]
      | d :: _ =>
        if isBlank d then [c] :: words cs
        else
          match words cs with
          | [] => [[c]]
          | word :: rest => (c :: word) :: rest

/-! ### What trimming leaves -/

/-- Core's blanks are blank here too. -/
theorem isBlank_of_isWhitespace {c : Char} (h : c.isWhitespace = true) : isBlank c = true := by
  simp only [Char.isWhitespace, Bool.or_eq_true, decide_eq_true_eq] at h
  rcases h with ((h | h) | h) | h <;> subst h <;> decide

@[simp] theorem trim_nil : trim [] = [] := rfl

/-- A text neither of whose ends is blank. -/
def Tight (text : Text) : Prop :=
  (∀ c, text.head? = some c → isBlank c = false) ∧
    ∀ c, text.getLast? = some c → isBlank c = false

theorem head?_dropWhile_isBlank {text : Text} {c : Char}
    (h : (text.dropWhile isBlank).head? = some c) : isBlank c = false := by
  induction text with
  | nil => simp at h
  | cons d ds ih =>
    cases hd : isBlank d with
    | true => exact ih (by simpa [hd] using h)
    | false =>
      have hdc : d = c := by simpa [hd] using h
      rw [← hdc, hd]

theorem getLast?_trimEnd {text : Text} {c : Char} (h : (trimEnd text).getLast? = some c) :
    isBlank c = false := by
  have hr : (text.reverse.dropWhile isBlank).head? = some c := by simpa [trimEnd] using h
  exact head?_dropWhile_isBlank hr

theorem trimEnd_append_blanks (text : Text) :
    ∃ tail, text = trimEnd text ++ tail ∧ ∀ c ∈ tail, isBlank c = true := by
  refine ⟨(text.reverse.takeWhile isBlank).reverse, ?_, ?_⟩
  · rw [trimEnd, ← List.reverse_append, List.takeWhile_append_dropWhile, List.reverse_reverse]
  · intro c hc
    rw [List.mem_reverse] at hc
    generalize text.reverse = l at hc
    induction l with
    | nil => simp at hc
    | cons d ds ih =>
      by_cases hd : isBlank d = true
      · simp only [List.takeWhile_cons, hd, if_true, List.mem_cons] at hc
        rcases hc with rfl | hc
        · exact hd
        · exact ih hc
      · simp [hd] at hc

theorem head?_trimEnd (text : Text) : (trimEnd text).head? = none ∨
    (trimEnd text).head? = text.head? := by
  obtain ⟨tail, h, _⟩ := trimEnd_append_blanks text
  cases ht : trimEnd text with
  | nil => simp
  | cons c cs => rw [ht] at h; right; rw [h]; simp

/-- A trimmed text has no blank at either end. -/
theorem tight_trim (text : Text) : Tight (trim text) := by
  refine ⟨fun c h => ?_, fun c h => getLast?_trimEnd h⟩
  rcases head?_trimEnd (trimStart text) with h' | h'
  · rw [trim, h'] at h; cases h
  · rw [trim, h'] at h; exact head?_dropWhile_isBlank h

/-- Trimming changes nothing in a text that is tight already. -/
theorem trim_of_tight {text : Text} (h : Tight text) : trim text = text := by
  have hstart : trimStart text = text := by
    cases text with
    | nil => rfl
    | cons c cs => simp [trimStart, h.1 c rfl]
  have hend : trimEnd text = text := by
    cases hr : text.reverse with
    | nil => simp [trimEnd, List.reverse_eq_nil_iff.1 hr]
    | cons c cs =>
      have hlast : text.getLast? = some c := by
        rw [← List.head?_reverse, hr]; rfl
      rw [trimEnd, hr, List.dropWhile_cons, h.2 c hlast]
      simp [← hr]
  rw [trim, hstart, hend]

theorem trim_trim (text : Text) : trim (trim text) = trim text := trim_of_tight (tight_trim text)

example : trim " \t bot=Zoe\u3000\r" = "bot=Zoe".toList := by decide
example : words " a.png\u2003 hero\tx " = (["a.png", "hero", "x"] : List Text) := by decide
example : isBlank '\u200b' = false := by decide

end Colloquy.Text
