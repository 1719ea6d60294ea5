import Colloquy.Text
import Colloquy.Text.CaseData

/-!
# Letter case

Two ways to forget case. `lowercase` is the full lower case mapping of a text, which two of its
rules make more than a map over characters: the dotted capital `İ` becomes two characters, and a
capital sigma at the end of a word becomes `ς`. `foldChar` is simple case folding, one character
for one character; texts that agree after folding match without regard to case.

The two are different relations. `ſ` folds to `s` but is a small letter already, and `ẞ`, `ß` fold
alike and are lowered alike, while `İ` folds to itself.
-/

namespace Colloquy.Text

/-- The partner of a code point in a table of runs. -/
def partner? (runs : List CaseRun) (n : Nat) : Option Nat :=
  (runs.find? fun run => run.first ≤ n && n ≤ run.last && (n - run.first) % run.step == 0).map
    fun run => run.image + (n - run.first)

/-- Whether a code point lies in one of the ranges. -/
def inSpans (spans : List (Nat × Nat)) (n : Nat) : Bool :=
  spans.any fun span => span.1 ≤ n && n ≤ span.2

/-- The simple lower case mapping. -/
def lowerChar (c : Char) : Char := ((partner? lowerRuns c.toNat).map Char.ofNat).getD c

/-- Simple case folding: the exceptions first, then the lower case mapping. -/
def foldChar (c : Char) : Char :=
  match partner? foldRuns c.toNat with
  | some n => Char.ofNat n
  | none => lowerChar c

/-- The text with every character folded. -/
def fold (text : Text) : Text := text.map foldChar

/-- Whether the first character of the text that is not case-ignorable is cased. -/
def meetsCased (text : Text) : Bool :=
  match text.dropWhile fun c => inSpans ignorableSpans c.toNat with
  | [] => false
  | c :: _ => inSpans casedSpans c.toNat

/-- The full lower case of one character between what comes before it, nearest first, and what
comes after it. -/
def lowerBetween (before : Text) (c : Char) (rest : Text) : Text :=
  if c = 'Σ' then [if meetsCased before && !meetsCased rest then 'ς' else 'σ']
  else if c = 'İ' then ['i', '\u0307']
  else [lowerChar c]

/-- `lowercase` of a text that follows the given characters, nearest first. -/
def lowerAfter : Text → Text → Text
  | _, [] => []
  | before, c :: rest => lowerBetween before c rest ++ lowerAfter (c :: before) rest

/-- The full lower case of a text. -/
def lowercase (text : Text) : Text := lowerAfter [] text

@[simp] theorem fold_nil : fold [] = [] := rfl

@[simp] theorem fold_cons (c : Char) (cs : Text) : fold (c :: cs) = foldChar c :: fold cs := rfl

theorem fold_append (a b : Text) : fold (a ++ b) = fold a ++ fold b := List.map_append

@[simp] theorem length_fold (text : Text) : (fold text).length = text.length := List.length_map _

@[simp] theorem lowercase_nil : lowercase [] = [] := rfl

example : lowercase "ΟΔΟΣ Zoë" = "οδος zoë".toList := by decide +kernel
example : lowercase "İ" = "i\u0307".toList := by decide +kernel
example : foldChar 'ſ' = 's' ∧ lowerChar 'ſ' = 'ſ' := by decide +kernel
example : foldChar 'K' = 'k' ∧ foldChar 'ς' = 'σ' ∧ foldChar 'ẞ' = 'ß' := by decide +kernel

end Colloquy.Text
