import Mathlib.Data.Bool.AllAny
import Colloquy.Proofs.Text.Casing
import Colloquy.Text.Ascii

/-!
# Folding and lowering

Simple folding and full lowering are two ways to forget letter case. They agree on regular texts,
among them all texts without a final sigma whose characters have one lower case form that is also
what they fold to (`regular_of_steady`), hence all ASCII texts (`regular_of_ascii`). Lowering the
letters `A`–`Z` alone changes nothing that folding sees (`fold_lowerAscii`) or that full lowering does
(`lowercase_eq_of_sameLetters`), and what full lowering makes a keyword differs from it in letters of
`A`–`Z` only (`lowerAscii_of_lowercase`). A colon and an equals sign are no letters, and nothing else folds
to them (`eq_mark_of_foldChar`).
-/

namespace Colloquy.Text

variable {text : Text}

/-! ### Where the two agree -/

/-- Lowering the text gives what folding it gives. -/
def Regular (text : Text) : Prop := lowercase text = fold text

instance (text : Text) : Decidable (Regular text) := inferInstanceAs (Decidable (_ = _))

/-- The character is lowered to what it folds to, whatever stands around it. -/
structure Steady (c : Char) : Prop where
  folds : foldChar c = lowerChar c
  notSigma : c ≠ 'Σ'
  notDotted : c ≠ 'İ'

theorem Steady.lowerBetween {c : Char} (h : Steady c) (before rest : Text) :
    lowerBetween before c rest = [foldChar c] := by
  rw [Text.lowerBetween, if_neg h.notSigma, if_neg h.notDotted, h.folds]

theorem lowerAfter_of_steady (h : ∀ c ∈ text, Steady c) (before : Text) :
    lowerAfter before text = fold text := by
  induction text generalizing before with
  | nil => rfl
  | cons c rest ih =>
    have hrest := ih (fun d hd => h d (List.mem_cons_of_mem _ hd)) (c :: before)
    rw [lowerAfter, (h c (by simp)).lowerBetween, hrest]
    rfl

theorem regular_of_steady (h : ∀ c ∈ text, Steady c) : Regular text := lowerAfter_of_steady h []

theorem foldRuns_clear : ∀ run ∈ foldRuns, 128 ≤ run.first := by decide

theorem steady_of_ascii {c : Char} (h : c.toNat < 128) : Steady c := by
  have hnone : partner? foldRuns c.toNat = none := by
    rw [partner?, Option.map_eq_none_iff, List.find?_eq_none]
    intro run hrun
    have hclear := foldRuns_clear run hrun
    simp only [Bool.and_eq_true, decide_eq_true_eq]
    omega
  refine ⟨?_, ?_, ?_⟩
  · rw [foldChar, hnone]
  · rintro rfl
    exact absurd h (by decide)
  · rintro rfl
    exact absurd h (by decide)

theorem regular_of_ascii (h : ∀ c ∈ text, c.toNat < 128) : Regular text :=
  regular_of_steady fun c hc => steady_of_ascii (h c hc)

/-! ### The letters `A`–`Z` -/

theorem fold_capitals : ∀ n < 91, 65 ≤ n →
    foldChar (Char.ofNat (n + 32)) = foldChar (Char.ofNat n) := by
  decide +kernel

theorem capital_iff {c : Char} : 'A' ≤ c ∧ c ≤ 'Z' ↔ 65 ≤ c.toNat ∧ c.toNat ≤ 90 := by
  rw [Char.le_def, Char.le_def, UInt32.le_iff_toNat_le, UInt32.le_iff_toNat_le]
  rfl

/-- What is the same for `A`–`Z` and their small letters is the same after lowering these. -/
theorem apply_lowerAsciiChar {α : Type} {f : Char → α}
    (h : ∀ n < 91, 65 ≤ n → f (Char.ofNat (n + 32)) = f (Char.ofNat n)) (c : Char) :
    f (lowerAsciiChar c) = f c := by
  rw [lowerAsciiChar]
  split
  · rename_i hcapital
    obtain ⟨hlow, hhigh⟩ := capital_iff.1 hcapital
    have hsame := h c.toNat (by omega) hlow
    rw [Char.ofNat_toNat] at hsame
    exact hsame
  · rfl

theorem foldChar_lowerAsciiChar (c : Char) : foldChar (lowerAsciiChar c) = foldChar c :=
  apply_lowerAsciiChar fold_capitals c

theorem fold_lowerAscii (text : Text) : fold (lowerAscii text) = fold text := by
  induction text with
  | nil => rfl
  | cons c rest ih => rw [lowerAscii_cons, fold_cons, fold_cons, foldChar_lowerAsciiChar, ih]

theorem fold_eq_of_sameLetters {a b : Text} (h : sameLetters a b = true) : fold a = fold b := by
  rw [← fold_lowerAscii a, sameLetters_iff.1 h, fold_lowerAscii]

theorem toNat_ofNat_letter {n : Nat} (h : n < 128) : (Char.ofNat n).toNat = n := by
  have hchars : ∀ n < 128, (Char.ofNat n).toNat = n := by decide
  exact hchars n h

theorem lowerChar_lowerAsciiChar (c : Char) : lowerChar (lowerAsciiChar c) = lowerChar c := by
  refine apply_lowerAsciiChar (fun n hhigh hlow => ?_) c
  have hsmall : (Char.ofNat (n + 32)).toNat < 128 := by
    rw [toNat_ofNat_letter (by omega)]
    omega
  have hcapital : (Char.ofNat n).toNat < 128 := by
    rw [toNat_ofNat_letter (by omega)]
    omega
  rw [← (steady_of_ascii hsmall).folds, ← (steady_of_ascii hcapital).folds, fold_capitals n hhigh hlow]

/-- Beside the letters `A`–`Z` and `a`–`z` only a character itself is lowered to it. -/
theorem lowerAsciiChar_eq_iff {c d : Char}
    (h : d.toNat < 65 ∨ (90 < d.toNat ∧ d.toNat < 97) ∨ 122 < d.toNat) :
    lowerAsciiChar c = d ↔ c = d := by
  rw [lowerAsciiChar]
  split
  · rename_i hcapital
    obtain ⟨hlow, hhigh⟩ := capital_iff.1 hcapital
    have hsmall := toNat_ofNat_letter (n := c.toNat + 32) (by omega)
    constructor
    · rintro rfl
      omega
    · rintro rfl
      omega
  · exact Iff.rfl

theorem mem_lowerAscii_iff {d : Char}
    (h : d.toNat < 65 ∨ (90 < d.toNat ∧ d.toNat < 97) ∨ 122 < d.toNat) :
    d ∈ lowerAscii text ↔ d ∈ text := by
  constructor
  · intro hmem
    obtain ⟨c, hc, hlower⟩ := List.mem_map.1 hmem
    rwa [← (lowerAsciiChar_eq_iff h).1 hlower]
  · intro hmem
    exact List.mem_map.2 ⟨d, hmem, (lowerAsciiChar_eq_iff h).2 rfl⟩

theorem lowercase_of_ascii (h : ∀ c ∈ text, c.toNat < 128) : lowercase text = lowerAscii text := by
  have hchars : ∀ n < 128, foldChar (Char.ofNat n) = lowerAsciiChar (Char.ofNat n) := by
    decide +kernel
  rw [regular_of_ascii h]
  refine List.map_congr_left fun c hc => ?_
  have hchar := hchars c.toNat (h c hc)
  rwa [Char.ofNat_toNat] at hchar

theorem meetsCased_cons (c : Char) (rest : Text) :
    meetsCased (c :: rest) =
      if inSpans ignorableSpans c.toNat then meetsCased rest else inSpans casedSpans c.toNat := by
  by_cases hignorable : inSpans ignorableSpans c.toNat = true
  · rw [meetsCased, List.dropWhile_cons, if_pos hignorable, if_pos hignorable, meetsCased]
  · rw [meetsCased, List.dropWhile_cons, if_neg hignorable, if_neg hignorable]

theorem ignorableSpans_clear : ∀ span ∈ ignorableSpans,
    span.2 < 65 ∨ (90 < span.1 ∧ span.2 < 97) ∨ 122 < span.1 := by
  decide +kernel

theorem inSpans_ignorableSpans {n : Nat} (h : (65 ≤ n ∧ n ≤ 90) ∨ (97 ≤ n ∧ n ≤ 122)) :
    inSpans ignorableSpans n = false := by
  rw [inSpans, List.any_eq_false]
  intro span hspan
  have hclear := ignorableSpans_clear span hspan
  simp only [Bool.and_eq_true, decide_eq_true_eq]
  omega

theorem inSpans_casedSpans {n : Nat} (h : (65 ≤ n ∧ n ≤ 90) ∨ (97 ≤ n ∧ n ≤ 122)) :
    inSpans casedSpans n = true := by
  have hspans : (65, 90) ∈ casedSpans ∧ (97, 122) ∈ casedSpans := by decide
  rw [inSpans, List.any_eq_true]
  rcases h with h | h
  · exact ⟨(65, 90), hspans.1, by simpa using h⟩
  · exact ⟨(97, 122), hspans.2, by simpa using h⟩

theorem meetsCased_lowerAscii (text : Text) : meetsCased (lowerAscii text) = meetsCased text := by
  induction text with
  | nil => rfl
  | cons c rest ih =>
    have hignorable : inSpans ignorableSpans (lowerAsciiChar c).toNat =
        inSpans ignorableSpans c.toNat := by
      refine apply_lowerAsciiChar (f := fun c => inSpans ignorableSpans c.toNat) ?_ c
      intro n hhigh hlow
      rw [toNat_ofNat_letter (by omega), toNat_ofNat_letter (by omega),
        inSpans_ignorableSpans (by omega), inSpans_ignorableSpans (by omega)]
    have hcased : inSpans casedSpans (lowerAsciiChar c).toNat = inSpans casedSpans c.toNat := by
      refine apply_lowerAsciiChar (f := fun c => inSpans casedSpans c.toNat) ?_ c
      intro n hhigh hlow
      rw [toNat_ofNat_letter (by omega), toNat_ofNat_letter (by omega),
        inSpans_casedSpans (by omega), inSpans_casedSpans (by omega)]
    rw [lowerAscii_cons, meetsCased_cons, meetsCased_cons, hignorable, hcased, ih]

theorem lowerBetween_lowerAscii (before : Text) (c : Char) (rest : Text) :
    lowerBetween (lowerAscii before) (lowerAsciiChar c) (lowerAscii rest) =
      lowerBetween before c rest := by
  rw [lowerBetween, lowerBetween, meetsCased_lowerAscii, meetsCased_lowerAscii,
    lowerChar_lowerAsciiChar]
  simp only [lowerAsciiChar_eq_iff (.inr (.inr (by decide)) : _ ∨ _ ∨ 122 < 'Σ'.toNat),
    lowerAsciiChar_eq_iff (.inr (.inr (by decide)) : _ ∨ _ ∨ 122 < 'İ'.toNat)]

theorem lowerAfter_lowerAscii (before text : Text) :
    lowerAfter (lowerAscii before) (lowerAscii text) = lowerAfter before text := by
  induction text generalizing before with
  | nil => rfl
  | cons c rest ih =>
    rw [lowerAscii_cons, lowerAfter, lowerAfter, lowerBetween_lowerAscii, ← lowerAscii_cons, ih]

theorem lowercase_eq_of_sameLetters {a b : Text} (h : sameLetters a b = true) :
    lowercase a = lowercase b := by
  rw [lowercase, ← lowerAfter_lowerAscii, sameLetters_iff.1 h, lowerAfter_lowerAscii, lowercase]

/-! ### Letters of keywords -/

/-- The letters that keywords consist of. Only they and their capitals are lowered to them, which is
not so of every letter: the Kelvin sign is lowered to `k`. -/
def keywordLetters : Text := "botuser"

-- Deciding a statement about the letters of a text must not try all characters, so it is decided
-- along the list.
theorem keywordLetters_plain : ∀ d ∈ keywordLetters, lowerAsciiChar d = d ∧ d.toNat ≠ 0 :=
  List.all_iff_forall_prop.1 (by decide)

theorem lowerRuns_keyword : ∀ run ∈ lowerRuns, run = ⟨0x41, 0x5A, 1, 0x61⟩ ∨
    ∀ d ∈ keywordLetters, d.toNat < run.image ∨ run.image + (run.last - run.first) < d.toNat := by
  have hall : ∀ run ∈ lowerRuns, run = ⟨0x41, 0x5A, 1, 0x61⟩ ∨ keywordLetters.all (fun d =>
      d.toNat < run.image ∨ run.image + (run.last - run.first) < d.toNat) = true := by
    decide +kernel
  exact fun run hrun => (hall run hrun).imp_right List.all_iff_forall_prop.1

theorem lowerAsciiChar_of_lowerChar {c d : Char} (hd : d ∈ keywordLetters) (h : lowerChar c = d) :
    lowerAsciiChar c = d := by
  obtain ⟨hplain, hzero⟩ := keywordLetters_plain d hd
  rw [lowerChar] at h
  cases himage : partner? lowerRuns c.toNat with
  | none =>
    rw [himage] at h
    have hc : c = d := h
    rw [hc, hplain]
  | some n =>
    rw [himage] at h
    have hof : Char.ofNat n = d := h
    have hn : d.toNat = n := by
      rcases toNat_ofNat n with hn | hn
      · rw [← hof, hn]
      · rw [hof] at hn
        exact absurd hn hzero
    obtain ⟨run, hrun, hspan, hsum⟩ := exists_run_of_partner? himage
    rcases lowerRuns_keyword run hrun with rfl | hclear
    · have hsame : c.toNat + 32 = n := by
        simp only at hspan hsum
        omega
      rw [lowerAsciiChar, if_pos (capital_iff.2 hspan), hsame, hof]
    · have := hclear d hd
      omega

/-- What is lowered to these letters only is no sigma and no dotted capital i, so it is lowered
whatever stands around it. -/
theorem lowerBetween_of_keywordLetters {c : Char} {before rest : Text}
    (h : ∀ d ∈ lowerBetween before c rest, d ∈ keywordLetters) :
    lowerBetween before c rest = [lowerChar c] := by
  rw [lowerBetween] at h ⊢
  split
  · rename_i hsigma
    rw [if_pos hsigma] at h
    have hform := h _ (List.mem_singleton.2 rfl)
    split at hform
    · exact absurd hform (by decide)
    · exact absurd hform (by decide)
  · rename_i hsigma
    split
    · rename_i hdotted
      rw [if_neg hsigma, if_pos hdotted] at h
      exact absurd (h 'i' (by simp)) (by decide)
    · rfl

/-- What is lowered to a word of these letters is this word up to the case of `A`–`Z`. -/
theorem lowerAscii_of_lowerAfter {word : Text} (hword : ∀ d ∈ word, d ∈ keywordLetters)
    {before : Text} (h : lowerAfter before text = word) : lowerAscii text = word := by
  induction text generalizing before word with
  | nil => exact h
  | cons c rest ih =>
    rw [lowerAfter] at h
    have hfirst : ∀ d ∈ lowerBetween before c rest, d ∈ keywordLetters := by
      intro d hd
      refine hword d ?_
      rw [← h]
      exact List.mem_append_left _ hd
    rw [lowerBetween_of_keywordLetters hfirst] at h hfirst
    have hmore : ∀ d ∈ lowerAfter (c :: before) rest, d ∈ keywordLetters := by
      intro d hd
      refine hword d ?_
      rw [← h]
      exact List.mem_append_right _ hd
    have hrest := ih hmore rfl
    have hc := lowerAsciiChar_of_lowerChar (hfirst _ (List.mem_singleton.2 rfl)) rfl
    rw [lowerAscii_cons, hc, hrest]
    exact h

theorem lowerAscii_of_lowercase {word : Text} (hword : ∀ d ∈ word, d ∈ keywordLetters)
    (h : lowercase text = word) : lowerAscii text = word :=
  lowerAscii_of_lowerAfter hword h

/-! ### Marks -/

/-- What a character folds to, other than itself, lies among the images of a run. -/
theorem exists_run_of_foldChar {c : Char} (h : foldChar c ≠ c) :
    ∃ run ∈ foldRuns ++ lowerRuns, (run.first ≤ c.toNat ∧ c.toNat ≤ run.last) ∧
      foldChar c = Char.ofNat (run.image + (c.toNat - run.first)) := by
  rw [foldChar] at h ⊢
  cases hfold : partner? foldRuns c.toNat with
  | some n =>
    obtain ⟨run, hrun, hspan, rfl⟩ := exists_run_of_partner? hfold
    exact ⟨run, List.mem_append_left _ hrun, hspan, rfl⟩
  | none =>
    rw [hfold] at h
    rw [lowerChar]
    cases hlower : partner? lowerRuns c.toNat with
    | some n =>
      obtain ⟨run, hrun, hspan, rfl⟩ := exists_run_of_partner? hlower
      exact ⟨run, List.mem_append_right _ hrun, hspan, rfl⟩
    | none =>
      refine absurd ?_ h
      show lowerChar c = c
      rw [lowerChar, hlower]
      rfl

/-- The marks behind the names of speakers and the keys of directives. -/
def marks : Text := ":="

theorem caseRuns_beside_marks : ∀ run ∈ foldRuns ++ lowerRuns, ∀ mark ∈ marks,
    mark.toNat < run.image ∨ run.image + (run.last - run.first) < mark.toNat := by
  have hall : ∀ run ∈ foldRuns ++ lowerRuns, marks.all (fun mark =>
      mark.toNat < run.image ∨ run.image + (run.last - run.first) < mark.toNat) = true := by
    decide +kernel
  exact fun run hrun => List.all_iff_forall_prop.1 (hall run hrun)

theorem marks_pos : ∀ mark ∈ marks, 0 < mark.toNat := List.all_iff_forall_prop.1 (by decide)

/-- Only a mark itself folds to a mark. -/
theorem eq_mark_of_foldChar {c mark : Char} (hmark : mark ∈ marks) (h : foldChar c = mark) :
    c = mark := by
  by_cases hself : foldChar c = c
  · rw [← hself, h]
  · obtain ⟨run, hrun, hspan, hfold⟩ := exists_run_of_foldChar hself
    have hclear := caseRuns_beside_marks run hrun mark hmark
    have hpos := marks_pos mark hmark
    have hsum : (Char.ofNat (run.image + (c.toNat - run.first))).toNat = mark.toNat := by
      rw [← hfold, h]
    rcases toNat_ofNat (run.image + (c.toNat - run.first)) with hsame | hzero <;> omega

theorem foldChar_mark {mark : Char} (h : mark ∈ marks) : foldChar mark = mark := by
  have hall : ∀ mark ∈ marks, foldChar mark = mark := List.all_iff_forall_prop.1 (by decide +kernel)
  exact hall mark h

/-- Texts that fold alike hold the same marks. -/
theorem mark_mem_of_fold_eq {mark : Char} (hmark : mark ∈ marks) {a b : Text} (h : fold a = fold b)
    (hmem : mark ∈ a) : mark ∈ b := by
  have hfolded : foldChar mark ∈ fold b := by
    rw [← h]
    exact List.mem_map_of_mem hmem
  obtain ⟨c, hc, hfold⟩ := List.mem_map.1 hfolded
  rw [foldChar_mark hmark] at hfold
  rwa [← eq_mark_of_foldChar hmark hfold]

end Colloquy.Text
