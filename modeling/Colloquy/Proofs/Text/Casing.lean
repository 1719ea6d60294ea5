import Colloquy.Text.Casing
import Colloquy.Proofs.Text.Fragment

/-!
# Letter case and blank space

Lowering a letter never gives a blank: the images of the case table stay clear of the blank code
points. So a text that is not blank is not blank in lower case either.
-/

namespace Colloquy.Text

/-- The code points of the blanks. -/
def blankPoints : List Nat :=
  [9, 10, 11, 12, 13, 0x20, 0x85, 0xA0, 0x1680, 0x2000, 0x2001, 0x2002, 0x2003, 0x2004, 0x2005,
    0x2006, 0x2007, 0x2008, 0x2009, 0x200A, 0x2028, 0x2029, 0x202F, 0x205F, 0x3000]

theorem mem_blankPoints {c : Char} (h : isBlank c = true) : c.toNat ∈ blankPoints := by
  simp only [isBlank, Bool.or_eq_true, Bool.and_eq_true, decide_eq_true_eq, beq_iff_eq] at h
  simp only [blankPoints, List.mem_cons, List.not_mem_nil, or_false]
  omega

/-- A code point that is no character counts as zero. -/
theorem toNat_ofNat (n : Nat) : (Char.ofNat n).toNat = n ∨ (Char.ofNat n).toNat = 0 := by
  by_cases hvalid : n.isValidChar
  · rw [Char.ofNat, dif_pos hvalid]
    exact .inl rfl
  · rw [Char.ofNat, dif_neg hvalid]
    exact .inr rfl

/-- A partner of a code point lies among the images of a run. -/
theorem exists_run_of_partner? {runs : List CaseRun} {n m : Nat} (h : partner? runs n = some m) :
    ∃ run ∈ runs, (run.first ≤ n ∧ n ≤ run.last) ∧ m = run.image + (n - run.first) := by
  rw [partner?, Option.map_eq_some_iff] at h
  obtain ⟨run, hrun, rfl⟩ := h
  have hspan := List.find?_some hrun
  simp only [Bool.and_eq_true, decide_eq_true_eq, beq_iff_eq] at hspan
  exact ⟨run, List.mem_of_find?_eq_some hrun, hspan.1, rfl⟩

/-- The images of the runs lie beside the blanks. -/
theorem lowerRuns_clear : ∀ run ∈ lowerRuns, ∀ n ∈ blankPoints,
    n < run.image ∨ run.image + (run.last - run.first) < n := by
  decide +kernel

theorem isBlank_lowerChar {c : Char} (h : isBlank c = false) : isBlank (lowerChar c) = false := by
  rw [lowerChar]
  cases himage : partner? lowerRuns c.toNat with
  | none => exact h
  | some n =>
    obtain ⟨run, hrun, hspan, rfl⟩ := exists_run_of_partner? himage
    show isBlank (Char.ofNat (run.image + (c.toNat - run.first))) = false
    rw [Bool.eq_false_iff]
    intro hblank
    have hpoint := mem_blankPoints hblank
    rcases toNat_ofNat (run.image + (c.toNat - run.first)) with hn | hn
    · rw [hn] at hpoint
      have hclear := lowerRuns_clear run hrun _ hpoint
      omega
    · rw [hn] at hpoint
      revert hpoint
      decide

theorem isBlank_lowerBetween {c : Char} (h : isBlank c = false) (before rest : Text) :
    ∃ d ∈ lowerBetween before c rest, isBlank d = false := by
  rw [lowerBetween]
  split
  · split
    · exact ⟨'ς', by simp, by decide⟩
    · exact ⟨'σ', by simp, by decide⟩
  · split
    · exact ⟨'i', by simp, by decide⟩
    · exact ⟨lowerChar c, by simp, isBlank_lowerChar h⟩

/-- What starts with a letter that is not blank is not blank in lower case. -/
theorem trim_lowercase_ne_nil {c : Char} {rest : Text} (h : isBlank c = false) :
    trim (lowercase (c :: rest)) ≠ [] := by
  obtain ⟨d, hd, hblank⟩ := isBlank_lowerBetween h [] rest
  refine trim_ne_nil ?_ hblank
  rw [lowercase, lowerAfter]
  exact List.mem_append_left _ hd

end Colloquy.Text
