import Mathlib.Data.Nat.Notation
import Colloquy.Json.Scalar
import Colloquy.Json.Writer
import Colloquy.Proofs.Outcome
import Colloquy.Proofs.Text.Digits

/-!
# Numbers and strings read back

A string between quotes is read as the string that was written (`string?_write`), and an integer of
64 bits as that integer (`number?_ofInt`). A number is read as the same number whatever follows it,
provided that what follows does not go on with it (`number?_append`); that is all that is known of
a double, for which reading back is a property of its own (`Binary64.ReadsBack`).
-/

namespace Colloquy

/-- The double is read as it is written. -/
def Binary64.ReadsBack (x : Binary64) : Prop := Json.number? x.write = .ok (.ok (.real x), [])

namespace Json

open Text (isDigit)

/-! ### Ends of numbers -/

/-- No number goes on with the text. -/
def Ends (text : Text) : Prop :=
  ∀ c, text.head? = some c → isDigit c = false ∧ c ≠ '.' ∧ c ≠ 'e' ∧ c ≠ 'E'

theorem ends_nil : Ends [] := by simp [Ends]

theorem ends_cons {c : Char} {rest : Text}
    (h : isDigit c = false ∧ c ≠ '.' ∧ c ≠ 'e' ∧ c ≠ 'E') : Ends (c :: rest) := by
  intro d hd
  rw [← Option.some.inj hd]
  exact h

namespace Numeral

variable {text left rest : Text}

theorem digits_append (h : Ends rest) (text : Text) :
    digits (text ++ rest) = ((digits text).1, (digits text).2 ++ rest) := by
  rw [digits, digits, Prod.mk.injEq]
  induction text with
  | nil =>
    exact Text.takeWhile_isDigit_append (by simp) fun c hc => (h c hc).1
  | cons c cs ih =>
    by_cases hc : isDigit c = true
    · simpa [hc] using ih
    · simp [hc]

theorem whole?_append {found : Text} (hrest : Ends rest) (h : whole? text = .ok (found, left)) :
    whole? (text ++ rest) = .ok (found, left ++ rest) := by
  match text with
  | [] => cases h
  | c :: cs =>
    by_cases hzero : c = '0'
    · subst hzero
      have hhead : (cs ++ rest).head?.any isDigit = cs.head?.any isDigit := by
        cases cs with
        | nil =>
          cases rest with
          | nil => rfl
          | cons d ds => simp [(hrest d rfl).1]
        | cons d ds => rfl
      simp only [whole?, List.cons_append] at h ⊢
      rw [hhead]
      split at h
      · cases h
      · rename_i hdigit
        cases h
        rw [if_neg hdigit]
    · have hwhole : ∀ cs : Text, whole? (c :: cs) =
          if isDigit c then .ok (digits (c :: cs)) else .error (.within .number (c :: cs)) := by
        intro cs
        simp [whole?]
      rw [hwhole] at h
      rw [List.cons_append, hwhole]
      split at h
      · rename_i hdigit
        rw [if_pos hdigit, ← List.cons_append, digits_append hrest, Except.ok.inj h]
      · cases h

theorem fraction?_append {found : Text} (hrest : Ends rest)
    (h : fraction? text = .ok (found, left)) :
    fraction? (text ++ rest) = .ok (found, left ++ rest) := by
  rw [fraction?] at h ⊢
  rw [digits_append hrest]
  cases hdigits : digits text with
  | mk run after =>
    rw [hdigits] at h
    cases run with
    | nil => cases after <;> cases h
    | cons c cs =>
      cases h
      rfl

/-- The digits of an exponent whose sign has been read. -/
def signed? (negative : Bool) (text : Text) : Except Fault ((Bool × Text) × Text) :=
  match digits text with
  | ([], []) => .error (.before .endInValue text)
  | ([], _) => .error (.within .number text)
  | (found, rest) => .ok ((negative, found), rest)

theorem exponent?_of_unsigned {c : Char} (hplus : c ≠ '+') (hminus : c ≠ '-') (cs : Text) :
    exponent? (c :: cs) = signed? false (c :: cs) := by
  simp only [exponent?, signed?]
  split <;> simp_all

theorem signed?_append (negative : Bool) {found : Bool × Text} (hrest : Ends rest)
    (h : signed? negative text = .ok (found, left)) :
    signed? negative (text ++ rest) = .ok (found, left ++ rest) := by
  rw [signed?] at h ⊢
  rw [digits_append hrest]
  cases hdigits : digits text with
  | mk run after =>
    rw [hdigits] at h
    cases run with
    | nil => cases after <;> cases h
    | cons c cs =>
      cases h
      rfl

theorem exponent?_append {found : Bool × Text} (hrest : Ends rest)
    (h : exponent? text = .ok (found, left)) :
    exponent? (text ++ rest) = .ok (found, left ++ rest) := by
  match text with
  | [] => cases h
  | c :: cs =>
    by_cases hplus : c = '+'
    · subst hplus
      exact signed?_append false hrest h
    · by_cases hminus : c = '-'
      · subst hminus
        exact signed?_append true hrest h
      · rw [exponent?_of_unsigned hplus hminus] at h
        rw [List.cons_append, exponent?_of_unsigned hplus hminus]
        exact signed?_append false hrest h

theorem optionalExponent_of_none (h : ∀ c, text.head? = some c → c ≠ 'e' ∧ c ≠ 'E') :
    optionalExponent text = .ok (none, text) := by
  match text with
  | [] => rfl
  | c :: cs =>
    have hc := h c rfl
    simp only [optionalExponent]
    split <;> simp_all

theorem optionalExponent_append {found : Option (Bool × Text)} (hrest : Ends rest)
    (h : optionalExponent text = .ok (found, left)) :
    optionalExponent (text ++ rest) = .ok (found, left ++ rest) := by
  match text with
  | [] =>
    cases h
    exact optionalExponent_of_none fun c hc => (hrest c hc).2.2
  | c :: cs =>
    by_cases hc : c = 'e' ∨ c = 'E'
    · have hletter : ∀ cs : Text, optionalExponent (c :: cs) =
          exponent? cs >>= fun found => pure (some found.1, found.2) := by
        intro cs
        rcases hc with rfl | rfl <;> rfl
      rw [hletter] at h
      rw [List.cons_append, hletter]
      obtain ⟨⟨digits, after⟩, hdigits, hfound⟩ := bind_eq_ok.1 h
      cases hfound
      rw [exponent?_append hrest hdigits]
      rfl
    · have hhead : ∀ (cs : Text) d, (c :: cs).head? = some d → d ≠ 'e' ∧ d ≠ 'E' := by
        rintro cs d ⟨⟩
        exact not_or.1 hc
      rw [optionalExponent_of_none (hhead cs)] at h
      cases h
      exact optionalExponent_of_none (hhead (cs ++ rest))

/-- The number whose sign and whole digits have been read and that has no fraction. -/
def unpointed? (negative : Bool) (whole text : Text) : Except Fault (Numeral × Text) := do
  let (exponent, rest) ← optionalExponent text
  pure (⟨negative, whole, [], false, exponent⟩, rest)

theorem unpointed?_append {negative : Bool} {whole : Text} {numeral : Numeral} (hrest : Ends rest)
    (h : unpointed? negative whole text = .ok (numeral, left)) :
    unpointed? negative whole (text ++ rest) = .ok (numeral, left ++ rest) := by
  obtain ⟨⟨exponent, after⟩, hexponent, h⟩ := bind_eq_ok.1 h
  cases h
  rw [unpointed?, optionalExponent_append hrest hexponent]
  rfl

/-- The number whose sign, whole digits and point have been read. -/
def pointed? (negative : Bool) (whole text : Text) : Except Fault (Numeral × Text) := do
  let (fraction, rest) ← fraction? text
  let (exponent, rest) ← optionalExponent rest
  pure (⟨negative, whole, fraction, true, exponent⟩, rest)

theorem pointed?_append {negative : Bool} {whole : Text} {numeral : Numeral} (hrest : Ends rest)
    (h : pointed? negative whole text = .ok (numeral, left)) :
    pointed? negative whole (text ++ rest) = .ok (numeral, left ++ rest) := by
  obtain ⟨⟨fraction, after⟩, hfraction, h⟩ := bind_eq_ok.1 h
  obtain ⟨⟨exponent, after⟩, hexponent, h⟩ := bind_eq_ok.1 h
  cases h
  rw [pointed?, fraction?_append hrest hfraction]
  show optionalExponent (_ ++ rest) >>= _ = _
  rw [optionalExponent_append hrest hexponent]
  rfl

theorem magnitude?_eq {negative : Bool} {whole : Text} (h : whole? text = .ok (whole, left)) :
    magnitude? negative text =
      if left.head? = some '.' then pointed? negative whole left.tail
      else unpointed? negative whole left := by
  rw [magnitude?, h]
  match left with
  | [] => rfl
  | c :: cs =>
    by_cases hc : c = '.'
    · subst hc
      rfl
    · rw [if_neg (by simpa using hc)]
      dsimp only [bind, Except.bind]
      split
      · simp_all
      · rfl

theorem magnitude?_append (negative : Bool) {numeral : Numeral} (hrest : Ends rest)
    (h : magnitude? negative text = .ok (numeral, left)) :
    magnitude? negative (text ++ rest) = .ok (numeral, left ++ rest) := by
  obtain ⟨⟨whole, after⟩, hwhole, -⟩ := bind_eq_ok.1 h
  rw [magnitude?_eq hwhole] at h
  rw [magnitude?_eq (whole?_append hrest hwhole)]
  cases after with
  | nil =>
    -- The number is over, and no point follows it.
    have hpoint : ¬ rest.head? = some '.' := fun hhead => (hrest '.' hhead).2.1 rfl
    exact (if_neg hpoint).trans (unpointed?_append hrest h)
  | cons c cs =>
    rw [List.cons_append, List.head?_cons, List.tail_cons] at *
    split at h
    · rename_i hpoint
      rw [if_pos hpoint]
      exact pointed?_append hrest h
    · rename_i hpoint
      rw [if_neg hpoint]
      exact unpointed?_append hrest h

theorem read?_of_unsigned {c : Char} (hminus : c ≠ '-') (cs : Text) :
    read? (c :: cs) = magnitude? false (c :: cs) := by
  simp only [read?]
  split <;> simp_all

theorem read?_append {numeral : Numeral} (hrest : Ends rest)
    (h : read? text = .ok (numeral, left)) :
    read? (text ++ rest) = .ok (numeral, left ++ rest) := by
  match text with
  | [] => cases h
  | c :: cs =>
    by_cases hminus : c = '-'
    · subst hminus
      exact magnitude?_append true hrest h
    · rw [read?_of_unsigned hminus] at h
      rw [List.cons_append, read?_of_unsigned hminus]
      exact magnitude?_append false hrest h

end Numeral

theorem number?_eq_ok_iff {text left : Text} {value : Json} :
    number? text = .ok (.ok value, left) ↔
      ∃ numeral, Numeral.read? text = .ok (numeral, left) ∧ numeral.value? = .ok value := by
  constructor
  · intro h
    obtain ⟨⟨numeral, after⟩, hnumeral, h⟩ := bind_eq_ok.1 h
    cases hvalue : numeral.value? with
    | ok found =>
      simp only [hvalue] at h
      cases h
      exact ⟨numeral, hnumeral, hvalue⟩
    | error unread =>
      simp only [hvalue] at h
      cases h
  · rintro ⟨numeral, hnumeral, hvalue⟩
    rw [number?, hnumeral]
    simp only [bind, Except.bind, hvalue]
    rfl

/-- What is read as a number is the same number whatever follows it. -/
theorem number?_append {text left rest : Text} {value : Json} (hrest : Ends rest)
    (h : number? text = .ok (.ok value, left)) :
    number? (text ++ rest) = .ok (.ok value, left ++ rest) := by
  obtain ⟨numeral, hnumeral, hvalue⟩ := number?_eq_ok_iff.1 h
  exact number?_eq_ok_iff.2 ⟨numeral, Numeral.read?_append hrest hnumeral, hvalue⟩

/-- A number starts with a sign or a digit. -/
theorem exists_head_of_number? {text left : Text} {value : Json}
    (h : number? text = .ok (.ok value, left)) :
    ∃ c rest, text = c :: rest ∧ (c = '-' ∨ isDigit c = true) := by
  obtain ⟨numeral, hnumeral, -⟩ := number?_eq_ok_iff.1 h
  match text with
  | [] => cases hnumeral
  | c :: cs =>
    refine ⟨c, cs, rfl, ?_⟩
    by_contra hc
    obtain ⟨hminus, hdigit⟩ := not_or.1 hc
    have hzero : c ≠ '0' := by
      rintro rfl
      exact hdigit (by decide)
    rw [Numeral.read?_of_unsigned hminus] at hnumeral
    obtain ⟨⟨whole, after⟩, hwhole, -⟩ := bind_eq_ok.1 hnumeral
    simp [Numeral.whole?, hdigit] at hwhole

/-! ### Integers -/

namespace Numeral

theorem digits_ofNat (n : Nat) : digits (Text.ofNat n) = (Text.ofNat n, []) := by
  have hdigits : ∀ c ∈ Text.ofNat n, Text.isDigit c = true := fun _ hc =>
    Text.isDigit_of_mem_ofNat hc
  have hnone : ∀ c, ([] : Text).head? = some c → isDigit c = false := by simp
  have h := Text.takeWhile_isDigit_append hdigits hnone
  rw [List.append_nil] at h
  rw [digits, h.1, h.2]

theorem whole?_ofNat (n : Nat) : whole? (Text.ofNat n) = .ok (Text.ofNat n, []) := by
  rcases Nat.eq_zero_or_pos n with rfl | hn
  · rfl
  · obtain ⟨c, cs, hcons⟩ := List.exists_cons_of_ne_nil (Text.ofNat_ne_nil n)
    have hzero : c ≠ '0' := by
      have hhead := Text.head?_ofNat hn
      rw [hcons] at hhead
      exact fun heq => hhead (by rw [heq]; rfl)
    have hdigit : isDigit c = true := Text.isDigit_of_mem_ofNat (n := n) (by simp [hcons])
    have hdigits := digits_ofNat n
    rw [hcons] at hdigits ⊢
    simp [whole?, hdigit, hdigits]

/-- Digits whose value is within the limit are all taken. -/
theorem absorb_eq {limit n : Nat} {digits : Text}
    (h : digits.foldl (fun n c => n * 10 + Text.digitValue c) n ≤ limit) :
    absorb limit n digits = (digits.foldl (fun n c => n * 10 + Text.digitValue c) n, []) := by
  induction digits generalizing n with
  | nil => rfl
  | cons c cs ih =>
    have hmono : ∀ (cs : Text) (n : Nat),
        n ≤ cs.foldl (fun n c => n * 10 + Text.digitValue c) n := by
      intro cs
      induction cs with
      | nil => exact fun n => le_refl n
      | cons d ds ih => exact fun n => le_trans (show n ≤ n * 10 + Text.digitValue d by omega) (ih _)
    have hnext := hmono cs (n * 10 + Text.digitValue c)
    rw [List.foldl_cons] at h ⊢
    rw [absorb, if_neg (by omega), ih h]

theorem absorb_ofNat {n : Nat} (h : n ≤ greatest) : absorb greatest 0 (Text.ofNat n) = (n, []) := by
  have hvalue : (Text.ofNat n).foldl (fun n c => n * 10 + Text.digitValue c) 0 = n :=
    Text.valueOf_ofNat n
  rw [absorb_eq (by rw [hvalue]; exact h), hvalue]

theorem magnitude?_ofNat (negative : Bool) (n : Nat) : magnitude? negative (Text.ofNat n) =
    .ok (⟨negative, Text.ofNat n, [], false, none⟩, []) := by
  rw [magnitude?_eq (whole?_ofNat n)]
  rfl

theorem read?_ofNat (n : Nat) :
    read? (Text.ofNat n) = .ok (⟨false, Text.ofNat n, [], false, none⟩, []) := by
  obtain ⟨c, cs, hcons⟩ := List.exists_cons_of_ne_nil (Text.ofNat_ne_nil n)
  have hminus : c ≠ '-' := by
    rintro rfl
    have hdigit : isDigit '-' = true := Text.isDigit_of_mem_ofNat (n := n) (by simp [hcons])
    exact absurd hdigit (by decide)
  rw [← magnitude?_ofNat, hcons, read?_of_unsigned hminus]

theorem value?_ofNat {negative : Bool} {n : Nat} {value : Json} (h : n ≤ greatest)
    (hvalue : integer? negative n = some value) :
    value? ⟨negative, Text.ofNat n, [], false, none⟩ = .ok value := by
  simp [value?, absorb_ofNat h, hvalue]

end Numeral

/-- The integers that a number of a JSON text can be. -/
def Fits (n : Int) : Prop := -9223372036854775808 ≤ n ∧ n ≤ 18446744073709551615

theorem number?_ofInt {n : Int} (h : Fits n) : number? (Text.ofInt n) = .ok (.ok (.int n), []) := by
  obtain ⟨hlow, hhigh⟩ := h
  cases n with
  | ofNat n =>
    rw [Int.ofNat_eq_natCast] at hhigh
    have hgreatest : n ≤ Numeral.greatest := by
      rw [Numeral.greatest]
      omega
    exact number?_eq_ok_iff.2 ⟨_, Numeral.read?_ofNat n, Numeral.value?_ofNat hgreatest rfl⟩
  | negSucc n =>
    rw [Int.negSucc_eq] at hlow
    have hgreatest : n + 1 ≤ Numeral.greatest := by
      rw [Numeral.greatest]
      omega
    have hinteger : Numeral.integer? true (n + 1) = some (.int (.negSucc n)) := by
      rw [Numeral.integer?, if_neg (by decide), if_pos (by omega)]
      rfl
    exact number?_eq_ok_iff.2
      ⟨_, Numeral.magnitude?_ofNat true (n + 1), Numeral.value?_ofNat hgreatest hinteger⟩

/-! ### Strings -/

/-- What reading one more character makes of the string behind it. -/
def consString (c : Char) (found : (Option Text) × Text) : (Option Text) × Text :=
  (found.1.map (c :: ·), found.2)

theorem hexValue?_digitChar : ∀ n < 16, Text.hexValue? (Nat.digitChar n) = some n := by decide

theorem numbered?_control {c : Char} (h : c.toNat < 32) (rest : Text) :
    numbered? ('0' :: '0' :: Nat.digitChar (c.toNat / 16) :: Nat.digitChar (c.toNat % 16) :: rest) =
      .ok (.ok c, rest) := by
  have hzero : Text.hexValue? '0' = some 0 := rfl
  have hhigh := hexValue?_digitChar (c.toNat / 16) (by omega)
  have hlow := hexValue?_digitChar (c.toNat % 16) (by omega)
  have hnumber : (0 * 16 + 0) * 16 + c.toNat / 16 = c.toNat / 16 := by omega
  have hcode : c.toNat / 16 * 16 + c.toNat % 16 = c.toNat := by omega
  have hfour : fourHex? ('0' :: '0' :: Nat.digitChar (c.toNat / 16) ::
      Nat.digitChar (c.toNat % 16) :: rest) = .ok (c.toNat, rest) := by
    simp only [fourHex?, hzero, hhigh, hlow, hnumber, hcode]
  have htrailing : isTrailing c.toNat = false := by
    simp [isTrailing]
    omega
  have hleading : isLeading c.toNat = false := by
    simp [isLeading]
    omega
  rw [numbered?, hfour]
  simp only [bind, Except.bind, htrailing, hleading, Char.ofNat_toNat]
  rfl

theorem characters?_of_escaped {strict : Bool} {fuel : Nat} {c : Char} {text rest : Text}
    (h : escaped? text = .ok (.ok c, rest)) :
    characters? strict (fuel + 1) ('\\' :: text) =
      (characters? strict fuel rest).map (consString c) := by
  simp only [characters?, h, settle, bind, Except.bind]
  cases characters? strict fuel rest with
  | error fault => rfl
  | ok found => rfl

theorem characters?_of_plain {strict : Bool} {fuel : Nat} {c : Char} (hquote : c ≠ '"')
    (hslash : c ≠ '\\') (hcontrol : ¬ c.toNat < 32) (rest : Text) :
    characters? strict (fuel + 1) (c :: rest) =
      (characters? strict fuel rest).map (consString c) := by
  rw [characters?, if_neg hcontrol]
  · cases characters? strict fuel rest with
    | error fault => rfl
    | ok found => rfl
  · exact fun heq => hquote heq
  · exact fun heq => hslash heq

/-- The text of a character stands for the character. -/
theorem characters?_escape (strict : Bool) (fuel : Nat) (c : Char) (rest : Text) :
    characters? strict (fuel + 1) (escape c ++ rest) =
      (characters? strict fuel rest).map (consString c) := by
  rw [escape]
  split_ifs with hquote hslash hbreak hreturn htab hback hfeed hcontrol
  · subst hquote
    exact characters?_of_escaped rfl
  · subst hslash
    exact characters?_of_escaped rfl
  · subst hbreak
    exact characters?_of_escaped rfl
  · subst hreturn
    exact characters?_of_escaped rfl
  · subst htab
    exact characters?_of_escaped rfl
  · subst hback
    exact characters?_of_escaped rfl
  · subst hfeed
    exact characters?_of_escaped rfl
  · exact characters?_of_escaped (numbered?_control hcontrol rest)
  · exact characters?_of_plain hquote hslash hcontrol rest

theorem characters?_write (strict : Bool) {fuel : Nat} {value : Text} (h : value.length < fuel)
    (rest : Text) :
    characters? strict fuel (value.flatMap escape ++ '"' :: rest) = .ok (some value, rest) := by
  obtain ⟨fuel, rfl⟩ := Nat.exists_eq_add_of_lt h
  induction value generalizing fuel with
  | nil => rfl
  | cons c cs ih =>
    have hfuel : (c :: cs).length + fuel + 1 = cs.length + fuel + 1 + 1 := by
      rw [List.length_cons]
      omega
    rw [List.flatMap_cons, List.append_assoc, hfuel, characters?_escape, ih fuel (by omega)]
    rfl

theorem length_le_length_escape (value : Text) : value.length ≤ (value.flatMap escape).length := by
  induction value with
  | nil => exact le_refl _
  | cons c cs ih =>
    have hescape : 1 ≤ (escape c).length := by
      rw [escape]
      split_ifs <;> simp
    rw [List.flatMap_cons, List.length_append, List.length_cons]
    omega

/-- A string that is written is read back, after its opening quote. -/
theorem string?_write (strict : Bool) (value rest : Text) :
    string? strict (value.flatMap escape ++ '"' :: rest) = .ok (some value, rest) := by
  refine characters?_write strict ?_ rest
  have h := length_le_length_escape value
  rw [List.length_append]
  omega

end Json

end Colloquy
