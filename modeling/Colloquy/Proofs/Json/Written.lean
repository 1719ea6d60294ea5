import Mathlib.Data.List.Forall2
import Colloquy.Json.Outline
import Colloquy.Proofs.Json.Outline
import Colloquy.Proofs.Json.Scalar

/-!
# Values read back

What is written for a value is read as its outline, in either way of reading, provided that its
numbers are read as they are written and that there are levels enough (`read?_write`). What a style
puts between the parts of the text does not matter as long as it is blank.

`Reads` says that a reader takes a text for an outline whatever follows it; arrays and objects pass
it on from their parts to themselves (`reads_array`, `reads_object`).
-/

namespace Colloquy.Json

open Text (isDigit)

/-! ### Blank space -/

/-- All that the style puts between the parts of a text is blank. -/
structure Style.Blank (style : Style) : Prop where
  newline : ∀ level, ∀ c ∈ style.newline level, isSpace c = true
  gap : ∀ c ∈ style.gap, isSpace c = true

theorem Style.blank_compact : Style.compact.Blank := ⟨by simp [compact], by simp [compact]⟩

theorem Style.blank_pretty : Style.pretty.Blank := by
  refine ⟨fun level c hc => ?_, fun c hc => ?_⟩
  · rcases List.mem_cons.1 hc with rfl | hc
    · rfl
    · rw [List.eq_of_mem_replicate hc]
      rfl
  · rw [List.mem_singleton.1 hc]
    rfl

theorem skip_append {lead : Text} (h : ∀ c ∈ lead, isSpace c = true) (text : Text) :
    skip (lead ++ text) = skip text :=
  List.dropWhile_append_of_pos h

theorem skip_cons {c : Char} (h : isSpace c = false) (rest : Text) :
    skip (c :: rest) = c :: rest := by
  rw [skip, List.dropWhile_cons, h]
  rfl

/-- Blank space and what is no part of a number ends a number. -/
theorem ends_append {lead rest : Text} (h : ∀ c ∈ lead, isSpace c = true) (hrest : Ends rest) :
    Ends (lead ++ rest) := by
  cases lead with
  | nil => exact hrest
  | cons c cs =>
    refine ends_cons ?_
    have hc := h c (by simp)
    simp only [isSpace, Bool.or_eq_true, beq_iff_eq] at hc
    rcases hc with ((rfl | rfl) | rfl) | rfl <;> decide

/-! ### What is read whatever follows -/

/-- The reader takes the text, after blank space and before anything that does not go on with a
number, for the outline. The text starts with a character that is neither blank nor a closing
bracket. -/
structure Reads (item? : Text → Except Fault (Outline × Text)) (text : Text) (outline : Outline) :
    Prop where
  start : ∃ c rest, text = c :: rest ∧ isSpace c = false ∧ c ≠ ']'
  reads : ∀ lead rest, (∀ c ∈ lead, isSpace c = true) → Ends rest →
    item? (lead ++ text ++ rest) = .ok (outline, rest)

theorem Reads.ne_nil {item? : Text → Except Fault (Outline × Text)} {text : Text}
    {outline : Outline} (h : Reads item? text outline) : text ≠ [] := by
  obtain ⟨c, rest, rfl, -⟩ := h.start
  exact List.cons_ne_nil _ _

namespace Outline

variable {item? : Text → Except Fault (Outline × Text)} {strict : Bool} {line close rest : Text}

/-! ### Items -/

theorem items?_last {fuel : Nat} {text : Text} {item : Outline}
    (hclose : ∀ c ∈ close, isSpace c = true)
    (h : item? text = .ok (item, close ++ ']' :: rest)) :
    items? item? (fuel + 1) text = .ok ([item], rest) := by
  have hskip : skip (close ++ ']' :: rest) = ']' :: rest := by
    rw [skip_append hclose, skip_cons (by decide)]
  simp only [items?, h, bind, Except.bind, hskip]
  rfl

theorem items?_next {fuel : Nat} {text : Text} {c : Char} {more : Text} {item : Outline}
    {others : List Outline} (hline : ∀ c ∈ line, isSpace c = true) (hc : isSpace c = false)
    (hbracket : c ≠ ']') (h : item? text = .ok (item, ',' :: line ++ c :: more))
    (hmore : items? item? fuel (c :: more) = .ok (others, rest)) :
    items? item? (fuel + 1) text = .ok (item :: others, rest) := by
  have hcomma : skip (',' :: line ++ c :: more) = ',' :: (line ++ c :: more) :=
    skip_cons (by decide) _
  have hskip : skip (line ++ c :: more) = c :: more := by
    rw [skip_append hline, skip_cons hc]
  simp only [items?, h, bind, Except.bind, hcomma, hskip]
  split
  · simp_all
  · simp_all
  · rw [hmore]
    rfl

/-- Items that are read one by one are read from the list of them. -/
theorem items?_join {parts : List Text} {outlines : List Outline}
    (h : List.Forall₂ (Reads item?) parts outlines) (hne : parts ≠ [])
    (hline : ∀ c ∈ line, isSpace c = true) (hclose : ∀ c ∈ close, isSpace c = true) {fuel : Nat}
    (hfuel : parts.length ≤ fuel) (rest : Text) :
    items? item? fuel (Text.join (',' :: line) parts ++ close ++ ']' :: rest) =
      .ok (outlines, rest) := by
  induction h generalizing fuel with
  | nil => exact absurd rfl hne
  | @cons part outline others outlines hpart hothers ih =>
    obtain ⟨fuel, rfl⟩ : ∃ k, fuel = k + 1 := ⟨fuel - 1, by rw [List.length_cons] at hfuel; omega⟩
    cases hothers with
    | nil =>
      refine items?_last hclose ?_
      have hend : Ends (close ++ ']' :: rest) := ends_append hclose (ends_cons (by decide))
      simpa [Text.join] using hpart.reads [] _ (by simp) hend
    | @cons next _ others _ hnext _ =>
      obtain ⟨c, tail, hstart, hspace, hbracket⟩ := hnext.start
      have hmore := ih (by simp) (by simpa using hfuel)
      obtain ⟨more, hjoin⟩ : ∃ more,
          Text.join (',' :: line) (next :: others) ++ close ++ ']' :: rest = c :: more := by
        rw [hstart]
        cases others <;> exact ⟨_, rfl⟩
      rw [hjoin] at hmore
      refine items?_next hline hspace hbracket ?_ hmore
      have htext : Text.join (',' :: line) (part :: next :: others) ++ close ++ ']' :: rest =
          part ++ (',' :: line ++ c :: more) := by
        rw [← hjoin, Text.join]
        simp
      rw [htext]
      simpa using hpart.reads [] _ (by simp) (ends_cons (c := ',') (by decide))

/-! ### Members -/

/-- The text is a key, a colon and a text that the reader takes for the outline. -/
inductive ReadsMember (item? : Text → Except Fault (Outline × Text)) :
    Text → Option Text × Outline → Prop where
  | intro (key : Text) {gap text : Text} {outline : Outline}
      (hgap : ∀ c ∈ gap, isSpace c = true) (h : Reads item? text outline) :
      ReadsMember item? (writeString key ++ ':' :: gap ++ text) (some key, outline)

theorem ReadsMember.ne_nil {text : Text} {entry : Option Text × Outline}
    (h : ReadsMember item? text entry) : text ≠ [] := by
  cases h
  exact List.cons_ne_nil _ _

theorem members?_last {fuel : Nat} {key : Text} {text : Text} {item : Outline}
    (hclose : ∀ c ∈ close, isSpace c = true)
    (h : item? text = .ok (item, close ++ '\x7d' :: rest)) :
    members? strict item? (fuel + 1) (key.flatMap escape ++ '"' :: ':' :: text) =
      .ok ([(some key, item)], rest) := by
  have hcolon : skip (':' :: text) = ':' :: text := skip_cons (by decide) _
  have hskip : skip (close ++ '\x7d' :: rest) = '\x7d' :: rest := by
    rw [skip_append hclose, skip_cons (by decide)]
  simp only [members?, string?_write, bind, Except.bind, hcolon, h, hskip]
  rfl

theorem members?_next {fuel : Nat} {key : Text} {text more : Text} {item : Outline}
    {others : List (Option Text × Outline)} (hline : ∀ c ∈ line, isSpace c = true)
    (h : item? text = .ok (item, ',' :: line ++ '"' :: more))
    (hmore : members? strict item? fuel more = .ok (others, rest)) :
    members? strict item? (fuel + 1) (key.flatMap escape ++ '"' :: ':' :: text) =
      .ok ((some key, item) :: others, rest) := by
  have hcolon : skip (':' :: text) = ':' :: text := skip_cons (by decide) _
  have hcomma : skip (',' :: line ++ '"' :: more) = ',' :: (line ++ '"' :: more) :=
    skip_cons (by decide) _
  have hskip : skip (line ++ '"' :: more) = '"' :: more := by
    rw [skip_append hline, skip_cons (by decide)]
  simp only [members?, string?_write, bind, Except.bind, hcolon, h, hcomma, hskip, hmore]
  rfl

/-- Members that are read one by one are read from the list of them, after the first quote. -/
theorem members?_join {parts : List Text} {entries : List (Option Text × Outline)}
    (h : List.Forall₂ (ReadsMember item?) parts entries) (hne : parts ≠ [])
    (hline : ∀ c ∈ line, isSpace c = true) (hclose : ∀ c ∈ close, isSpace c = true) {fuel : Nat}
    (hfuel : parts.length ≤ fuel) (strict : Bool) (rest : Text) :
    ∃ text, Text.join (',' :: line) parts ++ close ++ '\x7d' :: rest = '"' :: text ∧
      members? strict item? fuel text = .ok (entries, rest) := by
  induction h generalizing fuel with
  | nil => exact absurd rfl hne
  | @cons part entry others entries hpart hothers ih =>
    obtain ⟨fuel, rfl⟩ : ∃ k, fuel = k + 1 := ⟨fuel - 1, by rw [List.length_cons] at hfuel; omega⟩
    obtain @⟨key, gap, text, outline, hgap, htext⟩ := hpart
    cases hothers with
    | nil =>
      have hend : Ends (close ++ '\x7d' :: rest) := ends_append hclose (ends_cons (by decide))
      exact ⟨_, by simp [Text.join, writeString],
        members?_last hclose (htext.reads gap _ hgap hend)⟩
    | cons _ _ =>
      obtain ⟨more, hjoin, hmore⟩ := ih (by simp) (by simpa using hfuel)
      have hend : Ends (',' :: line ++ '"' :: more) := ends_cons (by decide)
      refine ⟨_, ?_, members?_next hline (htext.reads gap _ hgap hend) hmore⟩
      rw [← hjoin, Text.join]
      simp [writeString]

/-! ### Arrays and objects -/

theorem length_le_length_join (between : Text) {parts : List Text} (h : ∀ part ∈ parts, part ≠ []) :
    parts.length ≤ (Text.join between parts).length := by
  induction parts with
  | nil => exact Nat.zero_le _
  | cons part rest ih =>
    obtain ⟨hpart, hrest⟩ := List.forall_mem_cons.1 h
    have hone : 1 ≤ part.length := List.length_pos_of_ne_nil hpart
    cases rest with
    | nil => simpa [Text.join] using hone
    | cons next more =>
      have hmore := ih hrest
      simp only [Text.join, List.length_append, List.length_cons] at hmore ⊢
      omega

theorem ne_nil_of_mem {β : Type} {reads : Text → β → Prop} {parts : List Text} {found : List β}
    (h : List.Forall₂ reads parts found) (hreads : ∀ part value, reads part value → part ≠ []) :
    ∀ part ∈ parts, part ≠ [] := by
  induction h with
  | nil => simp
  | cons hpart _ ih => exact List.forall_mem_cons.2 ⟨hreads _ _ hpart, ih⟩

theorem array?_enclose {style : Style} (hstyle : style.Blank) {parts : List Text}
    {outlines : List Outline} (h : List.Forall₂ (Reads item?) parts outlines) (level : Nat)
    (rest : Text) :
    ∃ text, enclose style level '[' ']' parts = '[' :: text ∧
      array? item? (text ++ rest) = .ok (.array outlines, rest) := by
  rw [enclose]
  split_ifs with hnil
  · subst hnil
    cases h
    exact ⟨_, rfl, rfl⟩
  · refine ⟨_, rfl, ?_⟩
    obtain ⟨c, more, hcons, hspace, hbracket⟩ : ∃ c more,
        Text.join (',' :: style.newline (level + 1)) parts ++ style.newline level ++ ']' :: rest =
          c :: more ∧ isSpace c = false ∧ c ≠ ']' := by
      cases h with
      | nil => exact absurd rfl hnil
      | cons hpart hothers =>
        obtain ⟨c, tail, rfl, hspace, hbracket⟩ := hpart.start
        cases hothers <;> exact ⟨c, _, rfl, hspace, hbracket⟩
    have hlength := length_le_length_join (',' :: style.newline (level + 1))
      (ne_nil_of_mem h fun _ _ hpart => hpart.ne_nil)
    have hfuel : parts.length ≤ (c :: more).length := by
      rw [← hcons, List.length_append, List.length_append]
      omega
    have hitems := items?_join h hnil (hstyle.newline (level + 1)) (hstyle.newline level) hfuel rest
    rw [hcons] at hitems
    have htext : style.newline (level + 1) ++ Text.join (',' :: style.newline (level + 1)) parts ++
        style.newline level ++ [']'] ++ rest = style.newline (level + 1) ++ c :: more := by
      rw [← hcons]
      simp
    show array? item? (style.newline (level + 1) ++ _ ++ _ ++ _ ++ _) = _
    rw [htext, array?, skip_append (hstyle.newline (level + 1)), skip_cons hspace]
    split
    · simp_all
    · simp_all
    · rw [hitems]
      rfl

theorem object?_enclose {style : Style} (hstyle : style.Blank) {parts : List Text}
    {entries : List (Option Text × Outline)} (h : List.Forall₂ (ReadsMember item?) parts entries)
    (level : Nat) (strict : Bool) (rest : Text) :
    ∃ text, enclose style level '\x7b' '\x7d' parts = '\x7b' :: text ∧
      object? strict item? (text ++ rest) = .ok (.object entries, rest) := by
  rw [enclose]
  split_ifs with hnil
  · subst hnil
    cases h
    exact ⟨_, rfl, rfl⟩
  · refine ⟨_, rfl, ?_⟩
    have hlength := length_le_length_join (',' :: style.newline (level + 1))
      (ne_nil_of_mem h fun _ _ hpart => hpart.ne_nil)
    obtain ⟨more, hcons, -⟩ := members?_join h hnil (hstyle.newline (level + 1))
      (hstyle.newline level) (le_refl _) strict rest
    have hfuel : parts.length ≤ more.length := by
      have heq := congrArg List.length hcons
      simp only [List.length_append, List.length_cons] at heq
      omega
    obtain ⟨text, htext, hmembers⟩ := members?_join h hnil (hstyle.newline (level + 1))
      (hstyle.newline level) hfuel strict rest
    obtain rfl : more = text := List.tail_eq_of_cons_eq (hcons.symm.trans htext)
    have hbody : style.newline (level + 1) ++ Text.join (',' :: style.newline (level + 1)) parts ++
        style.newline level ++ ['\x7d'] ++ rest = style.newline (level + 1) ++ '"' :: more := by
      rw [← hcons]
      simp
    show object? strict item? (style.newline (level + 1) ++ _ ++ _ ++ _ ++ _) = _
    rw [hbody, object?, skip_append (hstyle.newline (level + 1)), skip_cons (by decide)]
    simp only [hmembers]
    rfl

/-- An array is read whatever follows it if its items are. -/
theorem reads_array {style : Style} (hstyle : style.Blank) {levels : Nat} {parts : List Text}
    {outlines : List Outline} (h : List.Forall₂ (Reads (value? strict levels)) parts outlines)
    (level : Nat) :
    Reads (value? strict (levels + 1)) (enclose style level '[' ']' parts) (.array outlines) := by
  refine ⟨?_, ?_⟩
  · obtain ⟨text, htext, -⟩ := array?_enclose hstyle h level []
    exact ⟨'[', text, htext, by decide, by decide⟩
  · intro lead rest hlead _
    obtain ⟨text, htext, harray⟩ := array?_enclose hstyle h level rest
    rw [htext, value?, List.append_assoc, skip_append hlead, List.cons_append,
      skip_cons (by decide)]
    exact harray

/-- An object is read whatever follows it if its members are. -/
theorem reads_object {style : Style} (hstyle : style.Blank) {levels : Nat} {parts : List Text}
    {entries : List (Option Text × Outline)}
    (h : List.Forall₂ (ReadsMember (value? strict levels)) parts entries) (level : Nat) :
    Reads (value? strict (levels + 1)) (enclose style level '\x7b' '\x7d' parts)
      (.object entries) := by
  refine ⟨?_, ?_⟩
  · obtain ⟨text, htext, -⟩ := object?_enclose hstyle h level strict []
    exact ⟨'\x7b', text, htext, by decide, by decide⟩
  · intro lead rest hlead _
    obtain ⟨text, htext, hobject⟩ := object?_enclose hstyle h level strict rest
    rw [htext, value?, List.append_assoc, skip_append hlead, List.cons_append,
      skip_cons (by decide)]
    exact hobject

/-! ### Leaves -/

theorem value?_eq_leaf? {levels : Nat} {lead text : Text} {c : Char}
    (hlead : ∀ c ∈ lead, isSpace c = true) (hspace : isSpace c = false) (hbracket : c ≠ '[')
    (hbrace : c ≠ '\x7b') :
    value? strict levels (lead ++ c :: text) = leaf? strict (c :: text) := by
  cases levels with
  | zero =>
    rw [value?, skip_append hlead, skip_cons hspace]
    split <;> simp_all
  | succ levels =>
    rw [value?, skip_append hlead, skip_cons hspace]
    split <;> simp_all

theorem reads_of_leaf? {levels : Nat} {text more : Text} {c : Char} {outline : Outline}
    (htext : text = c :: more) (hspace : isSpace c = false) (hstart : c ∉ ['[', ']', '\x7b'])
    (h : ∀ rest, Ends rest → leaf? strict (text ++ rest) = .ok (outline, rest)) :
    Reads (value? strict levels) text outline := by
  simp only [List.mem_cons, List.not_mem_nil, or_false, not_or] at hstart
  refine ⟨⟨c, more, htext, hspace, hstart.2.1⟩, ?_⟩
  intro lead rest hlead hrest
  rw [htext, List.append_assoc, List.cons_append,
    value?_eq_leaf? hlead hspace hstart.1 hstart.2.2, ← List.cons_append, ← htext]
  exact h rest hrest

theorem word?_append (word : Text) (value : Json) (rest : Text) :
    word? word value (word ++ rest) = .ok (.leaf (some value), rest) := by
  induction word with
  | nil => rfl
  | cons c cs ih => rw [List.cons_append, word?, if_pos rfl, ih]

theorem leaf?_number {c : Char} {text left : Text} {value : Json} (hc : c = '-' ∨ isDigit c = true)
    (h : number? (c :: text) = .ok (.ok value, left)) :
    leaf? strict (c :: text) = .ok (.leaf (some value), left) := by
  rw [leaf?, if_pos hc, h]
  · rfl
  all_goals
    rintro rfl
    exact absurd hc (by decide)

/-- A number that is read by itself is a leaf whatever follows it. -/
theorem reads_number {levels : Nat} {text : Text} {value : Json}
    (h : number? text = .ok (.ok value, [])) :
    Reads (value? strict levels) text (.leaf (some value)) := by
  obtain ⟨c, more, rfl, hc⟩ := exists_head_of_number? h
  have hspace : isSpace c = false := by
    rw [Bool.eq_false_iff]
    intro hspace
    simp only [isSpace, Bool.or_eq_true, beq_iff_eq] at hspace
    rcases hspace with ((rfl | rfl) | rfl) | rfl <;> exact absurd hc (by decide)
  have hstart : c ∉ ['[', ']', '\x7b'] := by
    intro hmem
    simp only [List.mem_cons, List.not_mem_nil, or_false] at hmem
    rcases hmem with rfl | rfl | rfl <;> exact absurd hc (by decide)
  refine reads_of_leaf? rfl hspace hstart ?_
  intro rest hrest
  exact leaf?_number hc (number?_append hrest h)

theorem reads_string {levels : Nat} (value : Text) :
    Reads (value? strict levels) (writeString value) (.leaf (some (.string value))) := by
  refine reads_of_leaf? (c := '"') rfl (by decide) (by decide) ?_
  intro rest _
  have htext : writeString value ++ rest = '"' :: (value.flatMap escape ++ '"' :: rest) := by
    simp [writeString]
  rw [htext, leaf?, string?_write]
  rfl

end Outline

/-! ### Values -/

/-- Every number in the value is read as it is written. -/
structure Numeric (value : Json) : Prop where
  int : ∀ n, Part (.int n) value → Fits n
  real : ∀ x, Part (.real x) value → x.ReadsBack

theorem Numeric.item {items : List Json} {item : Json} (h : (Json.array items).Numeric)
    (hitem : item ∈ items) : item.Numeric :=
  ⟨fun n hn => h.int n (.item hitem hn), fun x hx => h.real x (.item hitem hx)⟩

theorem Numeric.member {members : List (Text × Json)} {entry : Text × Json}
    (h : (Json.object members).Numeric) (hentry : entry ∈ members) : entry.2.Numeric :=
  ⟨fun n hn => h.int n (.member hentry hn), fun x hx => h.real x (.member hentry hx)⟩

theorem numeric_string (value : Text) : (Json.string value).Numeric :=
  ⟨by rintro n ⟨⟩, by rintro x ⟨⟩⟩

theorem numeric_array {items : List Json} (h : ∀ item ∈ items, item.Numeric) :
    (Json.array items).Numeric := by
  constructor
  · rintro n (_ | ⟨hitem, hpart⟩)
    exact (h _ hitem).int n hpart
  · rintro x (_ | ⟨hitem, hpart⟩)
    exact (h _ hitem).real x hpart

theorem numeric_object {members : List (Text × Json)} (h : ∀ entry ∈ members, entry.2.Numeric) :
    (Json.object members).Numeric := by
  constructor
  · rintro n (_ | _ | ⟨hentry, hpart⟩)
    exact (h _ hentry).int n hpart
  · rintro x (_ | _ | ⟨hentry, hpart⟩)
    exact (h _ hentry).real x hpart

namespace Outline

variable {style : Style} {strict : Bool} {item? : Text → Except Fault (Outline × Text)}

theorem forall₂_writeItems {level : Nat} {items : List Json}
    (h : ∀ item ∈ items, Reads item? (writeAt style level item) (ofJson item)) :
    List.Forall₂ (Reads item?) (writeItems style level items) (ofItems items) := by
  induction items with
  | nil => exact .nil
  | cons item rest ih =>
    obtain ⟨hitem, hrest⟩ := List.forall_mem_cons.1 h
    exact .cons hitem (ih hrest)

theorem forall₂_writeMembers (hstyle : style.Blank) {level : Nat} {members : List (Text × Json)}
    (h : ∀ entry ∈ members, Reads item? (writeAt style level entry.2) (ofJson entry.2)) :
    List.Forall₂ (ReadsMember item?) (writeMembers style level members) (ofMembers members) := by
  induction members with
  | nil => exact .nil
  | cons entry rest ih =>
    obtain ⟨hentry, hrest⟩ := List.forall_mem_cons.1 h
    obtain ⟨key, value⟩ := entry
    exact .cons (.intro key hstyle.gap hentry) (ih hrest)

/-- What is written for a value is read as its outline, if the levels are enough. -/
theorem reads_writeAt (hstyle : style.Blank) {value : Json} (h : value.Numeric) (level : Nat)
    {levels : Nat} (hlevels : value.depth ≤ levels) :
    Reads (value? strict levels) (writeAt style level value) (ofJson value) := by
  induction value using Json.induction generalizing level levels with
  | null =>
    exact reads_of_leaf? (c := 'n') rfl (by decide) (by decide) fun rest _ =>
      word?_append "ull" .null rest
  | bool value =>
    cases value with
    | false =>
      exact reads_of_leaf? (c := 'f') rfl (by decide) (by decide) fun rest _ =>
        word?_append "alse" (.bool false) rest
    | true =>
      exact reads_of_leaf? (c := 't') rfl (by decide) (by decide) fun rest _ =>
        word?_append "rue" (.bool true) rest
  | int value => exact reads_number (number?_ofInt (h.int value .self))
  | real value => exact reads_number (h.real value .self)
  | string value => exact reads_string value
  | array items ih =>
    obtain ⟨levels, rfl⟩ : ∃ k, levels = k + 1 :=
      ⟨levels - 1, by have := depth_array_pos items; omega⟩
    rw [depth_array_le_iff] at hlevels
    have hitems : List.Forall₂ (Reads (value? strict levels)) (writeItems style (level + 1) items)
        (ofItems items) :=
      forall₂_writeItems fun item hitem =>
        ih item hitem (h.item hitem) (level + 1) (hlevels item hitem)
    exact reads_array hstyle hitems level
  | object members ih =>
    obtain ⟨levels, rfl⟩ : ∃ k, levels = k + 1 :=
      ⟨levels - 1, by have := depth_object_pos members; omega⟩
    rw [depth_object_le_iff] at hlevels
    have hmembers : List.Forall₂ (ReadsMember (value? strict levels))
        (writeMembers style (level + 1) members) (ofMembers members) :=
      forall₂_writeMembers hstyle fun entry hentry =>
        ih entry hentry (h.member hentry) (level + 1) (hlevels entry hentry)
    exact reads_object hstyle hmembers level

end Outline

/-! ### Texts of values -/

theorem length_le_length_enclose (style : Style) (level : Nat) (left right : Char)
    {parts : List Text} {part : Text} (h : part ∈ parts) :
    part.length + 1 ≤ (enclose style level left right parts).length := by
  have hjoin : ∀ parts : List Text, part ∈ parts →
      part.length ≤ (Text.join (',' :: style.newline (level + 1)) parts).length := by
    intro parts hmem
    induction parts with
    | nil => cases hmem
    | cons first rest ih =>
      cases rest with
      | nil => rw [List.mem_singleton.1 hmem, Text.join]
      | cons next more =>
        simp only [Text.join, List.length_append]
        rcases List.mem_cons.1 hmem with rfl | hmem
        · omega
        · have hlength := ih hmem
          omega
  have hlength := hjoin parts h
  rw [enclose, if_neg (List.ne_nil_of_mem h)]
  simp only [List.length_append, List.length_cons]
  omega

theorem two_le_length_enclose (style : Style) (level : Nat) (left right : Char)
    (parts : List Text) : 2 ≤ (enclose style level left right parts).length := by
  rw [enclose]
  split_ifs
  · exact le_refl 2
  · simp only [List.length_append, List.length_cons]
    omega

theorem writeItems_eq_map (style : Style) (level : Nat) (items : List Json) :
    writeItems style level items = items.map (writeAt style level) := by
  induction items with
  | nil => rfl
  | cons item rest ih => rw [writeItems, ih, List.map_cons]

theorem writeMembers_eq_map (style : Style) (level : Nat) (members : List (Text × Json)) :
    writeMembers style level members = members.map (writeMember style level) := by
  induction members with
  | nil => rfl
  | cons entry rest ih => rw [writeMembers, ih, List.map_cons]

/-- A value has no more levels than its text has characters. -/
theorem depth_le_length_writeAt (style : Style) (level : Nat) (value : Json) :
    value.depth ≤ (writeAt style level value).length := by
  induction value using Json.induction generalizing level with
  | null => exact Nat.zero_le _
  | bool value => exact Nat.zero_le _
  | int value => exact Nat.zero_le _
  | real value => exact Nat.zero_le _
  | string value => exact Nat.zero_le _
  | array items ih =>
    rw [writeAt, writeItems_eq_map]
    have htwo := two_le_length_enclose style level '[' ']' (items.map (writeAt style (level + 1)))
    obtain ⟨n, hn⟩ := Nat.exists_eq_add_of_le htwo
    rw [hn, Nat.add_comm, depth_array_le_iff]
    intro item hitem
    have hpart := length_le_length_enclose style level '[' ']'
      (List.mem_map_of_mem (f := writeAt style (level + 1)) hitem)
    have hdepth := ih item hitem (level + 1)
    omega
  | object members ih =>
    rw [writeAt, writeMembers_eq_map]
    have htwo := two_le_length_enclose style level '\x7b' '\x7d'
      (members.map (writeMember style (level + 1)))
    obtain ⟨n, hn⟩ := Nat.exists_eq_add_of_le htwo
    rw [hn, Nat.add_comm, depth_object_le_iff]
    intro entry hentry
    have hpart := length_le_length_enclose style level '\x7b' '\x7d'
      (List.mem_map_of_mem (f := writeMember style (level + 1)) hentry)
    have hmember : (writeAt style (level + 1) entry.2).length ≤
        (writeMember style (level + 1) entry).length := by
      rw [writeMember, List.length_append]
      exact Nat.le_add_left _ _
    have hdepth := ih entry hentry (level + 1)
    omega

/-- What is written for a value is read as its outline. -/
theorem Outline.read?_write {style : Style} (hstyle : style.Blank) {strict : Bool} {value : Json}
    (h : value.Numeric) (hdepth : strict = true → value.depth ≤ deepest) :
    Outline.read? strict (write style value) = .ok (ofJson value) := by
  have hlevels : value.depth ≤ if strict then deepest else (write style value).length := by
    cases strict with
    | true => exact hdepth rfl
    | false => exact depth_le_length_writeAt style 0 value
  have hreads : value? strict (if strict then deepest else (write style value).length)
      ([] ++ write style value ++ []) = .ok (ofJson value, []) :=
    (reads_writeAt hstyle h 0 hlevels).reads [] [] (by simp) ends_nil
  rw [List.nil_append, List.append_nil] at hreads
  rw [Outline.read?, hreads]
  rfl

/-- A value whose objects are in order is read back from its text. -/
theorem read?_write {style : Style} (hstyle : style.Blank) {value : Json} (h : value.Numeric)
    (hsorted : value.Sorted) (hdepth : value.depth ≤ Outline.deepest) :
    read? (write style value) = .ok value := by
  refine bind_eq_ok.2 ⟨_, Outline.read?_write hstyle h fun _ => hdepth, ?_⟩
  rw [Outline.toJson?_ofJson hsorted]
  rfl

end Colloquy.Json
