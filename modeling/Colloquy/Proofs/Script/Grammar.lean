import Mathlib.Data.List.Chain
import Colloquy.Script.Segment

/-!
# The grammar of dialogue

Dialogue has a grammar of parsing expressions: commands and text, as often as it goes, then the end.
A command is tried first; text is whatever comes before the next place at which a command would
succeed. Parsing expressions choose in order and look ahead, so what they do with a text is stated as
a relation, `Peg.Parses`, failures included.

A cut of a text into segments is another matter: nothing is lost, a command ends at its first closing
bracket, texts are not empty, do not meet and hold no bracket that could open a command
(`Segment.Decomposes`). Whatever is such a cut is what the grammar finds (`Decomposes.parses`), and the
grammar finds one thing only (`Peg.Parses.unique`); since the segments are such a cut, they are the only
one, and the grammar finds them in every text (`Segment.segments_unique`).
-/

namespace Colloquy

/-! ### Parsing expressions -/

/-- A parsing expression over characters. -/
inductive Peg where
  | char (c : Char)
  | any
  | seq (first second : Peg)
  | choice (first second : Peg)
  /-- The expression as often as it succeeds. -/
  | many (body : Peg)
  /-- Succeeds where the expression fails, and takes nothing. -/
  | absent (body : Peg)
  /-- What the expression takes makes a segment. -/
  | segment (make : Text → Segment) (body : Peg)

/-- What a parsing expression that succeeds has found and taken, and what it has left. -/
structure Peg.Match where
  found : List Segment
  taken : Text
  rest : Text

/-- A match that begins where another one ends, behind that one. -/
def Peg.Match.append (first second : Peg.Match) : Peg.Match :=
  ⟨first.found ++ second.found, first.taken ++ second.taken, second.rest⟩

namespace Peg

/-- What a parsing expression comes to at the beginning of a text: a match, or none. -/
inductive Parses : Peg → Text → Option Match → Prop
  | char (c : Char) (rest : Text) : Parses (.char c) (c :: rest) (some ⟨[], [c], rest⟩)
  | char_ne {c d : Char} {rest : Text} : d ≠ c → Parses (.char c) (d :: rest) none
  | char_nil {c : Char} : Parses (.char c) [] none
  | any (c : Char) (rest : Text) : Parses .any (c :: rest) (some ⟨[], [c], rest⟩)
  | any_nil : Parses .any [] none
  | seq {first second text m n} : Parses first text (some m) → Parses second m.rest (some n) →
      Parses (.seq first second) text (some (m.append n))
  | seq_first {first second text} : Parses first text none → Parses (.seq first second) text none
  | seq_second {first second text m} : Parses first text (some m) → Parses second m.rest none →
      Parses (.seq first second) text none
  | choice_first {first second text m} : Parses first text (some m) →
      Parses (.choice first second) text (some m)
  | choice_second {first second text outcome} : Parses first text none →
      Parses second text outcome → Parses (.choice first second) text outcome
  | many_stop {body text} : Parses body text none →
      Parses (.many body) text (some ⟨[], [], text⟩)
  | many_step {body text m n} : Parses body text (some m) → Parses (.many body) m.rest (some n) →
      Parses (.many body) text (some (m.append n))
  | absent {body text} : Parses body text none → Parses (.absent body) text (some ⟨[], [], text⟩)
  | absent_fails {body text m} : Parses body text (some m) → Parses (.absent body) text none
  | segment {make body text m} : Parses body text (some m) →
      Parses (.segment make body) text (some ⟨[make m.taken], m.taken, m.rest⟩)
  | segment_fails {make body text} : Parses body text none →
      Parses (.segment make body) text none

/-- A parsing expression comes to one thing only. -/
theorem Parses.unique {peg : Peg} {text : Text} {outcome other : Option Match}
    (h : peg.Parses text outcome) (hother : peg.Parses text other) : outcome = other := by
  induction h generalizing other with
  | char c rest =>
    cases hother with
    | char => rfl
    | char_ne hne => exact absurd rfl hne
  | char_ne hne =>
    cases hother with
    | char => exact absurd rfl hne
    | char_ne => rfl
  | char_nil => cases hother; rfl
  | any c rest => cases hother; rfl
  | any_nil => cases hother; rfl
  | seq _ _ ihfirst ihsecond =>
    cases hother with
    | seq hfirst hsecond =>
      cases ihfirst hfirst
      cases ihsecond hsecond
      rfl
    | seq_first hfirst => cases ihfirst hfirst
    | seq_second hfirst hsecond =>
      cases ihfirst hfirst
      cases ihsecond hsecond
  | seq_first _ ihfirst =>
    cases hother with
    | seq hfirst _ => cases ihfirst hfirst
    | seq_first _ => rfl
    | seq_second hfirst _ => rfl
  | seq_second _ _ ihfirst ihsecond =>
    cases hother with
    | seq hfirst hsecond =>
      cases ihfirst hfirst
      cases ihsecond hsecond
    | seq_first _ => rfl
    | seq_second _ _ => rfl
  | choice_first _ ihfirst =>
    cases hother with
    | choice_first hfirst => exact ihfirst hfirst
    | choice_second hfirst _ => cases ihfirst hfirst
  | choice_second _ _ ihfirst ihsecond =>
    cases hother with
    | choice_first hfirst => cases ihfirst hfirst
    | choice_second _ hsecond => exact ihsecond hsecond
  | many_stop _ ihbody =>
    cases hother with
    | many_stop _ => rfl
    | many_step hbody _ => cases ihbody hbody
  | many_step _ _ ihbody ihmany =>
    cases hother with
    | many_stop hbody => cases ihbody hbody
    | many_step hbody hmany =>
      cases ihbody hbody
      cases ihmany hmany
      rfl
  | absent _ ihbody =>
    cases hother with
    | absent _ => rfl
    | absent_fails hbody => cases ihbody hbody
  | absent_fails _ ihbody =>
    cases hother with
    | absent hbody => cases ihbody hbody
    | absent_fails _ => rfl
  | segment _ ihbody =>
    cases hother with
    | segment hbody => cases ihbody hbody; rfl
    | segment_fails hbody => cases ihbody hbody
  | segment_fails _ ihbody =>
    cases hother with
    | segment hbody => cases ihbody hbody
    | segment_fails _ => rfl

/-! ### The grammar -/

/-- A character at which an expression fails. -/
def butNot (body : Peg) : Peg := .seq (.absent body) .any

/-- A command: anything up to a closing bracket, in brackets. -/
def command : Peg :=
  .seq (.char '[') (.seq (.segment .command (.many (butNot (.char ']')))) (.char ']'))

/-- Text: at least one character, none of them at the beginning of a command. -/
def dialogue : Peg := .segment .dialogue (.seq (butNot command) (.many (butNot command)))

/-- Commands and text up to the end. -/
def aggregate : Peg := .seq (.many (.choice command dialogue)) (.absent .any)

theorem parses_butNot {body : Peg} {c : Char} {rest : Text} (h : body.Parses (c :: rest) none) :
    (butNot body).Parses (c :: rest) (some ⟨[], [c], rest⟩) :=
  .seq (.absent h) (.any c rest)

theorem parses_butNot_fails {body : Peg} {text : Text} {m : Match}
    (h : body.Parses text (some m)) : (butNot body).Parses text none :=
  .seq_first (.absent_fails h)

theorem parses_butNot_nil {body : Peg} (h : body.Parses [] none) : (butNot body).Parses [] none :=
  .seq_second (.absent h) .any_nil

/-- Characters at which an expression fails are taken up to the first place at which it succeeds, or
up to the end. -/
theorem parses_many_butNot {body : Peg} {said tail : Text}
    (hsaid : ∀ front back, said = front ++ back → back ≠ [] → body.Parses (back ++ tail) none)
    (htail : (butNot body).Parses tail none) :
    (many (butNot body)).Parses (said ++ tail) (some ⟨[], said, tail⟩) := by
  induction said with
  | nil => exact .many_stop htail
  | cons c rest ih =>
    have hfirst : (butNot body).Parses (c :: (rest ++ tail)) (some ⟨[], [c], rest ++ tail⟩) :=
      parses_butNot (hsaid [] (c :: rest) rfl (List.cons_ne_nil c rest))
    exact .many_step hfirst (ih fun front back hsplit => hsaid (c :: front) back (by rw [hsplit]; rfl))

theorem parses_command {body tail : Text} (h : ']' ∉ body) :
    command.Parses ('[' :: (body ++ ']' :: tail))
      (some ⟨[.command body], Command.bracketed body, tail⟩) := by
  have hbody : (many (butNot (.char ']'))).Parses (body ++ ']' :: tail)
      (some ⟨[], body, ']' :: tail⟩) := by
    refine parses_many_butNot ?_ (parses_butNot_fails (.char ']' tail))
    intro front back hsplit hne
    obtain ⟨c, rest, rfl⟩ := List.exists_cons_of_ne_nil hne
    refine .char_ne ?_
    rintro rfl
    exact h (by rw [hsplit]; simp)
  exact .seq (.char '[' _) (.seq (.segment hbody) (.char ']' tail))

/-- No command begins where no bracket opens or none closes. -/
theorem parses_command_fails {text : Text} (h : ∀ rest, text = '[' :: rest → ']' ∉ rest) :
    command.Parses text none := by
  cases text with
  | nil => exact .seq_first .char_nil
  | cons c rest =>
    by_cases hc : c = '['
    · subst hc
      have hbody : (many (butNot (.char ']'))).Parses (rest ++ []) (some ⟨[], rest, []⟩) := by
        refine parses_many_butNot ?_ (parses_butNot_nil .char_nil)
        intro front back hsplit hne
        obtain ⟨d, more, rfl⟩ := List.exists_cons_of_ne_nil hne
        refine .char_ne ?_
        rintro rfl
        exact h rest rfl (by rw [hsplit]; simp)
      rw [List.append_nil] at hbody
      exact .seq_second (.char '[' rest) (.seq_second (.segment hbody) .char_nil)
    · exact .seq_first (.char_ne hc)

/-- Text is taken up to where the next command begins, or up to the end. -/
theorem parses_dialogue {said tail : Text} (hne : said ≠ [])
    (hsaid : ∀ front back, said = front ++ back → back ≠ [] → command.Parses (back ++ tail) none)
    (htail : (butNot command).Parses tail none) :
    dialogue.Parses (said ++ tail) (some ⟨[.dialogue said], said, tail⟩) := by
  obtain ⟨c, more, rfl⟩ := List.exists_cons_of_ne_nil hne
  have hfirst : (butNot command).Parses (c :: (more ++ tail)) (some ⟨[], [c], more ++ tail⟩) :=
    parses_butNot (hsaid [] (c :: more) rfl hne)
  have hmore : (many (butNot command)).Parses (more ++ tail) (some ⟨[], more, tail⟩) :=
    parses_many_butNot (fun front back hsplit => hsaid (c :: front) back (by rw [hsplit]; rfl)) htail
  exact .segment (.seq hfirst hmore)

end Peg

namespace Segment

/-! ### Cuts into segments -/

/-- Whether a segment is text. -/
def isDialogue : Segment → Bool
  | dialogue _ => true
  | command _ => false

/-- The segments make up the text. No command has a closing bracket within it, no text is empty or
next to another one, and behind a bracket that opens in a text none closes any more. -/
structure Decomposes (text : Text) (parts : List Segment) : Prop where
  raw : Text.concat (parts.map raw) = text
  bodies : ∀ body, command body ∈ parts → ']' ∉ body
  nonempty : ∀ said, dialogue said ∈ parts → said ≠ []
  apart : parts.IsChain fun a b => ¬(a.isDialogue = true ∧ b.isDialogue = true)
  unclosed : ∀ before said after, parts = before ++ dialogue said :: after →
    ∀ front back, said = front ++ '[' :: back →
      ']' ∉ back ++ Text.concat (after.map Segment.raw)

variable {text tail body said : Text} {parts rest : List Segment} {part : Segment}

theorem decomposes_nil : Decomposes [] [] := by
  refine ⟨rfl, by simp, by simp, .nil, ?_⟩
  intro before said after hsplit
  simp at hsplit

theorem Decomposes.command (h : Decomposes tail parts) (hbody : ']' ∉ body) :
    Decomposes ('[' :: (body ++ ']' :: tail)) (.command body :: parts) := by
  constructor
  · simp [Segment.raw, Command.bracketed, h.raw]
  · simp only [List.mem_cons, Segment.command.injEq]
    rintro other (rfl | hother)
    · exact hbody
    · exact h.bodies other hother
  · intro said hsaid
    exact h.nonempty said (by simpa using hsaid)
  · refine List.isChain_cons.2 ⟨?_, h.apart⟩
    simp [isDialogue]
  · intro before said after hsplit
    rcases List.cons_eq_append_iff.1 hsplit with ⟨-, hfirst⟩ | ⟨before, -, hsplit⟩
    · cases hfirst
    · exact h.unclosed before said after hsplit

theorem Decomposes.dialogue (h : Decomposes tail parts) (hne : said ≠ [])
    (happart : ∀ part ∈ parts.head?, part.isDialogue = false)
    (hunclosed : ∀ front back, said = front ++ '[' :: back → ']' ∉ back ++ tail) :
    Decomposes (said ++ tail) (.dialogue said :: parts) := by
  constructor
  · simp [Segment.raw, h.raw]
  · intro body hbody
    exact h.bodies body (by simpa using hbody)
  · simp only [List.mem_cons, Segment.dialogue.injEq]
    rintro other (rfl | hother)
    · exact hne
    · exact h.nonempty other hother
  · refine List.isChain_cons.2 ⟨?_, h.apart⟩
    intro part hpart hboth
    rw [happart part hpart] at hboth
    cases hboth.2
  · intro before other after hsplit
    rcases List.cons_eq_append_iff.1 hsplit with ⟨-, hfirst⟩ | ⟨before, -, hsplit⟩
    · cases hfirst
      rw [h.raw]
      exact hunclosed
    · exact h.unclosed before other after hsplit

/-- What is left of a cut without its first segment is a cut of what is left of the text. -/
theorem Decomposes.of_cons (h : Decomposes text (part :: rest)) :
    Decomposes (Text.concat (rest.map Segment.raw)) rest := by
  refine ⟨rfl, fun body hbody => h.bodies body (List.mem_cons_of_mem _ hbody),
    fun said hsaid => h.nonempty said (List.mem_cons_of_mem _ hsaid), h.apart.tail, ?_⟩
  intro before said after hsplit
  exact h.unclosed (part :: before) said after (by rw [hsplit]; rfl)

theorem Decomposes.isDialogue_head? (h : Decomposes text (.dialogue said :: rest)) :
    ∀ part ∈ rest.head?, part.isDialogue = false := by
  intro part hpart
  have happart := (List.isChain_cons.1 h.apart).1 part hpart
  simpa [isDialogue] using happart

/-! ### The grammar finds every cut -/

/-- Where a cut goes on with a command, or ends, text ends. -/
theorem Decomposes.parses_butNot_command (h : Decomposes text parts)
    (happart : ∀ part ∈ parts.head?, part.isDialogue = false) :
    (Peg.butNot Peg.command).Parses text none := by
  cases parts with
  | nil =>
    rw [← h.raw]
    exact Peg.parses_butNot_nil (.seq_first .char_nil)
  | cons part rest =>
    cases part with
    | dialogue said => cases happart (.dialogue said) rfl
    | command body =>
      have htext : text = '[' :: (body ++ ']' :: Text.concat (rest.map Segment.raw)) := by
        rw [← h.raw]
        simp [Segment.raw, Command.bracketed]
      rw [htext]
      exact Peg.parses_butNot_fails (Peg.parses_command (h.bodies body (List.mem_cons_self ..)))

/-- Every cut of a text is what the grammar finds in it. -/
theorem Decomposes.parses (h : Decomposes text parts) :
    Peg.aggregate.Parses text (some ⟨parts, text, []⟩) := by
  have hmany : (Peg.many (.choice Peg.command Peg.dialogue)).Parses text
      (some ⟨parts, text, []⟩) := by
    induction parts generalizing text with
    | nil =>
      rw [← h.raw]
      have hcommand : Peg.command.Parses [] none := .seq_first .char_nil
      exact .many_stop (.choice_second hcommand
        (.segment_fails (.seq_first (Peg.parses_butNot_nil hcommand))))
    | cons part rest ih =>
      have hrest := ih h.of_cons
      have hraw := h.raw
      rw [List.map_cons, Text.concat_cons] at hraw
      subst hraw
      cases part with
      | command body =>
        have hcommand : Peg.command.Parses
            (Command.bracketed body ++ Text.concat (rest.map Segment.raw))
            (some ⟨[.command body], Command.bracketed body, Text.concat (rest.map Segment.raw)⟩) := by
          have hbody := h.bodies body (List.mem_cons_self ..)
          simpa [Command.bracketed] using
            @Peg.parses_command body (Text.concat (rest.map Segment.raw)) hbody
        exact .many_step (.choice_first hcommand) hrest
      | dialogue said =>
        have hne := h.nonempty said (List.mem_cons_self ..)
        have hfails : ∀ front back, said = front ++ back → back ≠ [] →
            Peg.command.Parses (back ++ Text.concat (rest.map Segment.raw)) none := by
          intro front back hsplit hback
          refine Peg.parses_command_fails ?_
          intro after hafter
          obtain ⟨d, back, rfl⟩ := List.exists_cons_of_ne_nil hback
          obtain ⟨rfl, rfl⟩ := List.cons.inj hafter
          exact h.unclosed [] said rest rfl front back hsplit
        have hend := h.of_cons.parses_butNot_command h.isDialogue_head?
        exact .many_step (.choice_second (hfails [] said rfl hne)
          (Peg.parses_dialogue hne hfails hend)) hrest
  have hend : (Peg.absent .any).Parses [] (some ⟨[], [], []⟩) := .absent .any_nil
  simpa [Peg.aggregate, Peg.Match.append] using Peg.Parses.seq hmany hend

/-! ### The segments are a cut -/

theorem commandFrom_append (front : Text) (h : ']' ∉ body) (tail : Text) :
    commandFrom front (body ++ ']' :: tail) = .command (front ++ body) :: segments tail := by
  induction body generalizing front with
  | nil => simp [commandFrom]
  | cons c rest ih =>
    have hc : c ≠ ']' := by
      rintro rfl
      exact h (List.mem_cons_self ..)
    rw [List.cons_append, commandFrom, if_neg hc, ih (front ++ [c]) fun hmem =>
      h (List.mem_cons_of_mem _ hmem)]
    simp

/-- Behind brackets of a text none closes, if that is so with its first character and in the rest of
it. -/
theorem unclosed_cons {c : Char} (hc : ¬(c = '[' ∧ ']' ∈ said ++ tail))
    (hsaid : ∀ front back, said = front ++ '[' :: back → ']' ∉ back ++ tail) :
    ∀ front back, c :: said = front ++ '[' :: back → ']' ∉ back ++ tail := by
  intro front back hsplit
  rcases List.cons_eq_append_iff.1 hsplit with ⟨-, hfirst⟩ | ⟨front, -, hsplit⟩
  · obtain ⟨rfl, rfl⟩ := List.cons.inj hfirst
    exact fun hmem => hc ⟨rfl, hmem⟩
  · exact hsaid front back hsplit

/-- A character at which no command begins goes to the text that comes first, or is one. -/
theorem Decomposes.consText {c : Char} (h : Decomposes text parts)
    (hc : ¬(c = '[' ∧ ']' ∈ text)) : Decomposes (c :: text) (consText c parts) := by
  have halone : (∀ part ∈ parts.head?, part.isDialogue = false) →
      Decomposes (c :: text) (.dialogue [c] :: parts) := by
    intro happart
    refine Decomposes.dialogue h (List.cons_ne_nil c []) happart (unclosed_cons hc ?_)
    intro front back hsplit
    simp at hsplit
  cases parts with
  | nil => exact halone (by simp)
  | cons part rest =>
    cases part with
    | command body => exact halone (by simp [isDialogue])
    | dialogue said =>
      have hraw := h.raw
      rw [List.map_cons, Text.concat_cons] at hraw
      subst hraw
      exact Decomposes.dialogue h.of_cons (List.cons_ne_nil c said) h.isDialogue_head?
        (unclosed_cons hc (h.unclosed [] said rest rfl))

theorem decomposes_segments (text : Text) : Decomposes text (segments text) := by
  cases text with
  | nil => exact decomposes_nil
  | cons c rest =>
    by_cases hc : c = '[' ∧ ']' ∈ rest
    · obtain ⟨body, tail, hrest, hbody⟩ := List.eq_append_cons_of_mem hc.2
      have hshorter : tail.length < (c :: rest).length := by
        rw [hrest]
        simp only [List.length_cons, List.length_append]
        omega
      rw [segments, if_pos hc, hc.1, hrest, commandFrom_append [] hbody]
      exact (decomposes_segments tail).command hbody
    · rw [segments, if_neg hc]
      exact (decomposes_segments rest).consText hc
termination_by text.length

/-- In every text the grammar finds exactly the segments and takes all of it; and the segments are the
only cut of the text. -/
theorem segments_unique (text : Text) :
    (∀ outcome, Peg.aggregate.Parses text outcome ↔ outcome = some ⟨segments text, text, []⟩) ∧
      ∀ parts, Decomposes text parts ↔ parts = segments text := by
  have hparses := (decomposes_segments text).parses
  refine ⟨?_, ?_⟩
  · intro outcome
    constructor
    · intro h
      exact h.unique hparses
    · rintro rfl
      exact hparses
  · intro parts
    constructor
    · intro h
      have hsame := h.parses.unique hparses
      simpa using hsame
    · rintro rfl
      exact decomposes_segments text

end Segment

end Colloquy
