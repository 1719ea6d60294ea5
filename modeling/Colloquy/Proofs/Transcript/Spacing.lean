import Mathlib.Data.List.Forall2
import Colloquy.Proofs.Attachment.Locator
import Colloquy.Proofs.Transcript.Preamble
import Colloquy.Proofs.Transcript.Warnings

/-!
# Spacing

How the lines of a script are spaced does not matter: what is said depends on the trimmed texts of the
lines that are not blank, `Line.texts`. Two scripts with the same texts come to the same, except that
warnings and errors name the line of the one or of the other (`spacing_immaterial`). So blanks around
lines, carriage returns before the line breaks and blank lines between the others change nothing.
-/

namespace Colloquy

/-! ### Blanks around a line -/

namespace Text

/-- The text with some blanks before and behind it. -/
def Spaced (text other : Text) : Prop :=
  ∃ front back, (∀ c ∈ front ++ back, isBlank c = true) ∧ other = front ++ text ++ back

theorem trim_of_spaced {text other : Text} (h : Spaced text other) : trim other = trim text := by
  obtain ⟨front, back, hblank, rfl⟩ := h
  have hfront : ∀ c ∈ front, isBlank c = true := fun c hc => hblank c (List.mem_append_left _ hc)
  have hback : ∀ c ∈ back, isBlank c = true := fun c hc => hblank c (List.mem_append_right _ hc)
  rw [trim_append_of_blank hback, trim, trimStart, List.dropWhile_append_of_pos hfront]
  rfl

theorem map_trim_of_spaced {raws others : List Text} (h : List.Forall₂ Spaced raws others) :
    others.map trim = raws.map trim := by
  induction h with
  | nil => rfl
  | cons hfirst _ ih => rw [List.map_cons, List.map_cons, trim_of_spaced hfirst, ih]

/-- The source with a carriage return before every line break. -/
def withReturns (source : Text) : Text :=
  source.flatMap fun c => if c = '\n' then ['\r', '\n'] else [c]

/-- A carriage return before a line break is a blank at the end of the raw line. -/
theorem spaced_withReturns (source : Text) :
    List.Forall₂ Spaced (pieces '\n' source) (pieces '\n' (withReturns source)) := by
  have htails : List.Forall₂ (fun raw other => ∃ tail, (∀ c ∈ tail, isBlank c = true) ∧
      other = raw ++ tail) (pieces '\n' source) (pieces '\n' (withReturns source)) := by
    induction source with
    | nil => exact .cons ⟨[], by simp, rfl⟩ .nil
    | cons c rest ih =>
      by_cases hc : c = '\n'
      · have hreturn : pieces '\n' (withReturns (c :: rest)) =
            ['\r'] :: pieces '\n' (withReturns rest) := by
          rw [withReturns, List.flatMap_cons, if_pos hc]
          exact pieces_append '\n' ['\r'] _
        rw [hreturn, pieces, if_pos hc]
        exact .cons ⟨['\r'], List.forall_mem_singleton.2 (by decide), rfl⟩ ih
      · have hsame : withReturns (c :: rest) = c :: withReturns rest := by
          rw [withReturns, List.flatMap_cons, if_neg hc]
          rfl
        rw [hsame, pieces, pieces, if_neg hc, if_neg hc]
        cases hraws : pieces '\n' rest with
        | nil => exact absurd hraws (pieces_ne_nil '\n' rest)
        | cons raw raws =>
          rw [hraws] at ih
          cases hothers : pieces '\n' (withReturns rest) with
          | nil => exact absurd hothers (pieces_ne_nil '\n' _)
          | cons other others =>
            rw [hothers] at ih
            obtain ⟨⟨tail, hblank, rfl⟩, hmore⟩ := List.forall₂_cons.1 ih
            exact .cons ⟨tail, hblank, rfl⟩ hmore
  refine htails.imp ?_
  rintro raw other ⟨tail, hblank, rfl⟩
  exact ⟨[], tail, hblank, rfl⟩

end Text

/-! ### The texts of the lines -/

namespace Line

variable {number : Nat} {raws others : List Text} {source other : Text}

/-- The raw lines of a source, trimmed and without those that are blank. -/
def texts (source : Text) : List Text := ((Text.pieces '\n' source).map Text.trim).filter (· ≠ [])

theorem map_text_numbered (number : Nat) (raws : List Text) :
    (numbered number raws).map text = (raws.map Text.trim).filter (· ≠ []) := by
  induction raws generalizing number with
  | nil => rfl
  | cons raw rest ih =>
    rw [numbered, List.map_cons]
    by_cases hblank : Text.trim raw = []
    · rw [if_pos hblank, ih, hblank]
      rfl
    · rw [if_neg hblank, List.map_cons, ih, List.filter_cons_of_pos (by simpa using hblank)]

theorem map_text_ofSource (source : Text) : (ofSource source).map text = texts source :=
  map_text_numbered 1 _

theorem numbered_map_trim (number : Nat) (raws : List Text) :
    numbered number (raws.map Text.trim) = numbered number raws := by
  induction raws generalizing number with
  | nil => rfl
  | cons raw rest ih => simp only [List.map_cons, numbered, Text.trim_trim, ih]

/-- Blanks around raw lines do not even change the numbers of the lines. -/
theorem ofSource_of_spaced
    (h : List.Forall₂ Text.Spaced (Text.pieces '\n' source) (Text.pieces '\n' other)) :
    ofSource other = ofSource source := by
  rw [ofSource, ← numbered_map_trim, Text.map_trim_of_spaced h, numbered_map_trim, ofSource]

theorem texts_of_blanks {front blanks back : List Text}
    (hsource : Text.pieces '\n' source = front ++ back)
    (hother : Text.pieces '\n' other = front ++ blanks ++ back)
    (hblank : ∀ raw ∈ blanks, ∀ c ∈ raw, Text.isBlank c = true) : texts source = texts other := by
  have hnone : (blanks.map Text.trim).filter (· ≠ []) = [] := by
    rw [List.filter_eq_nil_iff]
    intro text htext
    obtain ⟨raw, hraw, rfl⟩ := List.mem_map.1 htext
    have hnil : Text.trim raw = [] := Text.trim_eq_nil_iff.2 (hblank raw hraw)
    simp [hnil]
  rw [texts, texts, hsource, hother, List.map_append, List.map_append, List.map_append,
    List.filter_append, List.filter_append, List.filter_append, hnone, List.append_nil]

/-! ### Corresponding lines -/

/-- The number of the line of the other source that stands where the line with the number does in the
first one; zero for a number without a line. -/
def counterpart (source other : Text) (number : Nat) : Nat :=
  (((ofSource source).zip (ofSource other)).find? fun pair => pair.1.number == number).elim 0
    fun pair => pair.2.number

/-- Lines in two lists are paired by the numbers in the first one, which are different. -/
theorem map_renumber_zip {lines others : List Line} (htexts : lines.map text = others.map text)
    (hnumbers : (lines.map Line.number).Nodup) :
    lines.map (renumber fun number =>
      ((lines.zip others).find? fun pair => pair.1.number == number).elim 0 fun pair =>
        pair.2.number) = others := by
  induction lines generalizing others with
  | nil => exact (List.map_eq_nil_iff.1 htexts.symm).symm
  | cons line rest ih =>
    cases others with
    | nil => cases htexts
    | cons other more =>
      obtain ⟨htext, hmore⟩ := List.cons.inj htexts
      obtain ⟨hfresh, hrest⟩ := List.nodup_cons.1 hnumbers
      have hlater : ∀ later ∈ rest, (line.number == later.number) = false := by
        intro later hlater
        rw [beq_eq_false_iff_ne]
        intro hsame
        exact hfresh (hsame ▸ List.mem_map_of_mem hlater)
      rw [List.map_cons]
      congr 1
      · simp only [renumber, List.zip_cons_cons, List.find?_cons, beq_self_eq_true, Option.elim_some,
          htext]
      · refine Eq.trans ?_ (ih hmore hrest)
        refine List.map_congr_left fun later hmem => ?_
        simp only [renumber, List.zip_cons_cons, List.find?_cons, hlater later hmem]

theorem renumber_counterpart (h : texts source = texts other) :
    (ofSource source).map (renumber (counterpart source other)) = ofSource other := by
  refine map_renumber_zip ?_ ?_
  · rw [map_text_ofSource, map_text_ofSource, h]
  · exact (pairwise_numbered 1 _).imp Nat.ne_of_lt

/-- There is no line zero. -/
theorem counterpart_zero (source other : Text) : counterpart source other 0 = 0 := by
  have hnone : ((ofSource source).zip (ofSource other)).find?
      (fun pair => pair.1.number == 0) = none := by
    rw [List.find?_eq_none]
    intro pair hpair
    obtain ⟨place, -, -, hnumber, -⟩ := exists_of_mem_numbered (List.of_mem_zip hpair).1
    simp only [beq_iff_eq]
    omega
  rw [counterpart, hnone]
  rfl

end Line

/-! ### Scripts -/

theorem ofScript_of_ofSource {world : World} {options : Options} {source other : Text}
    (h : Line.ofSource other = Line.ofSource source) :
    Transcript.ofScript world options other = Transcript.ofScript world options source := by
  rw [Transcript.ofScript, h, Transcript.ofScript]

theorem ofScript_of_texts (world : World) (options : Options) {source other : Text}
    (h : Line.texts source = Line.texts other) :
    Transcript.ofScript world options other =
      ((Transcript.ofScript world options source).map
        (Transcript.renumber (Line.counterpart source other))).mapError
          (ScriptError.renumber (Line.counterpart source other)) := by
  have hboth := relabel_ofScript (.numbers (Line.counterpart source other))
    (Line.counterpart_zero source other) world options (Line.renumber_counterpart h)
  rwa [funext (Relabelling.transcript_numbers _)] at hboth

/-- Scripts with the same texts in their lines have the same activities and, with the numbers of the
corresponding lines, the same warnings, or they fail for the same reason in corresponding lines. So
nothing changes with blanks around raw lines or carriage returns before the line breaks, and with blank
lines put between the others only the numbers do. The numbers of the lines of a script increase, and
each line is the raw line of its number, trimmed. -/
theorem spacing_immaterial (world : World) (options : Options) :
    (∀ source other, Line.texts source = Line.texts other →
        Transcript.ofScript world options other =
            ((Transcript.ofScript world options source).map
              (Transcript.renumber (Line.counterpart source other))).mapError
                (ScriptError.renumber (Line.counterpart source other)) ∧
          Line.counterpart source other 0 = 0 ∧
          ∀ (place : Nat) (line : Line), (Line.ofSource source)[place]? = some line →
            (Line.ofSource other)[place]? = some (line.renumber (Line.counterpart source other))) ∧
      (∀ source other,
        List.Forall₂ Text.Spaced (Text.pieces '\n' source) (Text.pieces '\n' other) →
        Transcript.ofScript world options other = Transcript.ofScript world options source) ∧
      (∀ source, Transcript.ofScript world options (Text.withReturns source) =
        Transcript.ofScript world options source) ∧
      (∀ source other front blanks back, Text.pieces '\n' source = front ++ back →
        Text.pieces '\n' other = front ++ blanks ++ back →
        (∀ raw ∈ blanks, ∀ c ∈ raw, Text.isBlank c = true) →
        Transcript.ofScript world options other =
          ((Transcript.ofScript world options source).map
            (Transcript.renumber (Line.counterpart source other))).mapError
              (ScriptError.renumber (Line.counterpart source other))) ∧
      ∀ source, ((Line.ofSource source).map Line.number).Pairwise (· < ·) ∧
        (Line.ofSource source).map Line.text = Line.texts source ∧
        ∀ line ∈ Line.ofSource source, ∃ raw, 0 < line.number ∧
          (Text.pieces '\n' source)[line.number - 1]? = some raw ∧ line.text = Text.trim raw := by
  refine ⟨?_, ?_, ?_, ?_, ?_⟩
  · intro source other h
    refine ⟨ofScript_of_texts world options h, Line.counterpart_zero source other, ?_⟩
    intro place line hline
    rw [← Line.renumber_counterpart h, List.getElem?_map, hline]
    rfl
  · exact fun source other h => ofScript_of_ofSource (Line.ofSource_of_spaced h)
  · exact fun source =>
      ofScript_of_ofSource (Line.ofSource_of_spaced (Text.spaced_withReturns source))
  · intro source other front blanks back hsource hother hblank
    exact ofScript_of_texts world options (Line.texts_of_blanks hsource hother hblank)
  · intro source
    refine ⟨Line.pairwise_numbered 1 _, Line.map_text_ofSource source, ?_⟩
    intro line hline
    obtain ⟨place, raw, hraw, hnumber, htext⟩ := Line.exists_of_mem_numbered hline
    have hplace : line.number - 1 = place := by omega
    refine ⟨raw, by omega, ?_, htext⟩
    rw [hplace]
    exact hraw

/-- The greeting with blank lines, indentation and carriage returns. -/
def respacedGreeting : Text := Text.join "\r\n"
  ["", "  Zoe: hi [typing] there", "you [delay=5] all\t", "\t", "",
    "[attachment=http://x.test/a.png]  ", "    [attachmentLayout=Carousel] [hm]", "",
    "SAM: [delay=soon] ok [event] now [delay=-3]", ""]

/-- Both greetings have the same activities, and the warning of the second line is one of the third;
so does the greeting with two blank lines before it, and carriage returns do not even move a line. -/
theorem spacing_immaterial_greeting :
    Line.texts greeting = Line.texts respacedGreeting ∧
      Transcript.ofScript .bare .named respacedGreeting =
        ((Transcript.ofScript .bare .named greeting).map
          (Transcript.renumber (Line.counterpart greeting respacedGreeting))).mapError
            (ScriptError.renumber (Line.counterpart greeting respacedGreeting)) ∧
      [1, 2, 3, 4, 5].map (Line.counterpart greeting respacedGreeting) = [2, 3, 6, 7, 9] ∧
      Transcript.ofScript .bare .named (Text.withReturns greeting) =
        Transcript.ofScript .bare .named greeting ∧
      Transcript.ofScript .bare .named (" \n\n".toList ++ greeting) =
        ((Transcript.ofScript .bare .named greeting).map
          (Transcript.renumber (Line.counterpart greeting (" \n\n".toList ++ greeting)))).mapError
            (ScriptError.renumber (Line.counterpart greeting (" \n\n".toList ++ greeting))) := by
  obtain ⟨hsame, hspaced, -, hblanks, -⟩ := spacing_immaterial .bare .named
  have htexts : Line.texts greeting = Line.texts respacedGreeting := by decide +kernel
  exact ⟨htexts, (hsame greeting respacedGreeting htexts).1, by decide +kernel,
    hspaced greeting (Text.withReturns greeting) (Text.spaced_withReturns greeting),
    hblanks greeting (" \n\n".toList ++ greeting) [] [[' '], []] (Text.pieces '\n' greeting) rfl
      (by decide +kernel) (by simp [Text.isBlank])⟩

end Colloquy
