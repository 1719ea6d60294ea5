import Mathlib.Data.List.Forall2
import Colloquy.Proofs.Script.Class
import Colloquy.Proofs.Script.Separator

/-!
# Letter case in a script

In three places of a script the case of the letters `A`–`Z` and `a`–`z` does not matter: in the name
that opens a turn, in the names of commands, and in the argument of the command for the layout. A script
is recased if it differs from another one in such letters only, where the places are those of the other
one (`Configuration.Recased`).

Recasing keeps the class of every line: what was a directive, a turn or dialogue is one again, of the
same speaker but for letter case, and with segments that are the same but for letter case
(`LineEvent.recased_ofText`).
-/

namespace Colloquy

/-! ### Letters of either case -/

namespace Text

variable {a b c d text : Text}

theorem isBlank_lowerAsciiChar (c : Char) : isBlank (lowerAsciiChar c) = isBlank c :=
  apply_lowerAsciiChar (by decide) c

/-- No blank is a letter. -/
theorem trim_lowerAscii (text : Text) : trim (lowerAscii text) = lowerAscii (trim text) := by
  have hblank : isBlank ∘ lowerAsciiChar = isBlank := funext isBlank_lowerAsciiChar
  simp only [trim, trimStart, trimEnd, lowerAscii, List.dropWhile_map, ← List.map_reverse, hblank]

theorem lowerAscii_trim_eq (h : sameLetters a b = true) :
    lowerAscii (trim b) = lowerAscii (trim a) := by
  rw [← trim_lowerAscii, ← trim_lowerAscii, sameLetters_iff.1 h]

theorem sameLetters_of_lowerAscii (h : lowerAscii a = lowerAscii b) (word : Text) :
    sameLetters a word = sameLetters b word := by
  rw [sameLetters, h, sameLetters]

theorem sameLetters_append (hfront : sameLetters a b = true) (hback : sameLetters c d = true) :
    sameLetters (a ++ c) (b ++ d) = true := by
  rw [sameLetters_iff] at *
  rw [lowerAscii_append, lowerAscii_append, hfront, hback]

theorem sameLetters_cut (mark : Char) (hfront : sameLetters a b = true) (hback : sameLetters c d = true) :
    sameLetters (a ++ mark :: c) (b ++ mark :: d) = true :=
  sameLetters_append hfront (sameLetters_append (sameLetters_refl [mark]) hback)

/-- What is no letter does not come up in letters of either case. -/
theorem notMem_of_sameLetters {mark : Char}
    (hmark : mark.toNat < 65 ∨ (90 < mark.toNat ∧ mark.toNat < 97) ∨ 122 < mark.toNat)
    (h : sameLetters a b = true) (hnot : mark ∉ a) : mark ∉ b := by
  rwa [← mem_lowerAscii_iff hmark, ← sameLetters_iff.1 h, mem_lowerAscii_iff hmark]

end Text

theorem Tag.ofName_of_sameLetters {name spelling : Text}
    (h : Text.sameLetters name spelling = true) : ofName spelling = ofName name := by
  have htrim := Text.lowerAscii_trim_eq h
  have hkind : ActivityKind.ofName? (Text.trim spelling) = ActivityKind.ofName? (Text.trim name) := by
    simp only [ActivityKind.ofName?, Text.sameLetters, htrim]
  simp only [ofName, hkind, Text.sameLetters_of_lowerAscii htrim]

theorem Layout.ofName?_of_lowerAscii {argument value : Text}
    (h : Text.lowerAscii value = Text.lowerAscii argument) : ofName? value = ofName? argument := by
  have htrim := Text.lowerAscii_trim_eq (Text.sameLetters_iff.2 h.symm)
  simp only [ofName?, Text.sameLetters_of_lowerAscii htrim]

/-- The side that a speaker stands for is that of the speaker in letters of either case. -/
theorem Participants.speakerRole?_of_sameLetters (people : Participants) {speaker name : Text}
    (h : Text.sameLetters speaker name = true) :
    people.speakerRole? name = people.speakerRole? speaker := by
  simp only [speakerRole?, byName?, keywordRole?, Text.lowercase_eq_of_sameLetters h,
    Text.sameLetters_of_lowerAscii (Text.sameLetters_iff.1 h)]

/-! ### Commands -/

namespace Command

variable {body other name spelling argument value : Text}

/-- The argument of the command with a name, or, if it is a layout, the same in letters of either
case. -/
def Value (name argument value : Text) : Prop :=
  value = argument ∨ Tag.ofName name = .layout ∧ Text.sameLetters argument value = true

/-- The body with its name in letters of either case, and its argument too if it is a layout. -/
inductive Recased : Text → Text → Prop
  | bare {name spelling : Text} : '=' ∉ name → ':' ∉ name → Text.sameLetters name spelling = true →
      Recased name spelling
  | equals {name spelling argument value : Text} : '=' ∉ name →
      Text.sameLetters name spelling = true → Value name argument value →
      Recased (name ++ '=' :: argument) (spelling ++ '=' :: value)
  | colon {name spelling argument value : Text} : '=' ∉ name → ':' ∉ name → '=' ∉ argument →
      Text.sameLetters name spelling = true → Value name argument value →
      Recased (name ++ ':' :: argument) (spelling ++ ':' :: value)

theorem Value.sameLetters (h : Value name argument value) : Text.sameLetters argument value = true := by
  rcases h with rfl | ⟨-, hletters⟩
  · exact Text.sameLetters_refl _
  · exact hletters

theorem Recased.sameLetters (h : Recased body other) : Text.sameLetters body other = true := by
  cases h with
  | bare _ _ hname => exact hname
  | equals _ hname hvalue => exact Text.sameLetters_cut '=' hname hvalue.sameLetters
  | colon _ _ _ hname hvalue => exact Text.sameLetters_cut ':' hname hvalue.sameLetters

theorem ofBody_bare (hequals : '=' ∉ name) (hcolon : ':' ∉ name) :
    ofBody name = ⟨Text.trim name, none⟩ := by
  rw [ofBody, Text.cutFirst?_of_notMem hequals, Text.cutFirst?_of_notMem hcolon]
  rfl

/-- The command of the one body and that of the other: of the same tag, and with the same argument but
for the letters of a layout. -/
structure Akin (command other : Command) : Prop where
  tag : other.tag = command.tag
  argument : command.tag ≠ .layout → other.argument = command.argument
  letters : other.argument.map Text.lowerAscii = command.argument.map Text.lowerAscii

theorem akin_of_argument {command other : Command} (htag : other.tag = command.tag)
    (hargument : other.argument = command.argument) : Akin command other :=
  ⟨htag, fun _ => hargument, congrArg _ hargument⟩

theorem akin_equals (hequals : '=' ∉ name) (hname : Text.sameLetters name spelling = true)
    (hvalue : Value name argument value) :
    Akin (ofBody (name ++ '=' :: argument)) (ofBody (spelling ++ '=' :: value)) := by
  have hspelling : '=' ∉ spelling := Text.notMem_of_sameLetters (by decide) hname hequals
  have htag : (ofBody (spelling ++ '=' :: value)).tag = (ofBody (name ++ '=' :: argument)).tag := by
    rw [tag_equals hequals, tag_equals hspelling, Tag.ofName_of_sameLetters hname]
  rcases hvalue with rfl | ⟨hlayout, hletters⟩
  · refine akin_of_argument htag ?_
    rw [ofBody_equals hequals, ofBody_equals hspelling]
  · refine ⟨htag, fun hother => absurd ((tag_equals hequals argument).trans hlayout) hother, ?_⟩
    rw [ofBody_equals hequals, ofBody_equals hspelling]
    exact congrArg some (Text.lowerAscii_trim_eq hletters)

theorem Recased.akin (h : Recased body other) : Akin (ofBody body) (ofBody other) := by
  cases h with
  | bare hequals hcolon hname =>
    have hequals' : '=' ∉ other := Text.notMem_of_sameLetters (by decide) hname hequals
    have hcolon' : ':' ∉ other := Text.notMem_of_sameLetters (by decide) hname hcolon
    rw [ofBody_bare hequals hcolon, ofBody_bare hequals' hcolon']
    refine akin_of_argument ?_ rfl
    refine Tag.ofName_of_sameLetters ?_
    rw [Text.sameLetters_iff, Text.lowerAscii_trim_eq hname]
  | equals hequals hname hvalue => exact akin_equals hequals hname hvalue
  | @colon name spelling argument value hequals hcolon hargument hname hvalue =>
    have hequals' : '=' ∉ spelling := Text.notMem_of_sameLetters (by decide) hname hequals
    have hcolon' : ':' ∉ spelling := Text.notMem_of_sameLetters (by decide) hname hcolon
    have hargument' : '=' ∉ value := Text.notMem_of_sameLetters (by decide) hvalue.sameLetters hargument
    rw [ofBody_colon hequals hcolon hargument, ofBody_colon hequals' hcolon' hargument']
    exact akin_equals hequals hname hvalue

end Command

/-! ### Segments -/

namespace Segment

variable {segment other : Segment} {text spelling : Text} {parts others : List Segment}

/-- The segment with its command recased, if it is one. -/
inductive Recased : Segment → Segment → Prop
  | dialogue (text : Text) : Recased (dialogue text) (dialogue text)
  | command {body other : Text} : Command.Recased body other → Recased (command body) (command other)

/-- The text with all of its commands recased. -/
def TextRecased (text spelling : Text) : Prop :=
  ∃ parts, List.Forall₂ Recased (segments text) parts ∧ spelling = Text.concat (parts.map raw)

theorem Recased.sameLetters (h : Recased segment other) :
    Text.sameLetters segment.raw other.raw = true := by
  cases h with
  | dialogue text => exact Text.sameLetters_refl _
  | command hbody =>
    refine Text.sameLetters_append (Text.sameLetters_append (Text.sameLetters_refl ['[']) ?_)
      (Text.sameLetters_refl [']'])
    exact hbody.sameLetters

theorem sameLetters_of_recased (h : List.Forall₂ Recased parts others) :
    Text.sameLetters (Text.concat (parts.map raw)) (Text.concat (others.map raw)) = true := by
  induction h with
  | nil => rfl
  | cons hfirst _ ih => exact Text.sameLetters_append hfirst.sameLetters ih

/-- A cut of a text is recased to a cut of another one, since no bracket is a letter. -/
theorem Decomposes.recased (h : Decomposes text parts) (hparts : List.Forall₂ Recased parts others) :
    Decomposes (Text.concat (others.map Segment.raw)) others := by
  induction hparts generalizing text with
  | nil => exact decomposes_nil
  | @cons part other rest more hpart hrest ih =>
    have hmore := ih h.of_cons
    cases hpart with
    | dialogue said =>
      refine hmore.dialogue (h.nonempty said (List.mem_cons_self ..)) ?_ ?_
      · have happart := h.isDialogue_head?
        cases hrest with
        | nil => simp
        | cons hnext _ =>
          intro part hpart
          rw [← Option.some.inj hpart]
          cases hnext with
          | dialogue text => exact happart (.dialogue text) rfl
          | command _ => rfl
      · intro front back hsplit
        refine Text.notMem_of_sameLetters (by decide) ?_ (h.unclosed [] said rest rfl front back hsplit)
        exact Text.sameLetters_append (Text.sameLetters_refl back) (sameLetters_of_recased hrest)
    | @command body spelling hbody =>
      have hclosed : ']' ∉ spelling := Text.notMem_of_sameLetters (by decide) hbody.sameLetters
        (h.bodies body (List.mem_cons_self ..))
      have hcommand := hmore.command hclosed
      simpa [Segment.raw, Command.bracketed] using hcommand

/-- The segments of a text that is recased are the recased segments. -/
theorem TextRecased.segments (h : TextRecased text spelling) :
    List.Forall₂ Recased (segments text) (segments spelling) := by
  obtain ⟨parts, hparts, rfl⟩ := h
  have hcut := ((decomposes_segments text).recased hparts).parses
  have hsame := hcut.unique (decomposes_segments _).parses
  rwa [← (Peg.Match.mk.inj (Option.some.inj hsame)).1]

theorem TextRecased.sameLetters (h : TextRecased text spelling) :
    Text.sameLetters text spelling = true := by
  obtain ⟨parts, hparts, rfl⟩ := h
  have hletters := sameLetters_of_recased hparts
  rwa [raw_segments] at hletters

/-- Before the first bracket nothing is recased. -/
theorem starts_with_of_recased {lead : Text} (h : List.Forall₂ Recased parts others) (hlead : '[' ∉ lead)
    (hstarts : lead <+: Text.concat (others.map raw)) : lead <+: Text.concat (parts.map raw) := by
  induction h generalizing lead with
  | nil => exact hstarts
  | @cons part other rest more hpart _ ih =>
    cases hpart with
    | dialogue said =>
      rw [List.map_cons, Text.concat_cons] at hstarts ⊢
      rcases List.prefix_or_prefix_of_prefix hstarts (List.prefix_append _ _) with hsaid | ⟨tail, rfl⟩
      · exact hsaid.trans (List.prefix_append _ _)
      · rw [List.mem_append, not_or] at hlead
        have htail := (List.prefix_append_right_inj _).1 hstarts
        exact (List.prefix_append_right_inj _).2 (ih hlead.2 htail)
    | command _ =>
      cases lead with
      | nil => exact List.nil_prefix
      | cons c tail =>
        have hc : c = '[' := (List.cons_prefix_cons.1 hstarts).1
        exact absurd (hc ▸ List.mem_cons_self ..) hlead

theorem TextRecased.starts_with {lead : Text} (h : TextRecased text spelling) (hlead : '[' ∉ lead)
    (hstarts : lead <+: spelling) : lead <+: text := by
  obtain ⟨parts, hparts, rfl⟩ := h
  rw [← raw_segments text]
  exact starts_with_of_recased hparts hlead hstarts

/-! ### What recased segments mean -/

theorem Recased.tag? (h : Recased segment other) : other.tag? = segment.tag? := by
  cases h with
  | dialogue text => rfl
  | command hbody => exact congrArg some hbody.akin.tag

theorem Recased.argument? (h : Recased segment other) (hlayout : segment.tag? ≠ some .layout) :
    other.argument? = segment.argument? := by
  cases h with
  | dialogue text => rfl
  | @command body spelling hbody =>
    have hargument : (Command.ofBody spelling).argument = (Command.ofBody body).argument :=
      hbody.akin.argument fun htag => hlayout (congrArg some htag)
    rw [Segment.argument?, Segment.argument?, hargument]

/-- An argument is empty in letters of either case. -/
theorem map_argument? (body : Text) : (command body).argument?.map Text.lowerAscii =
    ((Command.ofBody body).argument.map Text.lowerAscii).filter (· ≠ []) := by
  rw [argument?]
  cases (Command.ofBody body).argument with
  | none => rfl
  | some argument => cases argument <;> simp [Option.filter]

theorem Recased.map_argument? (h : Recased segment other) :
    other.argument?.map Text.lowerAscii = segment.argument?.map Text.lowerAscii := by
  cases h with
  | dialogue text => rfl
  | command hbody => rw [Segment.map_argument?, Segment.map_argument?, hbody.akin.letters]

theorem Recased.kind? (h : Recased segment other) : other.kind? = segment.kind? := by
  rw [Segment.kind?, Segment.kind?, h.tag?]

theorem Recased.fragment? (h : Recased segment other) : other.fragment? = segment.fragment? := by
  cases h <;> rfl

theorem Recased.request? (h : Recased segment other) : other.request? = segment.request? := by
  rw [Segment.request?, Segment.request?, h.tag?]
  split
  · rename_i htag
    exact h.argument? (by simp [htag])
  · rfl

theorem Recased.delay? (h : Recased segment other) : other.delay? = segment.delay? := by
  rw [Segment.delay?, Segment.delay?, h.tag?]
  split
  · rename_i htag
    rw [h.argument? (by simp [htag])]
  · rfl

theorem Recased.gap? (h : Recased segment other) (usual : Int) :
    other.gap? usual = segment.gap? usual := by
  rw [Segment.gap?, Segment.gap?, h.tag?, h.delay?]

theorem Recased.layout? (h : Recased segment other) : other.layout? = segment.layout? := by
  have hargument := h.map_argument?
  rw [Segment.layout?, Segment.layout?, h.tag?]
  split
  · cases hvalue : other.argument? with
    | none =>
      rw [hvalue] at hargument
      rw [Option.map_eq_none_iff.1 hargument.symm]
    | some value =>
      rw [hvalue] at hargument
      obtain ⟨old, hold, hletters⟩ := Option.map_eq_some_iff.1 hargument.symm
      rw [hold]
      exact Layout.ofName?_of_lowerAscii hletters.symm
  · rfl

end Segment

/-! ### Lines -/

namespace TurnPattern

variable {pattern : TurnPattern} {text other speaker remainder : Text}

/-- Lowering the letters `A`–`Z` changes nothing in where a name ends. -/
theorem splitName?_lowerAscii (text name : Text) : splitName? (Text.lowerAscii text) name =
    (splitName? text name).map (Prod.map Text.lowerAscii Text.lowerAscii) := by
  cases hsplit : splitName? text name with
  | some turn =>
    obtain ⟨speaker, remainder⟩ := turn
    obtain ⟨rfl, hfold⟩ := splitName?_eq_some_iff.1 hsplit
    refine splitName?_eq_some_iff.2 ⟨?_, ?_⟩
    · rw [Text.lowerAscii_append, Text.lowerAscii_cons]
      rfl
    · rw [Text.fold_lowerAscii, hfold]
  | none =>
    rw [Option.map_none, Option.eq_none_iff_forall_not_mem]
    rintro ⟨speaker, remainder⟩ hmem
    obtain ⟨htext, hfold⟩ := splitName?_eq_some_iff.1 hmem
    obtain ⟨lead, tail, rfl, rfl, htail⟩ := List.map_eq_append_iff.1 htext
    obtain ⟨c, rest, rfl, hc, -⟩ := List.map_eq_cons_iff.1 htail
    rw [(Text.lowerAsciiChar_eq_iff (by decide)).1 hc] at hsplit
    have hlead : Text.fold lead = Text.fold name := by
      rw [← hfold]
      exact (Text.fold_lowerAscii lead).symm
    rw [splitName?_eq_some_iff.2 ⟨rfl, hlead⟩] at hsplit
    cases hsplit

theorem split?_lowerAscii (pattern : TurnPattern) (text : Text) : pattern.split? (Text.lowerAscii text) =
    (pattern.split? text).map (Prod.map Text.lowerAscii Text.lowerAscii) := by
  rw [split?, split?, List.map_findSome?]
  refine congrArg (fun f => pattern.names.findSome? f) (funext fun name => ?_)
  exact splitName?_lowerAscii text name

theorem map_split?_of_sameLetters (pattern : TurnPattern) (h : Text.sameLetters text other = true) :
    (pattern.split? other).map (Prod.map Text.lowerAscii Text.lowerAscii) =
      (pattern.split? text).map (Prod.map Text.lowerAscii Text.lowerAscii) := by
  rw [← split?_lowerAscii, ← split?_lowerAscii, Text.sameLetters_iff.1 h]

theorem split?_of_sameLetters (hsplit : pattern.split? text = none)
    (h : Text.sameLetters text other = true) : pattern.split? other = none := by
  have hmap := map_split?_of_sameLetters pattern h
  rw [hsplit] at hmap
  exact Option.map_eq_none_iff.1 hmap

/-- A name in letters of either case opens a turn, and it is where the turn is cut. -/
theorem split?_recased {name said : Text} (hsplit : pattern.split? text = some (speaker, remainder))
    (hname : Text.sameLetters speaker name = true) (hsaid : Text.sameLetters remainder said = true) :
    pattern.split? (name ++ ':' :: said) = some (name, said) := by
  obtain ⟨-, -, htext, -⟩ := exists_name_of_split? hsplit
  have hletters : Text.sameLetters text (name ++ ':' :: said) = true := by
    rw [htext]
    exact Text.sameLetters_cut ':' hname hsaid
  have hmap := map_split?_of_sameLetters pattern hletters
  rw [hsplit, Option.map_some] at hmap
  obtain ⟨⟨front, back⟩, hother, hpair⟩ := Option.map_eq_some_iff.1 hmap
  obtain ⟨hfront, -⟩ := Prod.mk.inj hpair
  obtain ⟨-, -, hcut, -⟩ := exists_name_of_split? hother
  have hlength : front.length = name.length := by
    rw [← Text.length_lowerAscii front, hfront, Text.sameLetters_iff.1 hname, Text.length_lowerAscii]
  obtain ⟨rfl, htail⟩ := List.append_inj hcut.symm hlength
  rw [hother, (List.cons.inj htail).2]

end TurnPattern

namespace LineEvent

variable {turns : Option TurnPattern} {text other : Text} {config : Configuration}

/-- The event with its letters in either case where their case does not matter. -/
inductive Recased : LineEvent → LineEvent → Prop
  | directive (key value : Text) : Recased (directive key value) (directive key value)
  | turn {speaker name remainder said : Text} : Text.sameLetters speaker name = true →
      Segment.TextRecased remainder said → Recased (turn speaker remainder) (turn name said)
  | content {text said : Text} : Segment.TextRecased text said → Recased (content text) (content said)

/-- The text of a line with its letters in either case where their case does not matter. -/
inductive TextRecased (turns : Option TurnPattern) (text : Text) : Text → Prop
  | directive {key value : Text} : ofText turns text = .directive key value →
      TextRecased turns text text
  | turn {speaker name remainder said : Text} : ofText turns text = .turn speaker remainder →
      Text.sameLetters speaker name = true → Segment.TextRecased remainder said →
      TextRecased turns text (name ++ ':' :: said)
  | content {said : Text} : ofText turns text = .content text → Segment.TextRecased text said →
      TextRecased turns text said

theorem TextRecased.sameLetters (h : TextRecased turns text other) :
    Text.sameLetters text other = true := by
  cases h with
  | directive _ => exact Text.sameLetters_refl text
  | turn hevent hname hsaid =>
    obtain ⟨-, hturn⟩ := ofText_eq_turn_iff.1 hevent
    obtain ⟨pattern, -, hsplit⟩ := Option.bind_eq_some_iff.1 hturn
    obtain ⟨-, -, htext, -⟩ := TurnPattern.exists_name_of_split? hsplit
    rw [htext]
    exact Text.sameLetters_cut ':' hname hsaid.sameLetters
  | content _ hsaid => exact hsaid.sameLetters

/-- Dialogue does not become a directive: what makes one stands before the first bracket. -/
theorem directive?_recased (h : Segment.TextRecased text other) (hnone : directive? text = none) :
    directive? other = none := by
  cases hdirective : directive? other with
  | none => rfl
  | some entry =>
    obtain ⟨key, value⟩ := entry
    obtain ⟨hkey, hother⟩ := directive?_eq_some_iff.1 hdirective
    have hkeys : ∀ key ∈ keys, '[' ∉ key := by decide
    have hlead : '[' ∉ key ++ ['='] := by simp [hkeys key hkey]
    have hstarts : key ++ ['='] <+: other := ⟨value, by simp [hother]⟩
    obtain ⟨rest, hrest⟩ := h.starts_with hlead hstarts
    have htext : directive? text = some (key, rest) :=
      directive?_eq_some_iff.2 ⟨hkey, by rw [← hrest, List.append_assoc]; rfl⟩
    rw [hnone] at htext
    cases htext

/-- A line that is recased is of the class that it was of, and says the same but for letter case. -/
theorem recased_ofText (hplain : config.Plain) (h : TextRecased config.turns text other) :
    Recased (ofText config.turns text) (ofText config.turns other) := by
  cases h with
  | directive hevent =>
    rw [hevent]
    exact .directive _ _
  | @turn speaker name remainder said hevent hname hsaid =>
    obtain ⟨-, hturn⟩ := ofText_eq_turn_iff.1 hevent
    obtain ⟨pattern, hpattern, hsplit⟩ := Option.bind_eq_some_iff.1 hturn
    obtain ⟨people, hpeople, rfl⟩ := Option.map_eq_some_iff.1 hpattern
    have hother := TurnPattern.split?_recased hsplit hname hsaid.sameLetters
    have hdirective := directive?_of_split? (hplain.names people hpeople) hother
    have hevent' : ofText config.turns (name ++ ':' :: said) = .turn name said :=
      ofText_eq_turn_iff.2 ⟨hdirective, Option.bind_eq_some_iff.2 ⟨_, hpattern, hother⟩⟩
    rw [hevent, hevent']
    exact .turn hname hsaid
  | content hevent hsaid =>
    obtain ⟨-, hdirective, hsplit⟩ := ofText_eq_content_iff.1 hevent
    have hother : (config.turns.bind fun pattern => pattern.split? other) = none := by
      rw [Option.bind_eq_none_iff] at hsplit ⊢
      exact fun pattern hpattern =>
        TurnPattern.split?_of_sameLetters (hsplit pattern hpattern) hsaid.sameLetters
    have hevent' : ofText config.turns other = .content other :=
      ofText_eq_content_iff.2 ⟨rfl, directive?_recased hsaid hdirective, hother⟩
    rw [hevent, hevent']
    exact .content hsaid

end LineEvent

/-! ### Scripts -/

/-- The line, under the same number, with its letters in either case where their case does not matter. -/
structure Line.Recased (turns : Option TurnPattern) (line other : Line) : Prop where
  number : other.number = line.number
  text : LineEvent.TextRecased turns line.text other.text

/-- A directive stays as it is. -/
theorem Line.Recased.eq_of_directive {turns : Option TurnPattern} {line other : Line}
    {key value : Text} (h : Recased turns line other)
    (hdirective : LineEvent.ofText turns line.text = .directive key value) : other = line := by
  have htext : other.text = line.text := by
    have htext := h.text
    generalize other.text = text at htext
    cases htext with
    | directive _ => rfl
    | turn hturn _ _ => cases hturn.symm.trans hdirective
    | content hcontent _ => cases hcontent.symm.trans hdirective
  obtain ⟨number, text⟩ := other
  exact congrArg₂ Line.mk h.number htext

namespace Configuration

variable {config : Configuration}

/-- The lines with their letters in either case where their case does not matter, which is read off the
first ones: which of them open turns, and of whom, a configuration tells, and they change it. -/
inductive Recased : Configuration → List Line → List Line → Prop
  | nil (config : Configuration) : Recased config [] []
  | cons {config : Configuration} {line other : Line} {lines others : List Line} :
      Line.Recased config.turns line other → Recased (config.read line).1 lines others →
      Recased config (line :: lines) (other :: others)

theorem Plain.read (h : config.Plain) (line : Line) : (config.read line).1.Plain := by
  rw [Configuration.read]
  split
  · exact h.apply _ _
  · exact h.lock
  · exact h

theorem plain_config (options : Options) : options.config.Plain := by
  have hall : ∀ (seeds : List (Text × Text)) (config : Configuration), config.Plain →
      (seeds.foldl (fun config entry => (config.apply entry.1 entry.2).1) config).Plain := by
    intro seeds
    induction seeds with
    | nil => exact fun config h => h
    | cons entry rest ih => exact fun config h => ih _ (h.apply entry.1 entry.2)
  exact hall options.seeds {} plain_empty

end Configuration

end Colloquy
