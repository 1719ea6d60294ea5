import Colloquy.Proofs.Configuration.Freeze
import Colloquy.Proofs.Script.Grammar
import Colloquy.Proofs.Script.Piece
import Colloquy.Proofs.Script.Speaker

/-!
# Classes of lines

The lines that are directives have a grammar of parsing expressions: one of the keys, an equals sign and
anything. It takes a line apart in at most one way, and that is how the line is read
(`LineEvent.directive?_iff_directs`).

A line that opens a turn starts with a name and a colon. No key holds a colon and no accepted name holds
an equals sign (`Configuration.Plain`), nor does anything that folds like such a name; so a line cannot
both be a directive and open a turn, and it does not matter for which of the two it is tried first
(`LineEvent.classes_apart`).
-/

namespace Colloquy

/-! ### The grammar of directives -/

namespace Peg

/-- One character after another. -/
def word (first : Char) : Text → Peg
  | [] => .char first
  | next :: rest => .seq (.char first) (word next rest)

/-- A key, the first that fits. -/
def directiveKey : Peg :=
  .choice (word 'b' "ot") (.choice (word 'u' "ser") (word 'c' "hannelId"))

/-- Anything up to the end. -/
def directiveValue : Peg := .many .any

/-- A key, an equals sign and a value, which are the whole text. -/
def directive : Peg := .seq directiveKey (.seq (.char '=') (.seq directiveValue (.absent .any)))

/-- The text is a directive, in which the key and the value stand where their expressions find them. -/
structure Directs (text key value : Text) : Prop where
  whole : directive.Parses text (some ⟨[], text, []⟩)
  key : directiveKey.Parses text (some ⟨[], key, '=' :: value⟩)
  value : directiveValue.Parses value (some ⟨[], value, []⟩)

variable {text key value : Text} {m : Match}

theorem parses_word (first : Char) (rest tail : Text) :
    (word first rest).Parses (first :: rest ++ tail) (some ⟨[], first :: rest, tail⟩) := by
  induction rest generalizing first with
  | nil => exact .char first tail
  | cons next rest ih => exact .seq (.char first _) (ih next)

theorem parses_word_fails {first c : Char} (h : c ≠ first) (rest tail : Text) :
    (word first rest).Parses (c :: tail) none := by
  cases rest with
  | nil => exact .char_ne h
  | cons next rest => exact .seq_first (.char_ne h)

/-- A word takes itself, and the text starts with it. -/
theorem of_parses_word {first : Char} {rest : Text} (h : (word first rest).Parses text (some m)) :
    text = first :: rest ++ m.rest ∧ m.found = [] ∧ m.taken = first :: rest := by
  induction rest generalizing first text m with
  | nil =>
    cases h
    exact ⟨rfl, rfl, rfl⟩
  | cons next rest ih =>
    cases h with
    | seq hfirst hrest =>
      cases hfirst
      obtain ⟨htext, hfound, htaken⟩ := ih hrest
      exact ⟨congrArg (first :: ·) htext, hfound, congrArg (first :: ·) htaken⟩

theorem cases_of_mem_keys (h : key ∈ LineEvent.keys) :
    key = 'b' :: "ot" ∨ key = 'u' :: "ser" ∨ key = 'c' :: "hannelId" := by
  have hkeys : ∀ key ∈ LineEvent.keys,
      key = 'b' :: "ot" ∨ key = 'u' :: "ser" ∨ key = 'c' :: "hannelId" := by
    decide
  exact hkeys key h

/-- The keys are told apart by their first characters. -/
theorem parses_directiveKey (hkey : key ∈ LineEvent.keys) (tail : Text) :
    directiveKey.Parses (key ++ tail) (some ⟨[], key, tail⟩) := by
  rcases cases_of_mem_keys hkey with rfl | rfl | rfl
  · exact .choice_first (parses_word 'b' "ot" tail)
  · have hbot := @parses_word_fails 'b' 'u' (by decide) "ot" ("ser" ++ tail)
    exact .choice_second hbot (.choice_first (parses_word 'u' "ser" tail))
  · have hbot := @parses_word_fails 'b' 'c' (by decide) "ot" ("hannelId" ++ tail)
    have huser := @parses_word_fails 'u' 'c' (by decide) "ser" ("hannelId" ++ tail)
    exact .choice_second hbot (.choice_second huser (parses_word 'c' "hannelId" tail))

theorem of_parses_directiveKey (h : directiveKey.Parses text (some m)) :
    m.taken ∈ LineEvent.keys ∧ m.found = [] ∧ text = m.taken ++ m.rest := by
  have hword : ∀ first rest, (word first rest).Parses text (some m) →
      first :: rest ∈ LineEvent.keys → m.taken ∈ LineEvent.keys ∧ m.found = [] ∧
        text = m.taken ++ m.rest := by
    intro first rest hparses hmem
    obtain ⟨htext, hfound, htaken⟩ := of_parses_word hparses
    rw [htaken]
    exact ⟨hmem, hfound, htext⟩
  cases h with
  | choice_first hbot => exact hword _ _ hbot (by decide)
  | choice_second _ hmore =>
    cases hmore with
    | choice_first huser => exact hword _ _ huser (by decide)
    | choice_second _ hchannel => exact hword _ _ hchannel (by decide)

theorem parses_directiveValue (text : Text) :
    directiveValue.Parses text (some ⟨[], text, []⟩) := by
  induction text with
  | nil => exact .many_stop .any_nil
  | cons c rest ih => exact .many_step (.any c rest) ih

theorem parses_directive (hkey : key ∈ LineEvent.keys) (value : Text) :
    directive.Parses (key ++ '=' :: value) (some ⟨[], key ++ '=' :: value, []⟩) := by
  have hend : (Peg.absent .any).Parses [] (some ⟨[], [], []⟩) := .absent .any_nil
  have hwhole := Parses.seq (parses_directiveKey hkey ('=' :: value))
    (.seq (.char '=' value) (.seq (parses_directiveValue value) hend))
  simp only [Match.append, List.append_nil] at hwhole
  exact hwhole

/-- What the grammar accepts has a key and an equals sign behind it. -/
theorem of_parses_directive (h : directive.Parses text (some m)) :
    ∃ key ∈ LineEvent.keys, ∃ value, text = key ++ '=' :: value := by
  cases h with
  | @seq _ _ _ first _ hkey hmore =>
    obtain ⟨hmem, -, htext⟩ := of_parses_directiveKey hkey
    refine ⟨first.taken, hmem, ?_⟩
    cases hmore with
    | seq hequals _ =>
      generalize first.rest = rest at hequals htext
      cases hequals with
      | char _ value => exact ⟨value, htext⟩

theorem directs_iff : Directs text key value ↔ key ∈ LineEvent.keys ∧ text = key ++ '=' :: value := by
  constructor
  · intro h
    obtain ⟨hmem, -, htext⟩ := of_parses_directiveKey h.key
    exact ⟨hmem, htext⟩
  · rintro ⟨hmem, rfl⟩
    exact ⟨parses_directive hmem value, parses_directiveKey hmem _, parses_directiveValue value⟩

end Peg

/-! ### Names without an equals sign -/

namespace Configuration

variable {config : Configuration} {key value : Text}

/-- No stored value and no name of a participant holds an equals sign. -/
structure Plain (config : Configuration) : Prop where
  values : ∀ key value, config.get? key = some value → '=' ∉ value
  names : ∀ people, config.participants = some people →
    ∀ role, '=' ∉ (people.account role).name

theorem plain_empty : Plain {} := by
  constructor
  · intro key value h
    cases h
  · intro people h
    cases h

theorem notMem_of_refusal?_eq_none (h : config.refusal? key value = none) : '=' ∉ value := by
  intro hmem
  rw [refusal?, if_pos (List.contains_iff_mem.2 hmem)] at h
  cases h

theorem Plain.store (h : config.Plain) (key : Text) (hvalue : '=' ∉ value) :
    (config.store key value).Plain := by
  refine ⟨?_, h.names⟩
  intro other current hcurrent
  rw [get?_store] at hcurrent
  split at hcurrent
  · rw [← Option.some.inj hcurrent]
    exact hvalue
  · exact h.values other current hcurrent

/-- The participants are made from stored values. -/
theorem Plain.settled (h : config.Plain) {result : Configuration × Except ConfigError Bool}
    (hresult : Settled config result) : result.1.Plain := by
  cases hresult with
  | unnamed role _ => exact h
  | ambiguous bot user _ _ _ => exact h
  | known people _ _ _ _ => exact h
  | made bot user hbot huser _ _ =>
    refine ⟨h.values, ?_⟩
    intro people hpeople role
    rw [← Option.some.inj hpeople]
    cases role with
    | bot => exact h.values _ bot hbot
    | user => exact h.values _ user huser

/-- A directive whose value holds an equals sign is refused. -/
theorem Plain.apply (h : config.Plain) (key value : Text) : (config.apply key value).1.Plain := by
  have happlied := applied_apply config key value
  generalize config.apply key value = result at happlied
  cases happlied with
  | refused error _ => exact h
  | stored hrefusal _ => exact h.store _ (notMem_of_refusal?_eq_none hrefusal)
  | named role _ _ hrefusal hsettled =>
    exact (h.store _ (notMem_of_refusal?_eq_none hrefusal)).settled hsettled

theorem Plain.lock (h : config.Plain) : config.lock.Plain := ⟨h.values, h.names⟩

theorem Plain.run (h : config.Plain) (steps : List Step) : (config.run steps).Plain := by
  induction steps generalizing config with
  | nil => exact h
  | cons request rest ih =>
    cases request with
    | directive key value => exact ih (h.apply key value)
    | lock => exact ih h.lock

end Configuration

/-! ### Directives and turns -/

theorem TurnPattern.notMem_of_split? {people : Participants}
    (hnames : ∀ role, '=' ∉ (people.account role).name) {text speaker remainder : Text}
    (h : (ofParticipants people).split? text = some (speaker, remainder)) : '=' ∉ speaker := by
  obtain ⟨name, hname, -, hfold⟩ := exists_name_of_split? h
  intro hmem
  have hequals := Text.mark_mem_of_fold_eq (by decide) hfold hmem
  rcases mem_names_iff.1 hname with ⟨role, rfl⟩ | ⟨role, rfl⟩
  · exact hnames role hequals
  · have hkeywords : ∀ role : Role, '=' ∉ role.name := by
      rintro (_ | _) <;> decide
    exact hkeywords role hequals

namespace LineEvent

variable {text key value speaker remainder : Text}

theorem directive?_eq_some_iff :
    directive? text = some (key, value) ↔ key ∈ keys ∧ text = key ++ '=' :: value := by
  constructor
  · intro h
    obtain ⟨known, hknown, hvalue⟩ := List.exists_of_findSome?_eq_some h
    obtain ⟨rest, hrest, hpair⟩ := Option.map_eq_some_iff.1 hvalue
    obtain ⟨rfl, rfl⟩ := Prod.mk.inj hpair
    rw [Text.after?_eq_some_iff, List.append_assoc] at hrest
    exact ⟨hknown, hrest⟩
  · rintro ⟨hkey, rfl⟩
    rcases Peg.cases_of_mem_keys hkey with rfl | rfl | rfl
    · rfl
    · rfl
    · rfl

theorem directive?_iff_directs :
    directive? text = some (key, value) ↔ Peg.Directs text key value :=
  directive?_eq_some_iff.trans Peg.directs_iff.symm

/-- Where a line has two marks to be cut at, the part before the one holds the other. -/
theorem append_ne_append (hspeaker : '=' ∉ speaker) (hkey : ':' ∉ key) (value remainder : Text) :
    key ++ '=' :: value ≠ speaker ++ ':' :: remainder := by
  intro h
  rcases List.append_eq_append_iff.1 h with ⟨between, rfl, htail⟩ | ⟨between, rfl, htail⟩
  · cases between with
    | nil => cases htail
    | cons c rest =>
      obtain ⟨rfl, -⟩ := List.cons.inj htail
      exact hspeaker (by simp)
  · cases between with
    | nil => cases htail
    | cons c rest =>
      obtain ⟨rfl, -⟩ := List.cons.inj htail
      exact hkey (by simp)

/-- A directive opens no turn. -/
theorem split?_of_directive? {people : Participants}
    (hnames : ∀ role, '=' ∉ (people.account role).name) (h : directive? text = some (key, value)) :
    (TurnPattern.ofParticipants people).split? text = none := by
  obtain ⟨hkey, htext⟩ := directive?_eq_some_iff.1 h
  have hkeys : ∀ key ∈ keys, ':' ∉ key := by decide
  cases hsplit : (TurnPattern.ofParticipants people).split? text with
  | none => rfl
  | some turn =>
    obtain ⟨speaker, remainder⟩ := turn
    obtain ⟨-, -, hcut, -⟩ := TurnPattern.exists_name_of_split? hsplit
    exact absurd (htext.symm.trans hcut)
      (append_ne_append (TurnPattern.notMem_of_split? hnames hsplit) (hkeys key hkey) _ _)

/-- A line that opens a turn is no directive. -/
theorem directive?_of_split? {people : Participants}
    (hnames : ∀ role, '=' ∉ (people.account role).name)
    (h : (TurnPattern.ofParticipants people).split? text = some (speaker, remainder)) :
    directive? text = none := by
  cases hdirective : directive? text with
  | none => rfl
  | some entry =>
    rw [split?_of_directive? hnames hdirective] at h
    cases h

/-- What a line means when it is tried as a turn before it is tried as a directive. -/
def turnsFirst (turns : Option TurnPattern) (text : Text) : LineEvent :=
  match turns.bind fun pattern => pattern.split? text with
  | some (speaker, remainder) => .turn speaker remainder
  | none =>
    match directive? text with
    | some (key, value) => .directive key value
    | none => .content text

/-- The grammar of directives accepts the lines that start with a key and an equals sign, whatever
follows, and such a line is read as the grammar takes it apart. With names that directives have led to,
no line is a directive and opens a turn, so the order in which the two are tried does not matter, and
what opens a turn is a turn. -/
theorem classes_apart :
    (∀ text, (∃ m, Peg.directive.Parses text (some m)) ↔
        ∃ value, text = "bot=" ++ value ∨ text = "user=" ++ value ∨ text = "channelId=" ++ value) ∧
      (∀ text key value, directive? text = some (key, value) ↔ Peg.Directs text key value) ∧
      (∀ text key value, directive? text = some (key, value) ↔
        key ∈ keys ∧ text = key ++ '=' :: value) ∧
      ∀ steps people, (Configuration.run {} steps).participants = some people → ∀ text,
        ¬(directive? text ≠ none ∧ (TurnPattern.ofParticipants people).split? text ≠ none) ∧
          ofText (some (.ofParticipants people)) text =
            turnsFirst (some (.ofParticipants people)) text ∧
          ∀ speaker remainder,
            (TurnPattern.ofParticipants people).split? text = some (speaker, remainder) →
            ofText (some (.ofParticipants people)) text = .turn speaker remainder := by
  refine ⟨?_, fun _ _ _ => directive?_iff_directs, fun _ _ _ => directive?_eq_some_iff, ?_⟩
  · intro text
    constructor
    · rintro ⟨m, hparses⟩
      obtain ⟨key, hkey, value, rfl⟩ := Peg.of_parses_directive hparses
      rcases Peg.cases_of_mem_keys hkey with rfl | rfl | rfl
      · exact ⟨value, .inl rfl⟩
      · exact ⟨value, .inr (.inl rfl)⟩
      · exact ⟨value, .inr (.inr rfl)⟩
    · rintro ⟨value, rfl | rfl | rfl⟩
      · exact ⟨_, @Peg.parses_directive "bot" (by decide) value⟩
      · exact ⟨_, @Peg.parses_directive "user" (by decide) value⟩
      · exact ⟨_, @Peg.parses_directive "channelId" (by decide) value⟩
  · intro steps people hpeople text
    have hnames := (Configuration.plain_empty.run steps).names people hpeople
    cases hsplit : (TurnPattern.ofParticipants people).split? text with
    | some turn =>
      obtain ⟨speaker, remainder⟩ := turn
      have hdirective := directive?_of_split? hnames hsplit
      refine ⟨fun h => h.1 hdirective, ?_, ?_⟩
      · simp only [ofText, turnsFirst, hdirective, Option.bind_some, hsplit]
      · intro other rest h
        cases h
        simp only [ofText, hdirective, Option.bind_some, hsplit]
    | none =>
      refine ⟨fun h => h.2 rfl, ?_, fun _ _ h => by cases h⟩
      cases hdirective : directive? text <;> simp [ofText, turnsFirst, hdirective, hsplit]

/-- The bot has the name of a key, and the user one that starts like a key. -/
theorem classes_apart_namesakes :
    (Configuration.run {} [.directive "user" "Botany", .directive "bot" "channelId"]).participants =
        some (.ofNames "channelId" "Botany") ∧
      (TurnPattern.ofParticipants (.ofNames "channelId" "Botany")).split? "ChannelID: bot=x" =
        some ("ChannelID".toList, " bot=x".toList) ∧
      ofText (some (.ofParticipants (.ofNames "channelId" "Botany"))) "ChannelID: bot=x" =
        .turn "ChannelID" " bot=x" ∧
      turnsFirst (some (.ofParticipants (.ofNames "channelId" "Botany"))) "channelId=Botany: hi" =
        .directive "channelId" "Botany: hi" := by
  have hpeople : (Configuration.run {} [.directive "user" "Botany",
      .directive "bot" "channelId"]).participants = some (.ofNames "channelId" "Botany") := by
    decide +kernel
  have hsplit : (TurnPattern.ofParticipants (.ofNames "channelId" "Botany")).split?
      "ChannelID: bot=x" = some ("ChannelID".toList, " bot=x".toList) := by
    decide +kernel
  obtain ⟨-, -, -, happart⟩ := classes_apart
  obtain ⟨-, -, hturn⟩ := happart _ _ hpeople "ChannelID: bot=x"
  obtain ⟨-, horder, -⟩ := happart _ _ hpeople "channelId=Botany: hi"
  refine ⟨hpeople, hsplit, hturn _ _ hsplit, horder.symm.trans ?_⟩
  decide +kernel

end LineEvent

end Colloquy
