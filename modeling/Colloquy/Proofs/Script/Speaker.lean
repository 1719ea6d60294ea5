import Colloquy.Proofs.Configuration.Lookup
import Colloquy.Proofs.Session.Move
import Colloquy.Transcript

/-!
# Turns and their speakers

A line opens a turn if it starts with a name that folds like one of the participants', or with a
keyword; the speaker is then looked up by lowering. On regular names and texts the two agree: every
turn has a speaker, and what has a speaker opens a turn (`split?_agrees_speakerRole?`). In general
they do not, in either direction (`not_split?_agrees_speakerRole?`): `ſam` opens a turn of `Sam` that
has no speaker, and `i̇`, which is the side of `İ`, opens none.
-/

namespace Colloquy

variable {people : Participants} {text token speaker remainder : Text}

/-! ### What opens a turn -/

namespace TurnPattern

theorem splitName?_eq_some_iff {name : Text} :
    splitName? text name = some (speaker, remainder) ↔
      text = speaker ++ ':' :: remainder ∧ Text.fold speaker = Text.fold name := by
  constructor
  · intro h
    simp only [splitName?, List.splitAt_eq] at h
    split at h
    · rename_i rest hrest
      split at h
      · rename_i hfold
        cases h
        refine ⟨?_, hfold⟩
        rw [← hrest, List.take_append_drop]
      · cases h
    · cases h
  · rintro ⟨rfl, hfold⟩
    have hlength : name.length = speaker.length := by
      have h := congrArg List.length hfold
      rw [Text.length_fold, Text.length_fold] at h
      exact h.symm
    simp only [splitName?, List.splitAt_eq, hlength, List.take_left', List.drop_left', hfold,
      if_true]

/-- A turn is opened by one of the names. -/
theorem exists_name_of_split? {pattern : TurnPattern}
    (h : pattern.split? text = some (speaker, remainder)) :
    ∃ name ∈ pattern.names, text = speaker ++ ':' :: remainder ∧
      Text.fold speaker = Text.fold name := by
  obtain ⟨name, hname, hsplit⟩ := List.exists_of_findSome?_eq_some h
  exact ⟨name, hname, splitName?_eq_some_iff.1 hsplit⟩

/-- What folds like one of the names opens a turn, though maybe one that ends at another colon. -/
theorem exists_split? {pattern : TurnPattern} {name : Text} (hname : name ∈ pattern.names)
    (hfold : Text.fold token = Text.fold name) (rest : Text) :
    ∃ turn, pattern.split? (token ++ ':' :: rest) = some turn := by
  have hsplit : splitName? (token ++ ':' :: rest) name = some (token, rest) :=
    splitName?_eq_some_iff.2 ⟨rfl, hfold⟩
  rw [← Option.isSome_iff_exists, split?, List.findSome?_isSome_iff]
  exact ⟨name, hname, Option.isSome_iff_exists.2 ⟨_, hsplit⟩⟩

end TurnPattern

namespace LineEvent

variable {turns : Option TurnPattern}

theorem ofText_eq_turn_iff : ofText turns text = .turn speaker remainder ↔
    directive? text = none ∧
      (turns.bind fun pattern => pattern.split? text) = some (speaker, remainder) := by
  rw [ofText]
  cases directive? text with
  | some entry => simp
  | none => cases turns.bind fun pattern => pattern.split? text <;> simp [Prod.ext_iff]

theorem ofText_eq_content_iff {said : Text} : ofText turns text = .content said ↔
    said = text ∧ directive? text = none ∧ (turns.bind fun pattern => pattern.split? text) = none := by
  rw [ofText]
  cases directive? text with
  | some entry => simp
  | none => cases turns.bind fun pattern => pattern.split? text <;> simp [eq_comm]

end LineEvent

/-! ### Who speaks -/

namespace Participants

theorem exists_keywordRole?_iff :
    (∃ role, keywordRole? token = some role) ↔
      ∃ role : Role, Text.sameLetters token role.name = true := by
  constructor
  · rintro ⟨role, hrole⟩
    have hfound := List.find?_some hrole
    exact ⟨role, hfound⟩
  · rintro ⟨role, hrole⟩
    exact ⟨role, keywordRole?_of_sameLetters hrole⟩

theorem exists_byName?_iff :
    (∃ account, people.byName? token = some account) ↔
      ∃ role : Role, Text.lowercase (people.account role).name = Text.lowercase token := by
  rw [byName?_eq]
  constructor
  · rintro ⟨account, haccount⟩
    split at haccount
    · exact ⟨.user, ‹_›⟩
    · split at haccount
      · exact ⟨.bot, ‹_›⟩
      · cases haccount
  · rintro ⟨role, hname⟩
    split
    · exact ⟨people.user, rfl⟩
    · rename_i huser
      cases role with
      | user => exact absurd hname huser
      | bot => exact ⟨people.bot, if_pos hname⟩

/-- A speaker is a participant under a declared name or by a keyword. -/
theorem exists_speakerRole?_iff :
    (∃ role, people.speakerRole? token = some role) ↔
      (∃ role : Role, Text.lowercase (people.account role).name = Text.lowercase token) ∨
        ∃ role : Role, Text.sameLetters token role.name = true := by
  rw [← exists_byName?_iff, ← exists_keywordRole?_iff, speakerRole?]
  cases people.byName? token <;> simp

end Participants

/-- The names of a pattern are the declared names and the keywords. -/
theorem mem_names_iff {name : Text} : name ∈ (TurnPattern.ofParticipants people).names ↔
    (∃ role : Role, name = (people.account role).name) ∨ ∃ role : Role, name = role.name := by
  simp only [TurnPattern.names, TurnPattern.ofParticipants, List.mem_cons, List.not_mem_nil,
    or_false]
  constructor
  · rintro (h | h | h | h)
    · exact .inl ⟨.bot, h⟩
    · exact .inl ⟨.user, h⟩
    · exact .inr ⟨.bot, h⟩
    · exact .inr ⟨.user, h⟩
  · rintro (⟨role, h⟩ | ⟨role, h⟩) <;> cases role <;> simp_all [Participants.account]

/-! ### Agreement -/

/-- A regular text that folds like a keyword is the keyword in letters of either case. -/
theorem sameLetters_of_fold {role : Role} (hregular : Text.Regular speaker)
    (hfold : Text.fold speaker = Text.fold role.name) :
    Text.sameLetters speaker role.name = true := by
  have hname : Text.fold role.name = role.name := by
    cases role <;> decide +kernel
  refine Participants.sameLetters_of_lowercase ?_
  rw [hregular, hfold, hname]

theorem exists_speakerRole?_of_fold {name : Text}
    (hnames : ∀ role, Text.Regular (people.account role).name) (hspeaker : Text.Regular speaker)
    (hname : name ∈ (TurnPattern.ofParticipants people).names)
    (hfold : Text.fold speaker = Text.fold name) :
    ∃ role, people.speakerRole? speaker = some role := by
  rw [Participants.exists_speakerRole?_iff]
  rcases mem_names_iff.1 hname with ⟨role, rfl⟩ | ⟨role, rfl⟩
  · refine .inl ⟨role, ?_⟩
    rw [hnames role, hspeaker, hfold]
  · exact .inr ⟨role, sameLetters_of_fold hspeaker hfold⟩

theorem exists_split?_of_speakerRole? {role : Role}
    (hnames : ∀ role, Text.Regular (people.account role).name) (htoken : Text.Regular token)
    (hrole : people.speakerRole? token = some role) (rest : Text) :
    ∃ turn, (TurnPattern.ofParticipants people).split? (token ++ ':' :: rest) = some turn := by
  rcases Participants.exists_speakerRole?_iff.1 ⟨role, hrole⟩ with ⟨side, hname⟩ | ⟨side, hname⟩
  · refine TurnPattern.exists_split? (mem_names_iff.2 (.inl ⟨side, rfl⟩)) ?_ rest
    rw [← htoken, ← hname, hnames side]
  · exact TurnPattern.exists_split? (mem_names_iff.2 (.inr ⟨side, rfl⟩))
      (Text.fold_eq_of_sameLetters hname) rest

/-- With regular names, a line that opens a turn for a regular speaker has that speaker, so that
the turn can be opened; and a line that starts with a regular token for a speaker opens a turn. -/
theorem split?_agrees_speakerRole? (hnames : ∀ role, Text.Regular (people.account role).name) :
    (∀ text speaker remainder,
        (TurnPattern.ofParticipants people).split? text = some (speaker, remainder) →
        Text.Regular speaker →
        (∃ role, people.speakerRole? speaker = some role) ∧
          ∀ (scene : Scene) (session : Session), session.config.participants = some people →
            ∃ next, session.openTurn scene speaker = .ok next) ∧
      ∀ token rest role, people.speakerRole? token = some role → Text.Regular token →
        ∃ turn, (TurnPattern.ofParticipants people).split? (token ++ ':' :: rest) = some turn := by
  refine ⟨?_, ?_⟩
  · intro text speaker remainder hsplit hspeaker
    obtain ⟨name, hname, -, hfold⟩ := TurnPattern.exists_name_of_split? hsplit
    obtain ⟨role, hrole⟩ := exists_speakerRole?_of_fold hnames hspeaker hname hfold
    refine ⟨⟨role, hrole⟩, ?_⟩
    intro scene session hpeople
    exact ⟨_, Session.openTurn_eq_ok_iff.2 ⟨people, role, hpeople, hrole, rfl⟩⟩
  · intro token rest role hrole htoken
    exact exists_split?_of_speakerRole? hnames htoken hrole rest

theorem split?_agrees_speakerRole?_dialect :
    (∃ role, (Participants.ofNames "Zoë" "R2-D2").speakerRole? "zOË" = some role) ∧
      ∃ turn, (TurnPattern.ofParticipants (.ofNames "Zoë" "R2-D2")).split?
        ("r2-d2" ++ ':' :: " beep") = some turn := by
  have hnames : ∀ role, Text.Regular ((Participants.ofNames "Zoë" "R2-D2").account role).name := by
    intro role
    cases role <;> decide +kernel
  have hascii : ∀ c ∈ ("r2-d2" : Text), c.toNat < 128 := List.all_iff_forall_prop.1 (by decide)
  have hagree := split?_agrees_speakerRole? hnames
  refine ⟨(hagree.1 "zOË: hi" "zOË" " hi" (by decide +kernel) (by decide +kernel)).1, ?_⟩
  exact hagree.2 "r2-d2" " beep" .user (by decide +kernel) (Text.regular_of_ascii hascii)

/-- The long s folds to a letter that it is not lowered to, and the dotted capital i is lowered to
letters that it does not fold to. -/
theorem not_split?_agrees_speakerRole? :
    ((Configuration.run {} [.directive "bot" "Sam", .directive "user" "İ"]).participants =
        some (.ofNames "Sam" "İ")) ∧
      (TurnPattern.ofParticipants (.ofNames "Sam" "İ")).split? "ſam: hi" =
        some ("ſam".toList, " hi".toList) ∧
      (Participants.ofNames "Sam" "İ").speakerRole? "ſam" = none ∧
      (Participants.ofNames "Sam" "İ").speakerRole? "i\u0307" = some .user ∧
      (TurnPattern.ofParticipants (.ofNames "Sam" "İ")).split? "i\u0307: hi" = none := by
  decide +kernel

end Colloquy
