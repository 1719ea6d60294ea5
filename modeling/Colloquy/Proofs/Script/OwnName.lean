import Colloquy.Proofs.Script.Speaker

/-!
# Names that open their own turns

The names of a turn pattern are tried in a fixed order, the name of the bot before the name of the
user and both before the keywords. So a line that starts with the bot's name and a colon is cut
there, whatever follows. One that starts with the user's name and a colon is cut there unless it
starts with the bot's name and a colon as well, which it can only do if one of the names goes on from
the other with a colon. This is about where lines are cut; whom the name in front of the cut stands
for is another matter (`Participants.speakerRole?`).
-/

namespace Colloquy

variable {people : Participants}

/-! ### Lines with a colon behind a name -/

namespace TurnPattern

variable {name speaker rest remainder : Text}

/-- The name starts with another one and a colon, in letters of any case. -/
def GoesOnFrom (name other : Text) : Prop :=
  ∃ more, Text.fold name = Text.fold (other ++ ':' :: more)

/-- A line has two colons to be cut at only if one of its two beginnings goes on from the other. -/
theorem cut_cases (h : name ++ ':' :: rest = speaker ++ ':' :: remainder) :
    speaker = name ∨ (∃ more, name = speaker ++ ':' :: more) ∨
      ∃ more, speaker = name ++ ':' :: more := by
  rcases List.append_eq_append_iff.1 h with ⟨between, hspeaker, htail⟩ | ⟨between, hname, htail⟩
  · cases between with
    | nil => exact .inl (by rw [hspeaker, List.append_nil])
    | cons c more =>
      obtain ⟨rfl, -⟩ := List.cons.inj htail
      exact .inr (.inr ⟨more, hspeaker⟩)
  · cases between with
    | nil => exact .inl (by rw [hname, List.append_nil])
    | cons c more =>
      obtain ⟨rfl, -⟩ := List.cons.inj htail
      exact .inr (.inl ⟨more, hname⟩)

/-- The part of a name that folds like another name and a colon ends in a colon itself. -/
theorem GoesOnFrom.exists_cut {other : Text} (h : GoesOnFrom name other) :
    ∃ lead more, name = lead ++ ':' :: more ∧ Text.fold lead = Text.fold other := by
  obtain ⟨more, hfold⟩ := h
  rw [Text.fold_append, Text.fold_cons] at hfold
  obtain ⟨lead, tail, rfl, hlead, htail⟩ := List.map_eq_append_iff.1 hfold
  obtain ⟨c, last, rfl, hc, -⟩ := List.map_eq_cons_iff.1 htail
  have hcolon : c = ':' := Text.eq_mark_of_foldChar (by decide) (hc.trans (Text.foldChar_mark (by decide)))
  exact ⟨lead, last, by rw [hcolon], hlead⟩

theorem splitName?_own (name rest : Text) :
    splitName? (name ++ ':' :: rest) name = some (name, rest) :=
  splitName?_eq_some_iff.2 ⟨rfl, rfl⟩

theorem split?_bot (people : Participants) (rest : Text) :
    (ofParticipants people).split? (people.bot.name ++ ':' :: rest) =
      some (people.bot.name, rest) := by
  have hown : splitName? (people.bot.name ++ ':' :: rest) (ofParticipants people).bot = _ :=
    splitName?_own people.bot.name rest
  rw [split?, names, List.findSome?_cons, hown]

/-- Where the user's name stands with a colon, only the name of the bot is tried before it. -/
theorem split?_user (people : Participants) (rest : Text) :
    (ofParticipants people).split? (people.user.name ++ ':' :: rest) =
      (splitName? (people.user.name ++ ':' :: rest) people.bot.name).or
        (some (people.user.name, rest)) := by
  have hown : splitName? (people.user.name ++ ':' :: rest) (ofParticipants people).user = _ :=
    splitName?_own people.user.name rest
  have hbot : (ofParticipants people).bot = people.bot.name := rfl
  rw [split?, names, List.findSome?_cons, List.findSome?_cons, hown, hbot]
  cases splitName? (people.user.name ++ ':' :: rest) people.bot.name <;> rfl

theorem split?_user_of_bot (people : Participants)
    (hcut : people.user.name ++ ':' :: rest = speaker ++ ':' :: remainder)
    (hfold : Text.fold speaker = Text.fold people.bot.name) :
    (ofParticipants people).split? (people.user.name ++ ':' :: rest) =
      some (speaker, remainder) := by
  rw [split?_user, splitName?_eq_some_iff.2 ⟨hcut, hfold⟩, Option.some_or]

/-- A line that starts with the user's name and a colon is cut there exactly if the bot's name does
not cut it at another place. -/
theorem split?_user_iff (people : Participants) (rest : Text) :
    (ofParticipants people).split? (people.user.name ++ ':' :: rest) =
        some (people.user.name, rest) ↔
      ∀ speaker remainder, people.user.name ++ ':' :: rest = speaker ++ ':' :: remainder →
        Text.fold speaker = Text.fold people.bot.name → speaker = people.user.name := by
  constructor
  · intro hown speaker remainder hcut hfold
    rw [split?_user_of_bot people hcut hfold] at hown
    cases hown
    rfl
  · intro hbot
    cases hsplit : splitName? (people.user.name ++ ':' :: rest) people.bot.name with
    | none => rw [split?_user, hsplit, Option.none_or]
    | some turn =>
      obtain ⟨speaker, remainder⟩ := turn
      obtain ⟨hcut, hfold⟩ := splitName?_eq_some_iff.1 hsplit
      obtain rfl := hbot speaker remainder hcut hfold
      have htail : rest = remainder := List.tail_eq_of_cons_eq (List.append_cancel_left hcut)
      rw [split?_user, hsplit, Option.some_or, htail]

/-! ### Names and their turns -/

/-- The bot's name opens its own turn in front of every text. The user's name does so in front of
the texts that do not make the line start with the bot's name and a colon as well; a line that does
is cut where the bot's name ends. So both names always open their own turns exactly if neither of
them goes on from the other. -/
theorem split?_own_name (people : Participants) :
    (∀ rest, (ofParticipants people).split? (people.bot.name ++ ':' :: rest) =
        some (people.bot.name, rest)) ∧
      (∀ rest, (ofParticipants people).split? (people.user.name ++ ':' :: rest) =
          some (people.user.name, rest) ↔
        ∀ speaker remainder, people.user.name ++ ':' :: rest = speaker ++ ':' :: remainder →
          Text.fold speaker = Text.fold people.bot.name → speaker = people.user.name) ∧
      (∀ rest speaker remainder,
        people.user.name ++ ':' :: rest = speaker ++ ':' :: remainder →
        Text.fold speaker = Text.fold people.bot.name →
        (ofParticipants people).split? (people.user.name ++ ':' :: rest) =
          some (speaker, remainder)) ∧
      ((∀ role rest, (ofParticipants people).split? ((people.account role).name ++ ':' :: rest) =
          some ((people.account role).name, rest)) ↔
        ¬GoesOnFrom people.user.name people.bot.name ∧
          ¬GoesOnFrom people.bot.name people.user.name) := by
  refine ⟨split?_bot people, split?_user_iff people,
    fun rest speaker remainder hcut hfold => split?_user_of_bot people hcut hfold, ?_, ?_⟩
  · intro hown
    have huser := fun rest => (split?_user_iff people rest).1 (hown .user rest)
    constructor
    · intro hgoes
      obtain ⟨lead, more, hname, hlead⟩ := hgoes.exists_cut
      have hsame := huser [] lead (more ++ [':']) (by rw [hname]; simp) hlead
      have hlength := congrArg List.length (hname.symm.trans hsame.symm)
      rw [List.length_append, List.length_cons] at hlength
      omega
    · intro hgoes
      obtain ⟨lead, more, hname, hlead⟩ := hgoes.exists_cut
      have hfold : Text.fold (people.user.name ++ ':' :: more) = Text.fold people.bot.name := by
        rw [hname, Text.fold_append, Text.fold_append, hlead]
      have hsame := huser (more ++ [':']) (people.user.name ++ ':' :: more) [] (by simp) hfold
      have hlength := congrArg List.length hsame
      rw [List.length_append, List.length_cons] at hlength
      omega
  · rintro ⟨huser, hbot⟩ role rest
    cases role with
    | bot => exact split?_bot people rest
    | user =>
      refine (split?_user_iff people rest).2 fun speaker remainder hcut hfold => ?_
      rcases cut_cases hcut with hsame | ⟨more, hname⟩ | ⟨more, hspeaker⟩
      · exact hsame
      · refine absurd ⟨more, ?_⟩ huser
        rw [hname, Text.fold_append, hfold, ← Text.fold_append]
      · refine absurd ⟨more, ?_⟩ hbot
        rw [← hfold, hspeaker]

/-- The names `A` and `A:B` are accepted, and a line that starts with the second one and a colon is
cut behind the first one. -/
theorem not_split?_own_name :
    (Configuration.run {} [.directive "bot" "A", .directive "user" "A:B"]).participants =
        some (.ofNames "A" "A:B") ∧
      (ofParticipants (.ofNames "A" "A:B")).split? ("A:B" ++ ':' :: " hi") =
        some ("A".toList, "B: hi".toList) := by
  decide +kernel

end TurnPattern
end Colloquy
