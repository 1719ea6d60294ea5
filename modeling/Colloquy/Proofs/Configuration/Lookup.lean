import Colloquy.Proofs.Configuration.Freeze
import Colloquy.Proofs.Text.Folding

/-!
# Participants by their names

Directives accept two names that differ in more than the case of `A`–`Z`; the lookup forgets the case
of all letters. What it finds under the accepted names is said in `lookup_run`: always the user under
the name of the user, and the bot under the name of the bot exactly if the two names are `Distinct`,
as names of ASCII characters are. `É` and `é` are accepted and not distinct (`not_lookup_run`).
-/

namespace Colloquy

namespace Participants

variable {people : Participants} {token : Text}

/-! ### Declared names -/

/-- The names are different in lower case. -/
def Distinct (people : Participants) : Prop :=
  Text.lowercase people.bot.name ≠ Text.lowercase people.user.name

theorem distinct_of_ascii (h : Text.sameLetters people.bot.name people.user.name = false)
    (hascii : ∀ role, ∀ c ∈ (people.account role).name, c.toNat < 128) : people.Distinct := by
  intro hlower
  have hbot : Text.lowercase people.bot.name = _ := Text.lowercase_of_ascii (hascii .bot)
  have huser : Text.lowercase people.user.name = _ := Text.lowercase_of_ascii (hascii .user)
  rw [hbot, huser] at hlower
  rw [Text.sameLetters_iff.2 hlower] at h
  cases h

theorem byName?_eq (people : Participants) (token : Text) :
    people.byName? token =
      if Text.lowercase people.user.name = Text.lowercase token then some people.user
      else if Text.lowercase people.bot.name = Text.lowercase token then some people.bot
      else none := by
  simp only [byName?, List.find?_cons, List.find?_nil]
  split <;> split <;> simp_all

/-- A token for the user finds the user. -/
theorem byName?_user (h : Text.lowercase token = Text.lowercase people.user.name) :
    people.byName? token = some people.user := by
  rw [byName?_eq, if_pos h.symm]

/-- A token for the bot finds the bot, unless it is one for the user too. -/
theorem byName?_bot (hdistinct : people.Distinct)
    (h : Text.lowercase token = Text.lowercase people.bot.name) :
    people.byName? token = some people.bot := by
  rw [byName?_eq, if_neg, if_pos h.symm]
  exact fun huser => hdistinct (h.symm.trans huser.symm)

theorem byName?_of_not_distinct (hdistinct : ¬people.Distinct)
    (h : Text.lowercase token = Text.lowercase people.bot.name) :
    people.byName? token = some people.user :=
  byName?_user (h.trans (not_not.1 hdistinct))

/-! ### Keywords -/

theorem lowercase_name (role : Role) : Text.lowercase role.name = role.name := by
  cases role <;> decide +kernel

/-- What is lowered to a keyword is the keyword up to the case of `A`–`Z`. -/
theorem sameLetters_of_lowercase {role : Role} {name : Text}
    (h : Text.lowercase name = role.name) : Text.sameLetters name role.name = true := by
  have hletters : ∀ d ∈ role.name, d ∈ Text.keywordLetters := by
    cases role <;> exact List.all_iff_forall_prop.1 (by decide)
  have hname : Text.lowerAscii role.name = role.name := by
    cases role <;> decide
  rw [Text.sameLetters_iff, Text.lowerAscii_of_lowercase hletters h, hname]

/-- A declared name that is looked up like a keyword is that keyword too. -/
theorem sameLetters_of_lowercase_eq {role : Role} {name : Text}
    (hkeyword : Text.sameLetters token role.name = true)
    (h : Text.lowercase name = Text.lowercase token) : Text.sameLetters token name = true := by
  have hname : Text.sameLetters name role.name = true := by
    refine sameLetters_of_lowercase ?_
    rw [h, Text.lowercase_eq_of_sameLetters hkeyword, lowercase_name]
  rw [Text.sameLetters_comm] at hname
  exact Text.sameLetters_trans hkeyword hname

theorem keywordRole?_of_sameLetters {role : Role}
    (hkeyword : Text.sameLetters token role.name = true) : keywordRole? token = some role := by
  cases role with
  | bot => simp only [keywordRole?, List.find?_cons, hkeyword]
  | user =>
    have hbot : Text.sameLetters token Role.bot.name = false := by
      rw [Bool.eq_false_iff]
      intro hbot
      rw [Text.sameLetters_comm] at hbot
      exact absurd (Text.sameLetters_trans hbot hkeyword) (by decide)
    simp only [keywordRole?, List.find?_cons, hbot, hkeyword]

/-- A keyword that is no declared name stands for its side. -/
theorem speakerRole?_keyword {role : Role} (hkeyword : Text.sameLetters token role.name = true)
    (hnames : ∀ side, Text.sameLetters token (people.account side).name = false) :
    people.speakerRole? token = some role := by
  have hnot : ∀ side, Text.lowercase (people.account side).name ≠ Text.lowercase token := by
    intro side hlower
    have hsame := sameLetters_of_lowercase_eq hkeyword hlower
    rw [hnames side] at hsame
    cases hsame
  have hnone : people.byName? token = none := by
    have huser : Text.lowercase people.user.name ≠ Text.lowercase token := hnot .user
    have hbot : Text.lowercase people.bot.name ≠ Text.lowercase token := hnot .bot
    rw [byName?_eq, if_neg huser, if_neg hbot]
  have hrole : keywordRole? token = some role := keywordRole?_of_sameLetters hkeyword
  rw [speakerRole?, hnone, hrole]
  rfl

theorem speakerRole?_of_byName? {account : Account} (h : people.byName? token = some account) :
    people.speakerRole? token = some account.role := by
  rw [speakerRole?, h]
  rfl

end Participants

namespace Configuration

/-! ### Directives -/

/-- Whatever the directives, the user is found under the name of the user, and the bot under that of
the bot exactly if the names are distinct; a keyword that is neither of the names stands for its
side. -/
theorem lookup_run {steps : List Step} {people : Participants}
    (hpeople : (run {} steps).participants = some people) :
    people.byName? people.user.name = some people.user ∧
      (∀ token, Text.sameLetters token people.user.name = true →
        people.speakerRole? token = some .user) ∧
      (people.byName? people.bot.name = some people.bot ↔ people.Distinct) ∧
      ((∀ token, Text.sameLetters token people.bot.name = true →
        people.speakerRole? token = some .bot) ↔ people.Distinct) ∧
      (∀ (role : Role) (token : Text), Text.sameLetters token role.name = true →
        (∀ side, Text.sameLetters token (people.account side).name = false) →
        people.speakerRole? token = some role) ∧
      ((∀ role, ∀ c ∈ (people.account role).name, c.toNat < 128) → people.Distinct) := by
  obtain ⟨bot, user, rfl, hletters⟩ := (founded_empty.run steps).made people hpeople
  set people := Participants.ofNames bot user
  refine ⟨Participants.byName?_user rfl, ?_, ⟨?_, ?_⟩, ⟨?_, ?_⟩, ?_, ?_⟩
  · intro token htoken
    exact Participants.speakerRole?_of_byName?
      (Participants.byName?_user (Text.lowercase_eq_of_sameLetters htoken))
  · intro hbot
    by_contra hdistinct
    rw [Participants.byName?_of_not_distinct hdistinct rfl] at hbot
    have hrole : Role.user = Role.bot := congrArg Account.role (Option.some.inj hbot)
    cases hrole
  · exact fun hdistinct => Participants.byName?_bot hdistinct rfl
  · intro hbot
    by_contra hdistinct
    have hrole := hbot people.bot.name (Text.sameLetters_refl _)
    rw [Participants.speakerRole?_of_byName?
      (Participants.byName?_of_not_distinct hdistinct rfl)] at hrole
    have hrole : Role.user = Role.bot := Option.some.inj hrole
    cases hrole
  · intro hdistinct token htoken
    exact Participants.speakerRole?_of_byName?
      (Participants.byName?_bot hdistinct (Text.lowercase_eq_of_sameLetters htoken))
  · exact fun role token hkeyword hnames => Participants.speakerRole?_keyword hkeyword hnames
  · exact Participants.distinct_of_ascii hletters

/-- A bot by the name of the other side's keyword is meant by that word. -/
theorem lookup_run_namesake :
    (Participants.ofNames "USER" "Zoë").byName? "USER" = some (.ofName .bot "USER") ∧
      (Participants.ofNames "USER" "Zoë").speakerRole? "user" = some .bot ∧
      (Participants.ofNames "USER" "Zoë").speakerRole? "ZOë" = some .user ∧
      (Participants.ofNames "USER" "Zoë").speakerRole? "Bot" = some .bot := by
  obtain ⟨-, huser, hbot, htokens, hkeywords, -⟩ := @lookup_run
    [.directive "user" "Zoë", .lock, .directive "bot" "USER", .directive "bot" "zoë"]
    (.ofNames "USER" "Zoë") (by decide +kernel)
  have hdistinct : (Participants.ofNames "USER" "Zoë").Distinct := by
    have hlower : Text.lowercase "USER" ≠ Text.lowercase "Zoë" := by decide +kernel
    exact hlower
  have hnames : ∀ side, Text.sameLetters "Bot" ((Participants.ofNames "USER" "Zoë").account side).name =
      false := by
    rintro (_ | _) <;> decide
  exact ⟨hbot.2 hdistinct, htokens.2 hdistinct _ (by decide), huser _ (by decide),
    hkeywords .bot _ (by decide) hnames⟩

/-- The names `É` and `é` are accepted, and the bot's name finds the user. -/
theorem not_lookup_run :
    (run {} [.directive "bot" "É", .directive "user" "é"]).participants =
        some (.ofNames "É" "é") ∧
      (Participants.ofNames "É" "é").byName? "É" = some (.ofName .user "é") ∧
      (Participants.ofNames "É" "é").speakerRole? "É" = some .user := by
  decide +kernel

end Configuration

end Colloquy
