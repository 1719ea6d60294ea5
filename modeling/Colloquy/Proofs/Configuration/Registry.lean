import Mathlib.Tactic.ByContra
import Colloquy.Configuration

/-!
# What a configuration keeps

A configuration is founded if its participants are made from names that can be told apart and are
the stored names unless these cannot; it is coherent if there are participants besides once it is
locked. Directives keep it founded and coherent, directives that fail included (`Founded.apply`,
`Coherent.apply`). From the lock on no directive changes participants that are there, a stored name
or the identifier of the conversation (`Founded.apply_locked`), so in a coherent configuration none
of them changes at all (`Coherent.apply_locked`). Also, directives leave the participants up to date:
two stored names that can be told apart are theirs (`UpToDate.apply`).
-/

namespace Colloquy.Configuration

variable {config : Configuration} {key value : Text}

/-! ### What a directive can do -/

theorem roleOfKey?_name (role : Role) : roleOfKey? role.name = some role := by
  cases role <;> decide

theorem name_of_roleOfKey? {role : Role} (h : roleOfKey? key = some role) : role.name = key := by
  rw [roleOfKey?] at h
  have hfound := List.find?_some h
  simpa using hfound

theorem name_ne_channelKey (role : Role) : role.name ≠ channelKey := by
  cases role <;> decide

/-- How the participants are made from the stored names, case by case. -/
inductive Settled (config : Configuration) : Configuration × Except ConfigError Bool → Prop
  | unnamed (role : Role) : config.get? role.name = none → Settled config (config, .ok false)
  | ambiguous (bot user : Text) : config.get? Role.bot.name = some bot →
      config.get? Role.user.name = some user → Text.sameLetters bot user = true →
      Settled config (config, .error (.ambiguous bot))
  | known (people : Participants) : config.participants = some people →
      config.get? Role.bot.name = some people.bot.name →
      config.get? Role.user.name = some people.user.name →
      Text.sameLetters people.bot.name people.user.name = false → Settled config (config, .ok false)
  | made (bot user : Text) : config.get? Role.bot.name = some bot →
      config.get? Role.user.name = some user → Text.sameLetters bot user = false →
      (∀ people, config.participants = some people →
        ¬(people.bot.name = bot ∧ people.user.name = user)) →
      Settled config ({ config with participants := some (.ofNames bot user) }, .ok true)

theorem settled_settle (config : Configuration) : Settled config config.settle := by
  rw [settle]
  cases hbot : config.get? Role.bot.name with
  | none => exact .unnamed .bot hbot
  | some bot =>
    cases huser : config.get? Role.user.name with
    | none => exact .unnamed .user huser
    | some user =>
      simp only
      split
      · rename_i hsame
        exact .ambiguous bot user hbot huser hsame
      · rename_i hsame
        rw [Bool.not_eq_true] at hsame
        cases hp : config.participants with
        | none =>
          refine .made bot user hbot huser hsame ?_
          intro people hpeople
          rw [hp] at hpeople
          cases hpeople
        | some people =>
          by_cases hnames : people.bot.name = bot ∧ people.user.name = user
          · obtain ⟨rfl, rfl⟩ := hnames
            simp only [Option.any_some, beq_self_eq_true, Bool.and_self, if_true]
            exact .known people hp hbot huser hsame
          · rw [if_neg (by simpa using hnames)]
            refine .made bot user hbot huser hsame ?_
            intro other hother
            rw [hp] at hother
            cases hother
            exact hnames

/-- What a directive does, case by case: it is refused, or its value is stored; only the keys of
the two names go on to make the participants. -/
inductive Applied (config : Configuration) (key value : Text) :
    Configuration × Except ConfigError Bool → Prop
  | refused (error : ConfigError) : config.refusal? key value = some error →
      Applied config key value (config, .error error)
  | stored : config.refusal? key value = none → roleOfKey? key = none →
      Applied config key value (config.store key value, .ok false)
  | named (role : Role) (result : Configuration × Except ConfigError Bool) : key = role.name →
      config.refusal? key value = none → Settled (config.store key value) result →
      Applied config key value result

theorem applied_apply (config : Configuration) (key value : Text) :
    Applied config (Text.trim key) (Text.trim value) (config.apply key value) := by
  simp only [apply]
  cases hrefusal : config.refusal? (Text.trim key) (Text.trim value) with
  | some error => exact .refused error hrefusal
  | none =>
    cases hrole : roleOfKey? (Text.trim key) with
    | none => exact .stored hrefusal hrole
    | some role =>
      exact .named role _ (name_of_roleOfKey? hrole).symm hrefusal (settled_settle _)

/-- A directive that is not refused fails only because the stored names are the same letters. -/
theorem ambiguous_of_apply {cause : ConfigError}
    (hrefusal : config.refusal? (Text.trim key) (Text.trim value) = none)
    (h : (config.apply key value).2 = .error cause) :
    ∃ bot user, cause = .ambiguous bot ∧
      (config.store (Text.trim key) (Text.trim value)).get? Role.bot.name = some bot ∧
      (config.store (Text.trim key) (Text.trim value)).get? Role.user.name = some user ∧
      Text.sameLetters bot user = true := by
  have happlied := applied_apply config key value
  generalize config.apply key value = result at h happlied
  cases happlied with
  | refused error herror => cases hrefusal.symm.trans herror
  | stored _ _ => cases h
  | named role _ _ _ hsettled =>
    cases hsettled with
    | unnamed other _ => cases h
    | ambiguous bot user hbot huser hletters =>
      cases h
      exact ⟨bot, user, rfl, hbot, huser, hletters⟩
    | known people _ _ _ _ => cases h
    | made bot user _ _ _ _ => cases h

/-! ### Stored names -/

theorem get?_store_of_ne (config : Configuration) {key other : Text} (value : Text)
    (hne : key ≠ other) : (config.store key value).get? other = config.get? other := by
  rw [get?_store, if_neg (Ne.symm hne)]

/-- A stored name of a side that was stored already is stored still. -/
theorem isSome_get?_store (config : Configuration) {key value other current : Text}
    (h : config.get? other = some current) :
    ∃ next, (config.store key value).get? other = some next := by
  rw [get?_store]
  split
  · exact ⟨value, rfl⟩
  · exact ⟨current, h⟩

/-- The participants are made from two names that can be told apart, and are the stored names
unless these cannot be told apart. -/
structure Founded (config : Configuration) : Prop where
  made : ∀ people, config.participants = some people →
    ∃ bot user, people = .ofNames bot user ∧ Text.sameLetters bot user = false
  stored : ∀ people, config.participants = some people →
    ∃ bot user, config.get? Role.bot.name = some bot ∧ config.get? Role.user.name = some user ∧
      ((people.bot.name = bot ∧ people.user.name = user) ∨ Text.sameLetters bot user = true)

theorem founded_empty : Founded {} := by
  constructor
  · intro people h
    cases h
  · intro people h
    cases h

theorem Founded.store (h : config.Founded) (hrole : roleOfKey? key = none) :
    (config.store key value).Founded := by
  have hne : ∀ role : Role, key ≠ role.name := by
    intro role hkey
    rw [hkey, roleOfKey?_name] at hrole
    cases hrole
  refine ⟨h.made, ?_⟩
  intro people hp
  obtain ⟨bot, user, hbot, huser, hnames⟩ := h.stored people hp
  refine ⟨bot, user, ?_, ?_, hnames⟩
  · rw [get?_store_of_ne config value (hne .bot), hbot]
  · rw [get?_store_of_ne config value (hne .user), huser]

/-- Making the participants after a name has been stored makes them those of the stored names. -/
theorem Founded.settled {role : Role} (h : config.Founded)
    {result : Configuration × Except ConfigError Bool}
    (hresult : Settled (config.store role.name value) result) : result.1.Founded := by
  have hnamed : ∀ people, config.participants = some people → ∀ other : Role,
      ∃ name, (config.store role.name value).get? other.name = some name := by
    intro people hp other
    obtain ⟨bot, user, hbot, huser, -⟩ := h.stored people hp
    cases other with
    | bot => exact isSome_get?_store config hbot
    | user => exact isSome_get?_store config huser
  cases hresult with
  | unnamed other hnone =>
    refine ⟨h.made, ?_⟩
    intro people hp
    obtain ⟨name, hsome⟩ := hnamed people hp other
    rw [hnone] at hsome
    cases hsome
  | ambiguous bot user hbot huser hsame =>
    exact ⟨h.made, fun people _ => ⟨bot, user, hbot, huser, .inr hsame⟩⟩
  | known people hp hbot huser hsame =>
    refine ⟨h.made, ?_⟩
    intro other hother
    have heq : people = other := by
      rw [hp] at hother
      exact Option.some.inj hother
    exact ⟨people.bot.name, people.user.name, hbot, huser, .inl ⟨by rw [heq], by rw [heq]⟩⟩
  | made bot user hbot huser hsame _ =>
    constructor
    · intro people hp
      exact ⟨bot, user, (Option.some.inj hp).symm, hsame⟩
    · intro people hp
      rw [← Option.some.inj hp]
      exact ⟨bot, user, hbot, huser, .inl ⟨rfl, rfl⟩⟩

/-- A directive, also one that fails, leaves the participants those of the stored names. -/
theorem Founded.apply (h : config.Founded) (key value : Text) :
    (config.apply key value).1.Founded := by
  generalize hresult : config.apply key value = result
  have happlied := applied_apply config key value
  rw [hresult] at happlied
  cases happlied with
  | refused error _ => exact h
  | stored _ hrole => exact h.store hrole
  | named role _ hkey _ hsettled =>
    rw [hkey] at hsettled
    exact h.settled hsettled

/-! ### Participants of the stored names -/

/-- The participants are made from the stored names, if there are two and they can be told apart. -/
def UpToDate (config : Configuration) : Prop :=
  ∀ bot user, config.get? Role.bot.name = some bot → config.get? Role.user.name = some user →
    Text.sameLetters bot user = false → config.participants = some (.ofNames bot user)

theorem upToDate_empty : UpToDate {} := by
  intro bot user hbot
  cases hbot

theorem UpToDate.store (h : config.UpToDate) (hrole : roleOfKey? key = none) :
    (config.store key value).UpToDate := by
  have hne : ∀ role : Role, key ≠ role.name := by
    intro role hkey
    rw [hkey, roleOfKey?_name] at hrole
    cases hrole
  intro bot user hbot huser
  rw [get?_store_of_ne config value (hne .bot)] at hbot
  rw [get?_store_of_ne config value (hne .user)] at huser
  exact h bot user hbot huser

/-- Whatever has been stored, the participants are up to date once they are settled. -/
theorem upToDate_of_settled {stored : Configuration}
    {result : Configuration × Except ConfigError Bool}
    (hmade : ∀ people, stored.participants = some people → ∃ bot user, people = .ofNames bot user)
    (hsettled : Settled stored result) : result.1.UpToDate := by
  intro bot user hbot huser hletters
  cases hsettled with
  | unnamed role hnone =>
    cases role with
    | bot => cases hnone.symm.trans hbot
    | user => cases hnone.symm.trans huser
  | ambiguous bot' user' hbot' huser' hsame =>
    cases hbot'.symm.trans hbot
    cases huser'.symm.trans huser
    rw [hsame] at hletters
    cases hletters
  | known people hpeople hbot' huser' _ =>
    obtain ⟨b, u, rfl⟩ := hmade people hpeople
    cases hbot'.symm.trans hbot
    cases huser'.symm.trans huser
    exact hpeople
  | made bot' user' hbot' huser' _ _ =>
    cases hbot'.symm.trans hbot
    cases huser'.symm.trans huser
    rfl

theorem UpToDate.apply (h : config.UpToDate) (hfounded : config.Founded) (key value : Text) :
    (config.apply key value).1.UpToDate := by
  have happlied := applied_apply config key value
  generalize config.apply key value = result at happlied ⊢
  cases happlied with
  | refused error _ => exact h
  | stored _ hrole => exact h.store hrole
  | named role _ _ _ hsettled =>
    refine upToDate_of_settled ?_ hsettled
    intro people hpeople
    obtain ⟨bot, user, hnames, -⟩ := hfounded.made people hpeople
    exact ⟨bot, user, hnames⟩

/-! ### Coherence -/

/-- A founded configuration that has participants once it is locked. -/
structure Coherent (config : Configuration) : Prop extends Founded config where
  known : config.locked = true → ∃ people, config.participants = some people

theorem coherent_empty : Coherent {} := by
  refine ⟨founded_empty, ?_⟩
  intro h
  cases h

/-- The accounts are those of their names. -/
theorem Coherent.account (h : config.Coherent) {people : Participants}
    (hp : config.participants = some people) (role : Role) :
    people.account role = .ofName role (people.account role).name := by
  obtain ⟨bot, user, rfl, -⟩ := h.made people hp
  cases role <;> rfl

theorem Coherent.names_ne (h : config.Coherent) {people : Participants}
    (hp : config.participants = some people) : people.bot.name ≠ people.user.name := by
  obtain ⟨bot, user, rfl, hletters⟩ := h.made people hp
  intro hsame
  have hbot : bot = user := hsame
  rw [hbot, Text.sameLetters_refl] at hletters
  cases hletters

theorem Coherent.lock (h : config.Coherent) {people : Participants}
    (hp : config.participants = some people) : config.lock.Coherent :=
  ⟨⟨h.made, h.stored⟩, fun _ => ⟨people, hp⟩⟩

/-- Participants can be replaced by others but not lost. -/
theorem exists_participants_apply {people : Participants} (hp : config.participants = some people)
    (key value : Text) : ∃ other, (config.apply key value).1.participants = some other := by
  generalize hresult : config.apply key value = result
  have happlied := applied_apply config key value
  rw [hresult] at happlied
  cases happlied with
  | refused error _ => exact ⟨people, hp⟩
  | stored _ _ => exact ⟨people, hp⟩
  | named role _ _ _ hsettled =>
    cases hsettled with
    | unnamed other _ => exact ⟨people, hp⟩
    | ambiguous bot user _ _ _ => exact ⟨people, hp⟩
    | known other hother _ _ _ => exact ⟨other, hother⟩
    | made bot user _ _ _ _ => exact ⟨_, rfl⟩

@[simp] theorem locked_apply (config : Configuration) (key value : Text) :
    (config.apply key value).1.locked = config.locked := by
  generalize hresult : config.apply key value = result
  have happlied := applied_apply config key value
  rw [hresult] at happlied
  cases happlied with
  | refused error _ => rfl
  | stored _ _ => rfl
  | named role _ _ _ hsettled => cases hsettled <;> rfl

/-- A directive keeps a configuration coherent, also one that fails. -/
theorem Coherent.apply (h : config.Coherent) (key value : Text) :
    (config.apply key value).1.Coherent := by
  refine ⟨h.toFounded.apply key value, ?_⟩
  intro hlocked
  rw [locked_apply] at hlocked
  obtain ⟨people, hp⟩ := h.known hlocked
  exact exists_participants_apply hp key value

/-! ### The lock -/

/-- What a locked configuration does not refuse restates what it holds. -/
theorem restates_of_refusal?_eq_none (hlock : config.locked = true)
    (h : config.refusal? key value = none) :
    (∀ role : Role, key = role.name → ∀ current, config.get? key = some current →
      current = value) ∧ (key = channelKey → config.channel = value) := by
  rw [refusal?] at h
  split at h
  · cases h
  · cases hchanged : config.changedName? key value with
    | some change =>
      rw [hchanged] at h
      cases h
    | none =>
      simp only [hchanged] at h
      refine ⟨?_, ?_⟩
      · intro role hkey current hcurrent
        by_contra hne
        rw [hkey] at hcurrent hchanged
        simp [changedName?, roleOfKey?_name, hcurrent, hne] at hchanged
      · intro hkey
        by_contra hne
        rw [if_pos ⟨hkey, hne⟩] at h
        cases h

theorem get?_store_of_refusal? (hlock : config.locked = true)
    (hrefusal : config.refusal? key value = none) {role : Role} {current : Text}
    (hcurrent : config.get? role.name = some current) :
    (config.store key value).get? role.name = some current := by
  rw [get?_store]
  split
  · rename_i hkey
    rw [hkey] at hcurrent
    rw [(restates_of_refusal?_eq_none hlock hrefusal).1 role hkey.symm current hcurrent]
  · exact hcurrent

theorem channel_store_of_refusal? (hlock : config.locked = true)
    (hrefusal : config.refusal? key value = none) :
    (config.store key value).channel = config.channel := by
  by_cases hkey : key = channelKey
  · have hvalue := (restates_of_refusal?_eq_none hlock hrefusal).2 hkey
    rw [hkey, channel, get?_store, if_pos rfl, ← hvalue]
    rfl
  · rw [channel, get?_store_of_ne config _ hkey, channel]

/-- A directive to a locked configuration changes neither the participants nor a stored name nor
the identifier of the conversation; it can only add what is still missing. -/
theorem Founded.apply_locked (h : config.Founded) (hlock : config.locked = true)
    (key value : Text) :
    (∀ people, config.participants = some people →
        (config.apply key value).1.participants = some people) ∧
      (config.apply key value).1.channel = config.channel ∧
      ∀ (role : Role) (current : Text), config.get? role.name = some current →
        (config.apply key value).1.get? role.name = some current := by
  generalize hresult : config.apply key value = result
  have happlied := applied_apply config key value
  rw [hresult] at happlied
  cases happlied with
  | refused error _ => exact ⟨fun _ hp => hp, rfl, fun _ _ hcurrent => hcurrent⟩
  | stored hrefusal _ =>
    exact ⟨fun _ hp => hp, channel_store_of_refusal? hlock hrefusal,
      fun _ _ hcurrent => get?_store_of_refusal? hlock hrefusal hcurrent⟩
  | named role _ _ hrefusal hsettled =>
    have hchannel := channel_store_of_refusal? hlock hrefusal
    have hkept : ∀ (other : Role) (current : Text), config.get? other.name = some current →
        (config.store (Text.trim key) (Text.trim value)).get? other.name = some current :=
      fun _ _ hcurrent => get?_store_of_refusal? hlock hrefusal hcurrent
    cases hsettled with
    | unnamed other _ => exact ⟨fun _ hp => hp, hchannel, hkept⟩
    | ambiguous bot user _ _ _ => exact ⟨fun _ hp => hp, hchannel, hkept⟩
    | known other _ _ _ _ => exact ⟨fun _ hp => hp, hchannel, hkept⟩
    | made bot user hbot huser hsame hnew =>
      refine ⟨?_, hchannel, hkept⟩
      intro people hp
      obtain ⟨first, second, hfirst, hsecond, hnames⟩ := h.stored people hp
      rw [hkept .bot first hfirst] at hbot
      rw [hkept .user second hsecond] at huser
      cases hbot
      cases huser
      rcases hnames with hnames | hambiguous
      · exact absurd hnames (hnew people hp)
      · rw [hsame] at hambiguous
        cases hambiguous

/-- In a coherent configuration that is locked nothing is missing, so nothing changes. -/
theorem Coherent.apply_locked (h : config.Coherent) (hlock : config.locked = true)
    (key value : Text) :
    (config.apply key value).1.participants = config.participants ∧
      (config.apply key value).1.channel = config.channel ∧
      ∀ role : Role, (config.apply key value).1.get? role.name = config.get? role.name := by
  obtain ⟨hpeople, hchannel, hnames⟩ := h.toFounded.apply_locked hlock key value
  obtain ⟨people, hp⟩ := h.known hlock
  obtain ⟨bot, user, hbot, huser, -⟩ := h.stored people hp
  refine ⟨?_, hchannel, ?_⟩
  · rw [hpeople people hp, hp]
  · intro role
    cases role with
    | bot => rw [hnames .bot bot hbot, hbot]
    | user => rw [hnames .user user huser, huser]

/-- Only a directive that says so changes the participants. -/
theorem participants_apply (h : (config.apply key value).2 ≠ .ok true) :
    (config.apply key value).1.participants = config.participants := by
  generalize hresult : config.apply key value = result
  have happlied := applied_apply config key value
  rw [hresult] at happlied h
  cases happlied with
  | refused error _ => rfl
  | stored _ _ => rfl
  | named role _ _ _ hsettled =>
    cases hsettled with
    | unnamed other _ => rfl
    | ambiguous b u _ _ _ => rfl
    | known other _ _ _ _ => rfl
    | made b u _ _ _ _ => exact absurd rfl h

/-- A directive says that the participants are new exactly if they have been replaced. -/
theorem apply_eq_ok_true_iff :
    (config.apply key value).2 = .ok true ↔
      (config.apply key value).1.participants ≠ config.participants := by
  constructor
  · intro h
    have happlied := applied_apply config key value
    generalize config.apply key value = result at h happlied
    cases happlied with
    | refused error _ => cases h
    | stored _ _ => cases h
    | named role _ _ _ hsettled =>
      cases hsettled with
      | unnamed other _ => cases h
      | ambiguous bot user _ _ _ => cases h
      | known people _ _ _ _ => cases h
      | made bot user _ _ _ hnew => exact fun hsame => hnew _ hsame.symm ⟨rfl, rfl⟩
  · intro h
    by_contra hold
    exact h (participants_apply hold)

end Colloquy.Configuration
