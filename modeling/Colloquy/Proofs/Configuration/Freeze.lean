import Colloquy.Proofs.Configuration.Registry

/-!
# Locked configurations

Directives and locks can come in any order, and a directive that fails leaves a configuration too.
After a lock what is settled stays as it is, whatever comes: `frozen_run`. To state it again is
never refused as a change: `not_rebind_of_restates`.
-/

namespace Colloquy.Configuration

/-- What a configuration can be asked to do. -/
inductive Step where
  | directive (key value : Text)
  | lock
deriving DecidableEq, Repr

/-- The configuration after a step, also after a directive that fails. -/
def step (config : Configuration) : Step → Configuration
  | .directive key value => (config.apply key value).1
  | .lock => config.lock

/-- The configuration after some steps. -/
def run (config : Configuration) (steps : List Step) : Configuration := steps.foldl step config

variable {config later : Configuration} {key value : Text}

/-! ### What a lock keeps -/

/-- What is settled in a configuration is the same later on: participants and names that are there,
and the identifier of the conversation, which always is. -/
structure Frozen (config later : Configuration) : Prop where
  participants : ∀ people, config.participants = some people → later.participants = some people
  names : ∀ (role : Role) (current : Text), config.get? role.name = some current →
    later.get? role.name = some current
  channel : later.channel = config.channel

theorem Frozen.refl (config : Configuration) : Frozen config config :=
  ⟨fun _ hp => hp, fun _ _ hcurrent => hcurrent, rfl⟩

theorem Frozen.trans {latest : Configuration} (h : Frozen config later)
    (hlater : Frozen later latest) : Frozen config latest := by
  constructor
  · intro people hp
    exact hlater.participants people (h.participants people hp)
  · intro role current hcurrent
    exact hlater.names role current (h.names role current hcurrent)
  · exact hlater.channel.trans h.channel

theorem Founded.step (h : config.Founded) (request : Step) : (config.step request).Founded := by
  cases request with
  | directive key value => exact h.apply key value
  | lock => exact ⟨h.made, h.stored⟩

theorem Founded.run (h : config.Founded) (steps : List Step) : (config.run steps).Founded := by
  induction steps generalizing config with
  | nil => exact h
  | cons request rest ih => exact ih (h.step request)

theorem UpToDate.run (h : config.UpToDate) (hfounded : config.Founded) (steps : List Step) :
    (config.run steps).UpToDate := by
  induction steps generalizing config with
  | nil => exact h
  | cons request rest ih =>
    refine ih ?_ (hfounded.step request)
    cases request with
    | directive key value => exact h.apply hfounded key value
    | lock => exact h

/-- There is no way to undo a lock. -/
theorem locked_step (hlock : config.locked = true) (request : Step) :
    (config.step request).locked = true := by
  cases request with
  | directive key value => exact (locked_apply config key value).trans hlock
  | lock => rfl

theorem locked_run (hlock : config.locked = true) (steps : List Step) :
    (config.run steps).locked = true := by
  induction steps generalizing config with
  | nil => exact hlock
  | cons request rest ih => exact ih (locked_step hlock request)

theorem locked_run_of_mem {steps : List Step} (h : Step.lock ∈ steps) :
    (config.run steps).locked = true := by
  induction steps generalizing config with
  | nil => cases h
  | cons request rest ih =>
    rcases List.mem_cons.1 h with hfirst | hrest
    · rw [← hfirst]
      exact locked_run (rfl : config.lock.locked = true) rest
    · exact ih hrest

theorem Founded.frozen_step (h : config.Founded) (hlock : config.locked = true) (request : Step) :
    Frozen config (config.step request) := by
  cases request with
  | directive key value =>
    obtain ⟨hpeople, hchannel, hnames⟩ := h.apply_locked hlock key value
    exact ⟨hpeople, hnames, hchannel⟩
  | lock => exact ⟨fun _ hp => hp, fun _ _ hcurrent => hcurrent, rfl⟩

/-- Whatever comes after a lock, what is settled stays as it is. -/
theorem Founded.frozen_run (h : config.Founded) (hlock : config.locked = true)
    (steps : List Step) : Frozen config (config.run steps) := by
  induction steps generalizing config with
  | nil => exact .refl config
  | cons request rest ih =>
    exact (h.frozen_step hlock request).trans (ih (h.step request) (locked_step hlock request))

/-! ### Stating something again -/

/-- The value is what the configuration holds under the key of a name or of the conversation. -/
def Restates (config : Configuration) (key value : Text) : Prop :=
  (∃ role : Role, key = role.name ∧ config.get? key = some value) ∨
    (key = channelKey ∧ config.channel = value)

theorem changedName?_of_restates (h : config.Restates key value) :
    config.changedName? key value = none := by
  rcases h with ⟨role, rfl, hvalue⟩ | ⟨rfl, -⟩
  · simp [changedName?, roleOfKey?_name, hvalue]
  · rfl

theorem channel_of_restates (h : config.Restates key value) (hkey : key = channelKey) :
    config.channel = value := by
  rcases h with ⟨role, hname, -⟩ | ⟨-, hvalue⟩
  · exact absurd (hname.symm.trans hkey) (name_ne_channelKey role)
  · exact hvalue

/-- What restates a value can only be refused for its form. -/
theorem refusal?_of_restates (h : config.Restates key value) {cause : ConfigError}
    (hcause : config.refusal? key value = some cause) : cause = .malformed key value := by
  rw [refusal?] at hcause
  split at hcause
  · exact (Option.some.inj hcause).symm
  · split at hcause
    · simp only [changedName?_of_restates h] at hcause
      split at hcause
      · rename_i hchange
        exact absurd (channel_of_restates h hchange.1) hchange.2
      · cases hcause
    · cases hcause

/-- A directive that restates a value does not fail as a change of it. -/
theorem not_rebind_of_restates (h : config.Restates (Text.trim key) (Text.trim value))
    {cause : ConfigError} (hcause : (config.apply key value).2 = .error cause) :
    (∀ role current requested, cause ≠ .rebind role current requested) ∧
      ∀ current requested, cause ≠ .channelRebind current requested := by
  generalize hresult : config.apply key value = result at hcause
  have happlied := applied_apply config key value
  rw [hresult] at happlied
  cases happlied with
  | refused error hrefusal =>
    cases hcause
    rw [refusal?_of_restates h hrefusal]
    exact ⟨fun _ _ _ => by simp, fun _ _ => by simp⟩
  | stored _ _ => cases hcause
  | named role _ _ _ hsettled =>
    cases hsettled with
    | unnamed other _ => cases hcause
    | ambiguous bot user _ _ _ =>
      cases hcause
      exact ⟨fun _ _ _ => by simp, fun _ _ => by simp⟩
    | known other _ _ _ _ => cases hcause
    | made bot user _ _ _ _ => cases hcause

end Colloquy.Configuration
