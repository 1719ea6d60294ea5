import Colloquy.Participants
import Colloquy.Text.Blank

/-!
# Configuration

What directives have set: values by key, of which the names of the two sides and the identifier of
the conversation mean something. The participants are made when both names are known and differ
by more than letter case. When a conversation has started the configuration is locked: the three
values may be stated again, but not changed.

`apply` gives the configuration that a directive leaves together with its outcome, since a
directive that makes the names ambiguous fails after its value has been stored.
-/

namespace Colloquy

/-- Why a directive fails. -/
inductive ConfigError where
  | malformed (key value : Text)
  | ambiguous (name : Text)
  | rebind (role : Role) (current requested : Text)
  | channelRebind (current requested : Text)
deriving DecidableEq, Repr

/-- The wording of an error. -/
def ConfigError.message : ConfigError → Text
  | malformed key value => Text.concat
      ["options must be in the format optionName=optionValue (found a second '=' in '", key, "=",
        value, "')"]
  | ambiguous name => Text.concat
      ["bot and user must have different names (both are '", name, "')"]
  | rebind role current requested => Text.concat
      [role.name, " is already '", current, "' and cannot be renamed to '", requested,
        "' once the conversation has started"]
  | channelRebind current requested => Text.concat
      ["channelId is already '", current, "' and cannot change to '", requested,
        "' once the conversation has started"]

/-- What directives have set. -/
structure Configuration where
  /-- The values by key, the last one stored first. -/
  values : List (Text × Text) := []
  participants : Option Participants := none
  locked : Bool := false
deriving DecidableEq, Repr

namespace Configuration

/-- The key of the identifier of the conversation. -/
def channelKey : Text := "channelId"

/-- The identifier of a conversation that is given none. -/
def defaultChannel : Text := "1"

/-- The value of a key. -/
def get? (config : Configuration) (key : Text) : Option Text :=
  (config.values.find? fun entry => entry.1 == key).map Prod.snd

/-- The configuration with a value stored. -/
def store (config : Configuration) (key value : Text) : Configuration :=
  { config with values := (key, value) :: config.values.filter fun entry => entry.1 != key }

/-- The identifier of the conversation. -/
def channel (config : Configuration) : Text := (config.get? channelKey).getD defaultChannel

/-- No change of the names and the conversation from here on. -/
def lock (config : Configuration) : Configuration := { config with locked := true }

/-- The side whose name a key sets. -/
def roleOfKey? (key : Text) : Option Role := [Role.bot, Role.user].find? fun role => role.name == key

/-- The name of a side that would change if a key got a value. -/
def changedName? (config : Configuration) (key value : Text) : Option (Role × Text) := do
  let role ← roleOfKey? key
  let current ← config.get? key
  if current = value then none else some (role, current)

/-- Why a value cannot even be stored. -/
def refusal? (config : Configuration) (key value : Text) : Option ConfigError :=
  if value.contains '=' then some (.malformed key value)
  else if config.locked then
    match config.changedName? key value with
    | some (role, current) => some (.rebind role current value)
    | none =>
      if key = channelKey ∧ config.channel ≠ value then
        some (.channelRebind config.channel value)
      else none
  else none

/-- Makes the participants from the stored names. The outcome is whether they are new. -/
def settle (config : Configuration) : Configuration × Except ConfigError Bool :=
  match config.get? Role.bot.name, config.get? Role.user.name with
  | some bot, some user =>
    if Text.sameLetters bot user then (config, .error (.ambiguous bot))
    else if config.participants.any fun known => known.bot.name == bot && known.user.name == user then
      (config, .ok false)
    else ({ config with participants := some (.ofNames bot user) }, .ok true)
  | _, _ => (config, .ok false)

/-- Stores a value under a key, both without blanks at their ends. The outcome is whether the
participants are new. -/
def apply (config : Configuration) (key value : Text) : Configuration × Except ConfigError Bool :=
  let key := Text.trim key
  let value := Text.trim value
  match config.refusal? key value with
  | some error => (config, .error error)
  | none =>
    let stored := config.store key value
    if (roleOfKey? key).isSome then stored.settle else (stored, .ok false)

/-- The value that has been stored under a key is its value, and others keep theirs. -/
theorem get?_store (config : Configuration) (key value other : Text) :
    (config.store key value).get? other = if other = key then some value else config.get? other := by
  simp only [get?, store, List.find?_cons]
  by_cases h : other = key
  · simp [h]
  · have hne : (key == other) = false := by simp [Ne.symm h]
    simp only [hne, if_neg h]
    congr 1
    induction config.values with
    | nil => rfl
    | cons entry rest ih =>
      by_cases he : entry.1 = key
      · have hother : (entry.1 == other) = false := by simp [he, Ne.symm h]
        simp [he, hne, ih]
      · simp only [List.filter_cons, bne_iff_ne, ne_eq, he, not_false_eq_true, if_true,
          List.find?_cons, ih]

@[simp] theorem participants_store (config : Configuration) (key value : Text) :
    (config.store key value).participants = config.participants := rfl

@[simp] theorem locked_store (config : Configuration) (key value : Text) :
    (config.store key value).locked = config.locked := rfl

end Configuration

end Colloquy
