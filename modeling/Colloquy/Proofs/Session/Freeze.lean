import Colloquy.Proofs.Configuration.Freeze
import Colloquy.Proofs.Session.Validity

/-!
# Conversations that have begun

Whatever a session does to its configuration are directives and locks (`exists_run_of_moves`), and
the first turn locks it. So from the first turn on nothing changes that the activities of a
conversation share, in whatever order calls and failures come: `conversation_frozen`.
-/

namespace Colloquy.Session

variable {scene : Scene} {delays : Int → Prop} {session next : Session}

/-! ### Sessions and their configurations -/

theorem exists_run_of_move (hmove : Move scene delays session next) :
    ∃ steps, next.config = session.config.run steps := by
  cases hmove with
  | read line => exact ⟨[], rfl⟩
  | direct key value => exact ⟨[.directive key value], config_directed session key value⟩
  | warn warning => exact ⟨[], rfl⟩
  | stamp gap _ => exact ⟨[], rfl⟩
  | append activity fragment _ _ => exact ⟨[], rfl⟩
  | attach activity argument attachment _ _ => exact ⟨[], rfl⟩
  | arrange activity layout _ => exact ⟨[], rfl⟩
  | turn people speaker role _ _ =>
    refine ⟨[.lock], ?_⟩
    simp [turned, openActivity, Configuration.run, Configuration.step]
  | split activity kind _ => exact ⟨[], config_close session⟩

/-- The configuration that moves lead to is one that directives and locks lead to. -/
theorem exists_run_of_moves (hmoves : Moves scene delays session next) :
    ∃ steps, next.config = session.config.run steps := by
  induction hmoves with
  | refl => exact ⟨[], rfl⟩
  | tail _ hmove ih =>
    obtain ⟨steps, hsteps⟩ := ih
    obtain ⟨more, hmore⟩ := exists_run_of_move hmove
    refine ⟨steps ++ more, ?_⟩
    rw [hmore, hsteps, Configuration.run, Configuration.run, Configuration.run, List.foldl_append]

/-! ### From the first turn on -/

/-- Participants, names and conversation are the same in a later session. -/
structure Frozen (session later : Session) : Prop where
  participants : later.config.participants = session.config.participants
  names : ∀ role : Role, later.config.get? role.name = session.config.get? role.name
  channel : later.config.channel = session.config.channel

theorem headers_ne_nil_of_opened (h : session.Numbered scene) (hopened : 0 < session.opened) :
    session.headers ≠ [] := by
  intro hnil
  have hlength := congrArg List.length h
  rw [hnil, List.map_nil, List.length_nil, List.length_map, List.length_range] at hlength
  omega

/-- Once an activity has been opened the configuration is locked and coherent, and has nothing left
that could be added to it. -/
theorem Governed.frozen_moves (h : session.Governed) (hbegun : session.headers ≠ [])
    (hmoves : Moves scene delays session next) : Frozen session next := by
  obtain ⟨steps, hsteps⟩ := exists_run_of_moves hmoves
  have hlock := h.locked hbegun
  have hfrozen := h.coherent.toFounded.frozen_run hlock steps
  rw [← hsteps] at hfrozen
  obtain ⟨people, hpeople⟩ := h.coherent.known hlock
  obtain ⟨bot, user, hbot, huser, -⟩ := h.coherent.stored people hpeople
  constructor
  · rw [hfrozen.participants people hpeople, hpeople]
  · intro role
    cases role with
    | bot => rw [hfrozen.names .bot bot hbot, hbot]
    | user => rw [hfrozen.names .user user huser, huser]
  · exact hfrozen.channel

/-- All activities of a governed session that has begun are between the same two accounts, in the
one conversation. -/
theorem Governed.activities_finish (h : session.Governed) {people : Participants}
    (hpeople : session.config.participants = some people) :
    ∀ activity ∈ session.finish.activities, activity.conversation = session.config.channel ∧
      ∃ role, activity.sender = people.account role ∧
        activity.recipient = people.account role.opposite := by
  intro activity hmem
  have hheader : activity.header ∈ session.headers := view_mem_of_mem_finish (fun _ _ => rfl) hmem
  obtain ⟨other, role, hother, hsender, hrecipient⟩ := h.sides _ hheader
  rw [hpeople] at hother
  cases hother
  exact ⟨h.conversations _ hheader, role, hsender, hrecipient⟩

/-- From the first turn on no call, failed ones included, changes participants, stored names or
conversation, so all activities ever share them. For a configuration on its own, whatever is
settled after a lock stays as it is through all directives and locks, and at no time is a value
that is stated again refused as a change. -/
theorem conversation_frozen :
    (∀ (world : World) (options : Options) (first : Session) (calls more : List Call),
        Session.start world.now options = .ok first →
        0 < (first.run (world.scene options) calls).opened →
        Frozen (first.run (world.scene options) calls)
            ((first.run (world.scene options) calls).run (world.scene options) more) ∧
          ∃ people,
            (first.run (world.scene options) calls).config.participants = some people ∧
              ∀ activity ∈ ((first.run (world.scene options) calls).run (world.scene options)
                  more).finish.activities,
                activity.conversation = (first.run (world.scene options) calls).config.channel ∧
                  ∃ role, activity.sender = people.account role ∧
                    activity.recipient = people.account role.opposite) ∧
      ∀ steps more : List Configuration.Step,
        (.lock ∈ steps →
          Configuration.Frozen (Configuration.run {} steps)
            ((Configuration.run {} steps).run more)) ∧
          ∀ key value cause,
            (Configuration.run {} steps).Restates (Text.trim key) (Text.trim value) →
            ((Configuration.run {} steps).apply key value).2 = .error cause →
            (∀ role current requested, cause ≠ .rebind role current requested) ∧
              ∀ current requested, cause ≠ .channelRebind current requested := by
  refine ⟨?_, ?_⟩
  · intro world options first calls more hstart hopened
    have hfresh := @moves_start (world.scene options) (fun _ => True) _ _ _ hstart
    have hbefore := hfresh.trans (moves_run_of_any calls)
    have hmoves := @moves_run_of_any (world.scene options)
      (first.run (world.scene options) calls) more
    have hgoverned := (governed_start _).moves hbefore
    have hnumbered : Numbered (world.scene options) (fresh world.now options) := rfl
    have hbegun := headers_ne_nil_of_opened (hnumbered.moves hbefore) hopened
    have hfrozen := hgoverned.frozen_moves hbegun hmoves
    obtain ⟨people, hpeople⟩ := hgoverned.coherent.known (hgoverned.locked hbegun)
    have hlast := (hgoverned.moves hmoves).activities_finish (hfrozen.participants.trans hpeople)
    rw [hfrozen.channel] at hlast
    exact ⟨hfrozen, people, hpeople, hlast⟩
  · intro steps more
    have hfounded := Configuration.founded_empty.run steps
    refine ⟨?_, ?_⟩
    · intro hlock
      exact hfounded.frozen_run (Configuration.locked_run_of_mem hlock) more
    · intro key value cause hrestates hcause
      exact Configuration.not_rebind_of_restates hrestates hcause

/-- Directives that leave stored names apart from the participants before the lock comes. -/
def namesakes : List Configuration.Step :=
  [.directive "bot" "Zoe", .directive "user" "Sam", .directive "bot" "SAM", .lock]

theorem conversation_frozen_mishaps :
    Frozen (outset.run (World.bare.scene .named) (mishaps.take 2))
        ((outset.run (World.bare.scene .named) (mishaps.take 2)).run (World.bare.scene .named)
          (mishaps.drop 2)) ∧
      Configuration.Frozen (Configuration.run {} namesakes)
        ((Configuration.run {} namesakes).run
          [.directive "user" " Sam ", .directive "bot" "Zoe", .directive "channelId" "2"]) := by
  have hsession := conversation_frozen.1 .bare .named outset (mishaps.take 2) (mishaps.drop 2) rfl
    (by decide +kernel)
  exact ⟨hsession.1, (conversation_frozen.2 namesakes _).1 (by decide)⟩

end Colloquy.Session
