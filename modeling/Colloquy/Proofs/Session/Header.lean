import Colloquy.Proofs.Configuration.Registry
import Colloquy.Proofs.Session.Move

/-!
# What an activity is opened with

Identifier, kind, sides and conversation of an activity are settled when it is opened. No move
changes them in an activity that is there; a turn and a command that opens an activity add one at
the end. It follows what governs all of a session's activities: they are numbered in the order of
their opening (`Numbered.moves`), and from the first on they share the participants and the
conversation of the configuration (`Governed.moves`).
-/

namespace Colloquy

/-- What an activity is opened with. -/
structure Header where
  id : Text
  kind : ActivityKind
  sender : Account
  recipient : Account
  conversation : Text
deriving DecidableEq, Repr

/-- What the activity was opened with. -/
def Activity.header (activity : Activity) : Header :=
  ⟨activity.id, activity.kind, activity.sender, activity.recipient, activity.conversation⟩

namespace Session

/-- The activities of a session, the open one last. -/
def activities (session : Session) : List Activity := session.done ++ session.current.toList

/-- What the activities of a session were opened with. -/
def headers (session : Session) : List Header := session.activities.map Activity.header

variable {scene : Scene} {delays : Int → Prop} {session next : Session}

/-! ### Closing and opening -/

@[simp] theorem config_close (session : Session) : session.close.config = session.config := by
  rw [close]
  split <;> rfl

@[simp] theorem clock_close (session : Session) : session.close.clock = session.clock := by
  rw [close]
  split <;> rfl

@[simp] theorem opened_close (session : Session) : session.close.opened = session.opened := by
  rw [close]
  split <;> rfl

@[simp] theorem turns_close (session : Session) : session.close.turns = session.turns := by
  rw [close]
  split <;> rfl

theorem warnings_close (session : Session) : session.close.warnings = session.warnings := by
  rw [close]
  split <;> rfl

/-- Dropping the last line break leaves what trimming does. -/
theorem dropBreak_terminated (parts : List Text) :
    dropBreak (Text.terminated '\n' parts) = Text.join ['\n'] parts := by
  by_cases hne : parts = []
  · rw [hne]
    rfl
  · rw [Text.terminated_eq_join hne, dropBreak, if_pos (by simp)]
    simp

/-- Closing puts the open activity, trimmed, behind the closed ones. -/
theorem done_close (session : Session) :
    session.close.done = session.done ++ session.current.toList.map fun activity =>
      { activity with text := Text.trim activity.text } := by
  rw [close]
  cases hcurrent : session.current with
  | none => simp
  | some activity => simp

/-! ### Activities seen through a view -/

/-- The activity that is opened next, as it is opened. -/
def opening (session : Session) (scene : Scene) (kind : ActivityKind) (sender recipient : Account) :
    Activity where
  id := scene.ids session.opened
  kind := kind
  sender := sender
  recipient := recipient
  conversation := session.config.channel
  time := session.clock.tick.now

section View

variable {α : Type} {view : Activity → α}

theorem map_done_close (hview : ∀ activity text, view { activity with text } = view activity)
    (session : Session) : session.close.done.map view = session.activities.map view := by
  simp [done_close, activities, hview]

theorem map_finish (hview : ∀ activity text, view { activity with text } = view activity)
    (session : Session) : session.finish.activities.map view = session.activities.map view := by
  simp [finish, activities, hview]

theorem view_mem_of_mem_finish (hview : ∀ activity text, view { activity with text } = view activity)
    {session : Session} {activity : Activity} (h : activity ∈ session.finish.activities) :
    view activity ∈ session.activities.map view := by
  rw [← map_finish hview]
  exact List.mem_map_of_mem h

theorem map_activities_split (hview : ∀ activity text, view { activity with text } = view activity)
    (session : Session) (kind : ActivityKind) (sender recipient : Account) :
    (session.close.openActivity scene kind sender recipient).activities.map view =
      session.activities.map view ++ [view (session.opening scene kind sender recipient)] := by
  rw [← map_done_close hview session]
  simp [activities, openActivity, opening]

theorem map_activities_turned (hview : ∀ activity text, view { activity with text } = view activity)
    (session : Session) (people : Participants) (role : Role) :
    (session.turned scene people role).activities.map view = session.activities.map view ++
      [view (session.opening scene .message (people.account role)
        (people.account role.opposite))] := by
  have hchannel : session.config.lock.channel = session.config.channel := rfl
  rw [← map_done_close hview session]
  simp [activities, turned, openActivity, opening, hchannel]

theorem map_activities_of_current {activity changed : Activity}
    (hcurrent : session.current = some activity) (hview : view changed = view activity) :
    ({ session with current := some changed } : Session).activities.map view =
      session.activities.map view := by
  simp [activities, hcurrent, hview]

theorem map_activities_stamped
    (hview : ∀ activity time, view { activity with time } = view activity)
    (session : Session) (gap : Int) :
    (session.stamped gap).activities.map view = session.activities.map view := by
  cases hcurrent : session.current with
  | none => simp [activities, stamped, hcurrent]
  | some activity => simp [activities, stamped, hcurrent, hview]

end View

/-! ### Directives -/

@[simp] theorem config_directed (session : Session) (key value : Text) :
    (session.directed key value).config = (session.config.apply key value).1 := by
  rw [directed]
  split <;> simp_all

@[simp] theorem clock_directed (session : Session) (key value : Text) :
    (session.directed key value).clock = session.clock := by
  rw [directed]
  split <;> rfl

@[simp] theorem opened_directed (session : Session) (key value : Text) :
    (session.directed key value).opened = session.opened := by
  rw [directed]
  split <;> rfl

theorem current_directed (session : Session) (key value : Text) :
    (session.directed key value).current = session.current := by
  rw [directed]
  split <;> rfl

theorem done_directed (session : Session) (key value : Text) :
    (session.directed key value).done = session.done := by
  rw [directed]
  split <;> rfl

theorem warnings_directed (session : Session) (key value : Text) :
    (session.directed key value).warnings = session.warnings := by
  rw [directed]
  split <;> rfl

@[simp] theorem activities_directed (session : Session) (key value : Text) :
    (session.directed key value).activities = session.activities := by
  rw [directed]
  split <;> rfl

theorem headers_directed (session : Session) (key value : Text) :
    (session.directed key value).headers = session.headers := by
  rw [headers, activities_directed, headers]

/-! ### Numbers -/

/-- The activities carry the scene's identifiers in the order of their opening. -/
def Numbered (scene : Scene) (session : Session) : Prop :=
  session.headers.map Header.id = (List.range session.opened).map scene.ids

theorem Numbered.frame (h : session.Numbered scene) (hheaders : next.headers = session.headers)
    (hopened : next.opened = session.opened) : next.Numbered scene := by
  rw [Numbered, hheaders, hopened]
  exact h

theorem Numbered.opened (h : session.Numbered scene) {header : Header}
    (hheaders : next.headers = session.headers ++ [header])
    (hid : header.id = scene.ids session.opened) (hopened : next.opened = session.opened + 1) :
    next.Numbered scene := by
  rw [Numbered] at h
  rw [Numbered, hheaders, hopened, List.map_append, h, List.range_succ, List.map_append,
    List.map_singleton, List.map_singleton, hid]

theorem Numbered.move (h : session.Numbered scene) (hmove : Move scene delays session next) :
    next.Numbered scene := by
  cases hmove with
  | read line => exact h.frame rfl rfl
  | direct key value =>
    exact h.frame (headers_directed session key value) (opened_directed session key value)
  | warn warning => exact h.frame rfl rfl
  | stamp gap _ => exact h.frame (map_activities_stamped (fun _ _ => rfl) session gap) rfl
  | append activity fragment hcurrent _ => exact h.frame (map_activities_of_current hcurrent rfl) rfl
  | attach activity argument attachment hcurrent _ =>
    exact h.frame (map_activities_of_current hcurrent rfl) rfl
  | arrange activity layout hcurrent => exact h.frame (map_activities_of_current hcurrent rfl) rfl
  | turn people speaker role _ _ =>
    exact h.opened (map_activities_turned (fun _ _ => rfl) session people role) rfl
      (by simp [turned, openActivity])
  | split activity kind _ =>
    exact h.opened (map_activities_split (fun _ _ => rfl) session kind _ _) rfl
      (by simp [openActivity])

theorem Numbered.moves (h : session.Numbered scene) (hmoves : Moves scene delays session next) :
    next.Numbered scene := by
  induction hmoves with
  | refl => exact h
  | tail _ hmove ih => exact ih.move hmove

/-! ### Participants and conversation -/

/-- The configuration is coherent, and once there is an activity it is locked and all activities
are of its conversation and go from one of its participants to the other. -/
structure Governed (session : Session) : Prop where
  coherent : session.config.Coherent
  locked : session.headers ≠ [] → session.config.locked = true
  conversations : ∀ header ∈ session.headers, header.conversation = session.config.channel
  sides : ∀ header ∈ session.headers, ∃ people role, session.config.participants = some people ∧
    header.sender = people.account role ∧ header.recipient = people.account role.opposite

theorem governed_start (clock : Time.Clock) : Governed { clock } := by
  constructor
  · exact Configuration.coherent_empty
  · intro hne
    exact absurd rfl hne
  · intro header hmem
    cases hmem
  · intro header hmem
    cases hmem

theorem Governed.frame (h : session.Governed) (hheaders : next.headers = session.headers)
    (hconfig : next.config = session.config) : next.Governed := by
  constructor
  · rw [hconfig]
    exact h.coherent
  · rw [hheaders, hconfig]
    exact h.locked
  · rw [hheaders, hconfig]
    exact h.conversations
  · rw [hheaders, hconfig]
    exact h.sides

/-- A directive changes nothing that an activity depends on, since the configuration is locked if
there is one. -/
theorem Governed.directed (h : session.Governed) (key value : Text) :
    (session.directed key value).Governed := by
  have hkept : session.headers ≠ [] →
      (session.config.apply key value).1.participants = session.config.participants ∧
        (session.config.apply key value).1.channel = session.config.channel := by
    intro hne
    obtain ⟨hpeople, hchannel, -⟩ := h.coherent.apply_locked (h.locked hne) key value
    exact ⟨hpeople, hchannel⟩
  constructor
  · rw [config_directed]
    exact h.coherent.apply key value
  · rw [headers_directed, config_directed, Configuration.locked_apply]
    exact h.locked
  · rw [headers_directed, config_directed]
    intro header hmem
    rw [(hkept (List.ne_nil_of_mem hmem)).2]
    exact h.conversations header hmem
  · rw [headers_directed, config_directed]
    intro header hmem
    rw [(hkept (List.ne_nil_of_mem hmem)).1]
    exact h.sides header hmem

/-- An activity that is opened between the participants keeps a session governed. -/
theorem Governed.opened (h : session.Governed) {header : Header} {people : Participants} {role : Role}
    (hheaders : next.headers = session.headers ++ [header])
    (hconfig : next.config = session.config ∨ next.config = session.config.lock)
    (hlocked : next.config.locked = true)
    (hpeople : session.config.participants = some people)
    (hsender : header.sender = people.account role)
    (hrecipient : header.recipient = people.account role.opposite)
    (hconversation : header.conversation = session.config.channel) : next.Governed := by
  have hsame : next.config.participants = session.config.participants ∧
      next.config.channel = session.config.channel := by
    rcases hconfig with hconfig | hconfig <;> rw [hconfig] <;> exact ⟨rfl, rfl⟩
  constructor
  · rcases hconfig with hconfig | hconfig
    · rw [hconfig]
      exact h.coherent
    · rw [hconfig]
      exact h.coherent.lock hpeople
  · exact fun _ => hlocked
  · rw [hheaders, hsame.2]
    intro other hmem
    rcases List.mem_append.1 hmem with hmem | hmem
    · exact h.conversations other hmem
    · rw [List.mem_singleton.1 hmem, hconversation]
  · rw [hheaders, hsame.1]
    intro other hmem
    rcases List.mem_append.1 hmem with hmem | hmem
    · exact h.sides other hmem
    · rw [List.mem_singleton.1 hmem]
      exact ⟨people, role, hpeople, hsender, hrecipient⟩

theorem Governed.turned (h : session.Governed) {people : Participants} (role : Role)
    (hpeople : session.config.participants = some people) :
    (session.turned scene people role).Governed := by
  have hconfig : (session.turned scene people role).config = session.config.lock := by
    simp [Session.turned, openActivity]
  refine h.opened (map_activities_turned (fun _ _ => rfl) session people role) (.inr hconfig) ?_
    hpeople rfl rfl rfl
  rw [hconfig]
  rfl

theorem Governed.split (h : session.Governed) {activity : Activity} (kind : ActivityKind)
    (hcurrent : session.current = some activity) :
    (session.close.openActivity scene kind activity.sender activity.recipient).Governed := by
  have hmem : activity.header ∈ session.headers := by
    simp [headers, activities, hcurrent]
  have hconfig : (session.close.openActivity scene kind activity.sender
      activity.recipient).config = session.config := by
    simp [openActivity]
  obtain ⟨people, role, hpeople, hsender, hrecipient⟩ := h.sides _ hmem
  refine h.opened (map_activities_split (fun _ _ => rfl) session kind _ _) (.inl hconfig) ?_
    hpeople hsender hrecipient rfl
  rw [hconfig]
  exact h.locked (List.ne_nil_of_mem hmem)

theorem Governed.move (h : session.Governed) (hmove : Move scene delays session next) :
    next.Governed := by
  cases hmove with
  | read line => exact h.frame rfl rfl
  | direct key value => exact h.directed key value
  | warn warning => exact h.frame rfl rfl
  | stamp gap _ => exact h.frame (map_activities_stamped (fun _ _ => rfl) session gap) rfl
  | append activity fragment hcurrent _ => exact h.frame (map_activities_of_current hcurrent rfl) rfl
  | attach activity argument attachment hcurrent _ =>
    exact h.frame (map_activities_of_current hcurrent rfl) rfl
  | arrange activity layout hcurrent => exact h.frame (map_activities_of_current hcurrent rfl) rfl
  | turn people speaker role hpeople _ => exact h.turned role hpeople
  | split activity kind hcurrent => exact h.split kind hcurrent

theorem Governed.moves (h : session.Governed) (hmoves : Moves scene delays session next) :
    next.Governed := by
  induction hmoves with
  | refl => exact h
  | tail _ hmove ih => exact ih.move hmove

end Session

end Colloquy
