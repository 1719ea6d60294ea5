import Colloquy.Proofs.Activity.Validity
import Colloquy.Proofs.Attachment.Payload
import Colloquy.Proofs.Session.Attachment
import Colloquy.Proofs.Time.Clock

/-!
# Sessions leave valid transcripts

Whatever calls a session gets, in whatever order and however many of them fail, its transcript has
no problems: `problems_run`. The numbering of the activities gives distinct identifiers, the
configuration one conversation between two sides, and the clock, which never runs backwards while
no gap is negative, times in order.
-/

namespace Colloquy

namespace Session

/-- The instants of a session's activities. -/
def instants (session : Session) : List Int := session.activities.map fun a => a.time.instant

variable {scene : Scene} {delays : Int → Prop} {session next : Session}

/-! ### Time runs forward -/

/-- The usual gap is not negative, the instants of the activities are in order and none is ahead of
the clock, and the clock is not beyond its end once it has stamped an activity. -/
structure Clocked (session : Session) : Prop where
  gap : 0 ≤ session.clock.gap
  within : session.instants ≠ [] → session.clock.now.wall ≤ Time.Moment.latest
  ordered : session.instants.Pairwise (· ≤ ·)
  past : ∀ instant ∈ session.instants, instant ≤ session.clock.now.instant

theorem Clocked.frame (h : session.Clocked) (hinstants : next.instants = session.instants)
    (hclock : next.clock = session.clock) : next.Clocked := by
  constructor
  · rw [hclock]
    exact h.gap
  · rw [hinstants, hclock]
    exact h.within
  · rw [hinstants]
    exact h.ordered
  · rw [hinstants, hclock]
    exact h.past

/-- No activity is later than the clock after it has been read once more. -/
theorem Clocked.past_tickBy (h : session.Clocked) {gap : Int} (hgap : 0 ≤ gap) :
    ∀ instant ∈ session.instants, instant ≤ (session.clock.tickBy gap).now.instant := by
  intro instant hmem
  have hwall := h.within (List.ne_nil_of_mem hmem)
  exact Int.le_trans (h.past instant hmem) (Time.Moment.instant_le_advance hwall hgap)

/-- An activity that is opened carries the time of the clock, read once more. -/
theorem Clocked.opened (h : session.Clocked)
    (hinstants : next.instants = session.instants ++ [session.clock.tick.now.instant])
    (hclock : next.clock = session.clock.tick) : next.Clocked := by
  have hpast := h.past_tickBy h.gap
  constructor
  · rw [hclock]
    exact h.gap
  · intro _
    rw [hclock]
    exact (Time.Moment.advance_mem _ _).2
  · rw [hinstants, List.pairwise_append]
    refine ⟨h.ordered, by simp, ?_⟩
    intro instant hmem other hother
    rw [List.mem_singleton.1 hother]
    exact hpast instant hmem
  · rw [hinstants, hclock]
    intro instant hmem
    rcases List.mem_append.1 hmem with hmem | hmem
    · exact hpast instant hmem
    · exact Int.le_of_eq (List.mem_singleton.1 hmem)

theorem Clocked.stamped (h : session.Clocked) {gap : Int} (hgap : 0 ≤ gap) :
    (session.stamped gap).Clocked := by
  have hpast := h.past_tickBy hgap
  have hordered := h.ordered
  simp only [instants, activities, List.map_append, List.pairwise_append, List.mem_append]
    at hpast hordered
  constructor
  · exact h.gap
  · intro _
    exact (Time.Moment.advance_mem _ _).2
  · simp only [instants, activities, Session.stamped, List.map_append, List.pairwise_append]
    refine ⟨hordered.1, ?_, ?_⟩
    · cases session.current <;> simp
    · intro instant hmem other hother
      cases hcurrent : session.current with
      | none => simp [hcurrent] at hother
      | some activity =>
        have heq : other = (session.clock.tickBy gap).now.instant := by
          simpa [hcurrent] using hother
        rw [heq]
        exact hpast instant (.inl hmem)
  · simp only [instants, activities, Session.stamped, List.map_append, List.mem_append]
    intro instant hmem
    rcases hmem with hmem | hmem
    · exact hpast instant (.inl hmem)
    · cases hcurrent : session.current with
      | none => simp [hcurrent] at hmem
      | some activity =>
        have heq : instant = (session.clock.tickBy gap).now.instant := by
          simpa [hcurrent] using hmem
        exact Int.le_of_eq heq

theorem Clocked.move (hdelays : ∀ gap, delays gap → 0 ≤ gap) (h : session.Clocked)
    (hmove : Move scene delays session next) : next.Clocked := by
  cases hmove with
  | read line => exact h.frame rfl rfl
  | direct key value =>
    refine h.frame ?_ (clock_directed session key value)
    rw [instants, activities_directed, instants]
  | warn warning => exact h.frame rfl rfl
  | stamp gap hgap =>
    refine h.stamped ?_
    rcases hgap with hgap | hgap
    · rw [hgap]
      exact h.gap
    · exact hdelays gap hgap
  | append activity fragment hcurrent _ => exact h.frame (map_activities_of_current hcurrent rfl) rfl
  | attach activity argument attachment hcurrent _ =>
    exact h.frame (map_activities_of_current hcurrent rfl) rfl
  | arrange activity layout hcurrent => exact h.frame (map_activities_of_current hcurrent rfl) rfl
  | turn people speaker role _ _ =>
    exact h.opened (map_activities_turned (fun _ _ => rfl) session people role)
      (by simp [turned, openActivity])
  | split activity kind _ =>
    exact h.opened (map_activities_split (fun _ _ => rfl) session kind _ _) (by simp [openActivity])

theorem Clocked.moves (hdelays : ∀ gap, delays gap → 0 ≤ gap) (h : session.Clocked)
    (hmoves : Moves scene delays session next) : next.Clocked := by
  induction hmoves with
  | refl => exact h
  | tail _ hmove ih => exact ih.move hdelays hmove

/-! ### Attachments -/

/-- No attachment of an activity has a flaw. -/
def Flawless (session : Session) : Prop :=
  ∀ group ∈ session.attachments, ∀ attachment ∈ group, attachment.flaws = []

theorem Flawless.moves
    (hprobe : ∀ url answer, scene.around.probe url = .ok answer → Text.trim answer ≠ [])
    (h : session.Flawless) (hmoves : Moves scene delays session next) : next.Flawless :=
  Carries.moves (fun _ _ hresolve => Attachment.flaws_resolve hprobe hresolve) h hmoves

/-! ### Histories -/

/-- All that is kept by the moves of a session and makes its transcript valid. -/
structure Sound (scene : Scene) (session : Session) : Prop where
  numbered : session.Numbered scene
  governed : session.Governed
  clocked : session.Clocked
  flawless : session.Flawless

theorem sound_fresh {now : Time.Moment} {options : Options} (hgap : 0 ≤ options.gap) :
    (fresh now options).Sound scene := by
  have hnone : (fresh now options).activities = [] := rfl
  constructor
  · rfl
  · exact governed_start _
  · constructor
    · exact hgap
    · intro h
      exact absurd rfl h
    · simp [instants, hnone]
    · simp [instants, hnone]
  · simp [Flawless, attachments, hnone]

theorem Sound.moves
    (hprobe : ∀ url answer, scene.around.probe url = .ok answer → Text.trim answer ≠ [])
    (hdelays : ∀ gap, delays gap → 0 ≤ gap) (h : session.Sound scene)
    (hmoves : Moves scene delays session next) : next.Sound scene :=
  ⟨h.numbered.moves hmoves, h.governed.moves hmoves, h.clocked.moves hdelays hmoves,
    h.flawless.moves hprobe hmoves⟩

/-- The transcript of a sound session is valid, if neither the scene nor the digest of the names
gives an identifier twice. -/
theorem Sound.valid (h : session.Sound scene) (hids : Function.Injective scene.ids)
    (hapart : ∀ people, session.config.participants = some people →
      people.bot.name ≠ people.user.name →
      Identifier.ofName people.bot.name ≠ Identifier.ofName people.user.name) :
    Activity.Valid session.finish.activities := by
  have hheader : ∀ a ∈ session.finish.activities, a.header ∈ session.headers :=
    fun a ha => view_mem_of_mem_finish (fun _ _ => rfl) ha
  have hsides : ∀ a ∈ session.finish.activities, ∃ people role,
      session.config.participants = some people ∧
        a.sender = people.account role ∧ a.recipient = people.account role.opposite :=
    fun a ha => h.governed.sides _ (hheader a ha)
  have hcoherent := h.governed.coherent
  constructor
  · have hmap : session.finish.activities.map Activity.id =
        (List.range session.opened).map scene.ids := by
      rw [map_finish (fun _ _ => rfl), ← h.numbered, headers, List.map_map]
      rfl
    rw [hmap]
    exact List.nodup_range.map hids
  · intro a ha b hb
    exact (h.governed.conversations _ (hheader a ha)).trans
      (h.governed.conversations _ (hheader b hb)).symm
  · have hordered := h.clocked.ordered
    rw [instants, ← map_finish (fun _ _ => rfl), List.pairwise_map] at hordered
    exact hordered
  · intro a ha
    obtain ⟨people, role, hpeople, hsender, hrecipient⟩ := hsides a ha
    rw [hsender, hrecipient, hcoherent.account hpeople role, hcoherent.account hpeople role.opposite,
      Participants.role_ofName, Participants.role_ofName]
    exact (Role.opposite_ne role).symm
  · intro a ha
    obtain ⟨people, role, hpeople, hsender, hrecipient⟩ := hsides a ha
    have hne := hapart people hpeople (hcoherent.names_ne hpeople)
    rw [hsender, hrecipient, hcoherent.account hpeople role, hcoherent.account hpeople role.opposite,
      Participants.id_ofName, Participants.id_ofName]
    cases role with
    | bot => exact hne
    | user => exact hne.symm
  · intro a ha
    have hmem : a.attachments ∈ session.attachments := view_mem_of_mem_finish (fun _ _ => rfl) ha
    exact h.flawless a.attachments hmem

/-- After any history of calls, failed ones among them, the transcript has no problems, if no gap
is negative and probe and identifiers are as they are meant to be. The lines of a script that has
a transcript are such a history. -/
theorem problems_run {world : World} {options : Options} {first : Session} {calls : List Call}
    (hgap : 0 ≤ options.gap)
    (hprobe : ∀ url answer, world.probe url = .ok answer → Text.trim answer ≠ [])
    (hids : Function.Injective world.ids)
    (hstart : Session.start world.now options = .ok first)
    (hdelay : ∀ dialogue ∈ first.heard (world.scene options) calls,
      ∀ gap ∈ delaysOf dialogue, 0 ≤ gap)
    (hapart : ∀ people,
      (first.run (world.scene options) calls).config.participants = some people →
      people.bot.name ≠ people.user.name →
      Identifier.ofName people.bot.name ≠ Identifier.ofName people.user.name) :
    Activity.problems (first.run (world.scene options) calls).finish.activities = [] ∧
      ∀ source transcript, calls = (Line.ofSource source).map .line →
        Transcript.ofScript world options source = .ok transcript →
        Activity.problems transcript.activities = [] := by
  have hmoves := moves_run hdelay
  have hfirst := (sound_fresh hgap).moves hprobe (fun _ h => h)
    (@moves_start (world.scene options) (fun gap => 0 ≤ gap) _ _ _ hstart)
  have hlast := hfirst.moves hprobe (fun _ h => h) hmoves
  have hclean := (Activity.problems_eq_nil_iff _).2 (hlast.valid hids hapart)
  refine ⟨hclean, ?_⟩
  rintro source transcript rfl hscript
  obtain ⟨other, last, hother, hlines, rfl⟩ := ofScript_eq_ok_iff.1 hscript
  rw [hstart] at hother
  cases hother
  rw [run_of_consumeAll hlines] at hclean
  exact hclean

/-- The session that the two names start. -/
def outset : Session := left id (Session.start World.bare.now .named)

/-- The session in its first turn. -/
def greeted : Session := outset.run (World.bare.scene .named) [.line ⟨1, "Zoe: hi"⟩]

theorem phase_greeted : greeted.phase = .inTurn := by decide +kernel

/-- Calls of which some fail: dialogue before the first turn, an attachment that does not exist and
a name that cannot be changed any more. -/
def mishaps : List Call :=
  [.line ⟨1, "lost"⟩, .line ⟨2, "Zoe: hi [typing] [Delay=5]"⟩, .scan "look [attachment=gone.png]",
    .line ⟨3, "user=Max"⟩, .line ⟨4, "sam: yes [delay=soon]"⟩]

theorem problems_run_mishaps :
    Activity.problems (outset.run (World.bare.scene .named) mishaps).finish.activities = [] := by
  have hnames : (outset.run (World.bare.scene .named) mishaps).config.participants =
      some (.ofNames "Zoe" "Sam") := by
    decide +kernel
  refine (@problems_run World.bare .named outset mishaps (by decide) ?_ World.ids_bare rfl
    (by decide +kernel) ?_).1
  · intro url answer h
    cases h
  · intro people hpeople _
    rw [hnames] at hpeople
    rw [← Option.some.inj hpeople]
    decide +kernel

end Session

end Colloquy
