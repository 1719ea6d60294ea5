import Mathlib.Logic.Relation
import Colloquy.Session.Scan
import Colloquy.Proofs.Outcome
import Colloquy.Proofs.Script.Segment
import Colloquy.Proofs.Text.Fragment

/-!
# What scanning touches

Whatever dialogue a session scans, and whether that succeeds or fails, it gets from one state to the
next by elementary changes of the clock, the warnings and the activities. `Touch` lists them, and a
scan is a run of touches (`touches_scan`). So it leaves the configuration alone (`Touches.kept`), and
a session in which nothing is open can only lose time and gain warnings (`Touches.idle`).
-/

namespace Colloquy.Session

/-- The session that a step leaves, whether it succeeds or fails. -/
def left {α : Type} (view : α → Session) : Except Halt α → Session
  | .ok result => view result
  | .error halt => halt.session

/-- The session with its clock moved on and its open activity, if there is one, stamped. -/
def stamped (session : Session) (gap : Int) : Session :=
  let clock := session.clock.tickBy gap
  { session with
    clock
    current := session.current.map fun activity => { activity with time := clock.now } }

theorem current_stamped {session : Session} {activity : Activity}
    (hcurrent : session.current = some activity) (gap : Int) : (session.stamped gap).current =
      some { activity with time := (session.clock.tickBy gap).now } := by
  simp [stamped, hcurrent]

/-- One elementary change that scanning makes. Besides the default gap the clock moves by those gaps
only that satisfy `delays`. -/
inductive Touch (scene : Scene) (delays : Int → Prop) (session : Session) : Session → Prop
  | warn (warning : Warning) : Touch scene delays session (session.warn warning)
  | stamp (gap : Int) : gap = session.clock.gap ∨ delays gap →
      Touch scene delays session (session.stamped gap)
  | append (activity : Activity) (fragment : Text) : session.current = some activity →
      Text.Fragment fragment →
      Touch scene delays session
        { session with
          current := some { activity with text := activity.text ++ fragment ++ ['\n'] } }
  | attach (activity : Activity) (argument : Text) (attachment : Attachment) :
      session.current = some activity →
      Attachment.resolve scene.around argument = .ok attachment →
      Touch scene delays session
        { session with
          current := some { activity with attachments := activity.attachments ++ [attachment] } }
  | arrange (activity : Activity) (layout : Layout) : session.current = some activity →
      Touch scene delays session
        { session with current := some { activity with layout := some layout } }
  | split (activity : Activity) (kind : ActivityKind) : session.current = some activity →
      Touch scene delays session
        (session.close.openActivity scene kind activity.sender activity.recipient)

/-- A run of touches. -/
abbrev Touches (scene : Scene) (delays : Int → Prop) : Session → Session → Prop :=
  Relation.ReflTransGen (Touch scene delays)

variable {scene : Scene} {delays : Int → Prop} {session next : Session}

/-- What a computation leaves is reached if its first step leaves something reached, and the rest
goes on from a first step that succeeds. -/
theorem reached_bind {α β : Type} {change : Session → Session → Prop} {u : α → Session}
    {v : β → Session} {step : Except Halt α} {rest : α → Except Halt β}
    (hstep : Relation.ReflTransGen change session (left u step))
    (hrest : ∀ a, step = .ok a → Relation.ReflTransGen change (u a) (left v (rest a))) :
    Relation.ReflTransGen change session (left v (step >>= rest)) := by
  cases step with
  | error halt => exact hstep
  | ok a => exact hstep.trans (hrest a rfl)

/-! ### Operations on the open activity -/

theorem touches_append {parts : List Text} (hparts : ∀ part ∈ parts, Text.Fragment part) :
    Touches scene delays session (left id (session.append (Text.join [' '] parts))) := by
  by_cases hne : parts = []
  · rw [append, if_pos ((Text.join_eq_nil_iff hparts).2 hne)]
    exact .refl
  · rw [append, if_neg (mt (Text.join_eq_nil_iff hparts).1 hne), modify]
    cases hcurrent : session.current with
    | none => exact .refl
    | some activity =>
      exact .single (.append activity _ hcurrent (Text.Fragment.join hne hparts))

/-- Stamping fails with nothing open, and leaves the same session then as if it did not. -/
theorem left_stamp (gap : Int) : left id (session.stamp gap) = session.stamped gap := by
  simp only [stamp, modify, stamped]
  cases session.current with
  | none => simp [left, noOpenTurn]
  | some activity => simp [left]

theorem touches_stamp {gap : Int} (hgap : gap = session.clock.gap ∨ delays gap) :
    Touches scene delays session (left id (session.stamp gap)) := by
  rw [left_stamp]
  exact .single (.stamp gap hgap)

theorem touches_split (kind : ActivityKind) :
    Touches scene delays session (left id (session.split scene kind)) := by
  rw [split]
  cases hcurrent : session.current with
  | none => exact .refl
  | some activity => exact .single (.split activity kind hcurrent)

theorem touches_delay {argument : Text}
    (hdelay : ∀ gap, Text.toInt64? argument = some gap → delays gap) :
    Touches scene delays session (left id (session.delay argument)) := by
  rw [delay]
  cases hgap : Text.toInt64? argument with
  | some gap => exact touches_stamp (.inr (hdelay gap hgap))
  | none => exact .head (.warn _) (touches_stamp (.inl rfl))

theorem touches_attach (argument : Text) :
    Touches scene delays session (left id (session.attach scene argument)) := by
  rw [attach]
  cases hresolve : Attachment.resolve scene.around argument with
  | error cause => exact .refl
  | ok attachment =>
    simp only [modify]
    cases hcurrent : session.current with
    | none => exact .refl
    | some activity => exact .single (.attach activity argument attachment hcurrent hresolve)

theorem touches_arrange (argument : Text) :
    Touches scene delays session (left id (session.arrange argument)) := by
  rw [arrange]
  cases Layout.ofName? argument with
  | none => exact .single (.warn _)
  | some layout =>
    simp only [modify]
    cases hcurrent : session.current with
    | none => exact .refl
    | some activity => exact .single (.arrange activity layout hcurrent)

theorem touches_setField {body : Text} {argument : Option Text}
    {set : Session → Text → Except Halt Session}
    (hset : ∀ session text, Touches scene delays session (left id (set session text))) :
    Touches scene delays session (left id (session.setField body argument set)) := by
  refine reached_bind (touches_stamp (.inl rfl)) fun next _ => ?_
  cases argument.filter (· ≠ []) with
  | none => exact .single (.warn _)
  | some text => exact hset next text

/-! ### Scanning -/

/-- The text that a scan has collected consists of fragments. -/
def Scan.Tidy (scan : Scan) : Prop := ∀ part ∈ scan.pending, Text.Fragment part

theorem Scan.tidy_of_pending_eq_nil {scan : Scan} (h : scan.pending = []) : scan.Tidy := by
  intro part hpart
  rw [h] at hpart
  cases hpart

theorem Scan.pending_of_flush {scan next : Scan} (h : scan.flush = .ok next) : next.pending = [] := by
  obtain ⟨appended, -, hnext⟩ := bind_eq_ok.1 h
  cases hnext
  rfl

theorem touches_flush {scan : Scan} (hscan : scan.Tidy) :
    Touches scene delays scan.session (left Scan.session scan.flush) :=
  reached_bind (touches_append hscan) fun _ _ => .refl

theorem touches_obey {scan : Scan} {body : Text} (hscan : scan.Tidy)
    (hdelay : ∀ gap, (Segment.command body).delay? = some gap → delays gap) :
    Touches scene delays scan.session (left Scan.session (scan.obey scene body)) := by
  simp only [Scan.obey]
  cases htag : (Command.ofBody body).tag with
  | unknown => exact .single (.warn _)
  | «opens» kind =>
    refine reached_bind (touches_flush hscan) fun next _ => ?_
    exact reached_bind (touches_split kind) fun _ _ => .refl
  | delay =>
    refine reached_bind (touches_delay ?_) fun _ _ => .refl
    intro gap hgap
    exact hdelay gap ((Segment.delay?_command htag).trans hgap)
  | attachment =>
    exact reached_bind (touches_setField fun _ text => touches_attach text) fun _ _ => .refl
  | layout =>
    exact reached_bind (touches_setField fun _ text => touches_arrange text) fun _ _ => .refl

/-- A command clears the collected text, if it opens an activity, or leaves it. -/
theorem Scan.pending_of_obey {scan next : Scan} {body : Text}
    (h : scan.obey scene body = .ok next) : next.pending = [] ∨ next.pending = scan.pending := by
  simp only [Scan.obey] at h
  cases htag : (Command.ofBody body).tag with
  | unknown =>
    simp only [htag] at h
    cases h
    exact .inr rfl
  | «opens» kind =>
    simp only [htag] at h
    obtain ⟨flushed, hflush, h⟩ := bind_eq_ok.1 h
    obtain ⟨opened, -, h⟩ := bind_eq_ok.1 h
    have hnil := Scan.pending_of_flush hflush
    cases h
    exact .inl hnil
  | delay =>
    simp only [htag] at h
    obtain ⟨delayed, -, h⟩ := bind_eq_ok.1 h
    cases h
    exact .inr rfl
  | attachment =>
    simp only [htag] at h
    obtain ⟨set, -, h⟩ := bind_eq_ok.1 h
    cases h
    exact .inr rfl
  | layout =>
    simp only [htag] at h
    obtain ⟨set, -, h⟩ := bind_eq_ok.1 h
    cases h
    exact .inr rfl

theorem touches_take {scan : Scan} {segment : Segment} (hscan : scan.Tidy)
    (hdelay : ∀ gap, segment.delay? = some gap → delays gap) :
    Touches scene delays scan.session (left Scan.session (scan.take scene segment)) := by
  cases segment with
  | command body => exact touches_obey hscan hdelay
  | dialogue text =>
    simp only [Scan.take]
    split <;> exact .refl

theorem Scan.tidy_take {scan next : Scan} {segment : Segment} (hscan : scan.Tidy)
    (h : scan.take scene segment = .ok next) : next.Tidy := by
  cases segment with
  | command body =>
    rcases Scan.pending_of_obey h with hnil | hsame
    · exact Scan.tidy_of_pending_eq_nil hnil
    · intro part hpart
      rw [hsame] at hpart
      exact hscan part hpart
  | dialogue text =>
    simp only [Scan.take] at h
    split at h
    · cases h
      exact hscan
    · rename_i hne
      cases h
      intro part hpart
      rcases List.mem_append.1 hpart with hpart | hpart
      · exact hscan part hpart
      · rw [List.mem_singleton.1 hpart]
        exact Text.fragment_trim hne

/-- Taking segments one after another goes on from one to the next and keeps the scan tidy. -/
theorem touches_takeAll {segments : List Segment}
    (hdelay : ∀ segment ∈ segments, ∀ gap, segment.delay? = some gap → delays gap) {scan : Scan}
    (hscan : scan.Tidy) :
    Touches scene delays scan.session (left Scan.session (segments.foldlM (Scan.take scene) scan)) ∧
      ∀ last, segments.foldlM (Scan.take scene) scan = .ok last → last.Tidy := by
  induction segments generalizing scan with
  | nil =>
    refine ⟨.refl, ?_⟩
    intro last h
    cases h
    exact hscan
  | cons segment rest ih =>
    have hrest := fun s (hs : s ∈ rest) => hdelay s (List.mem_cons_of_mem _ hs)
    constructor
    · rw [List.foldlM_cons]
      refine reached_bind (touches_take hscan (hdelay segment (by simp))) fun next h => ?_
      exact (ih hrest (Scan.tidy_take hscan h)).1
    · intro last h
      obtain ⟨next, hnext, h⟩ := foldlM_cons_eq_ok.1 h
      exact (ih hrest (Scan.tidy_take hscan hnext)).2 last h

/-- The integers that the delays of a dialogue state. -/
def delaysOf (dialogue : Text) : List Int := (Segment.segments dialogue).filterMap Segment.delay?

theorem touches_scan {dialogue : Text} (hdelay : ∀ gap ∈ delaysOf dialogue, delays gap) :
    Touches scene delays session (left Prod.fst (session.scan scene dialogue)) := by
  have hsegments : ∀ segment ∈ Segment.segments dialogue, ∀ gap, segment.delay? = some gap →
      delays gap := by
    intro segment hs gap hgap
    exact hdelay gap (List.mem_filterMap.2 ⟨segment, hs, hgap⟩)
  have hstart : Scan.Tidy { session } := Scan.tidy_of_pending_eq_nil rfl
  have hall := @touches_takeAll scene delays _ hsegments _ hstart
  refine reached_bind hall.1 fun scan hscan => ?_
  exact reached_bind (touches_flush (hall.2 scan hscan)) fun _ _ => .refl

theorem left_speak (session : Session) (scene : Scene) (dialogue : Text) :
    left id (session.speak scene dialogue) = left Prod.fst (session.scan scene dialogue) := by
  rw [speak]
  cases session.scan scene dialogue <;> rfl

/-- With nothing said about the gaps, every scan is a run of touches. -/
theorem touches_speak (dialogue : Text) :
    Touches scene (fun _ => True) session (left id (session.speak scene dialogue)) := by
  rw [left_speak]
  exact touches_scan fun _ _ => trivial

/-! ### What scanning leaves alone -/

theorem Touch.kept (h : Touch scene delays session next) :
    next.config = session.config ∧ next.turns = session.turns ∧ next.line = session.line := by
  cases h with
  | split activity kind hcurrent =>
    rw [close, hcurrent]
    exact ⟨rfl, rfl, rfl⟩
  | warn warning => exact ⟨rfl, rfl, rfl⟩
  | stamp gap _ => exact ⟨rfl, rfl, rfl⟩
  | append activity fragment _ _ => exact ⟨rfl, rfl, rfl⟩
  | attach activity argument attachment _ _ => exact ⟨rfl, rfl, rfl⟩
  | arrange activity layout _ => exact ⟨rfl, rfl, rfl⟩

/-- Configuration, turns and line stay as they are. -/
theorem Touches.kept (h : Touches scene delays session next) :
    next.config = session.config ∧ next.turns = session.turns ∧ next.line = session.line := by
  induction h with
  | refl => exact ⟨rfl, rfl, rfl⟩
  | tail _ htouch ih =>
    obtain ⟨hconfig, hturns, hline⟩ := htouch.kept
    exact ⟨hconfig.trans ih.1, hturns.trans ih.2.1, hline.trans ih.2.2⟩

/-- With nothing open, scanning changes the clock and the warnings only. -/
theorem Touches.idle (h : Touches scene delays session next) (hcurrent : session.current = none) :
    ∃ clock warnings, next = { session with clock, warnings } := by
  induction h with
  | refl => exact ⟨session.clock, session.warnings, rfl⟩
  | tail _ htouch ih =>
    obtain ⟨clock, warnings, rfl⟩ := ih
    cases htouch with
    | warn warning => exact ⟨clock, warnings ++ [warning], rfl⟩
    | stamp gap _ =>
      refine ⟨clock.tickBy gap, warnings, ?_⟩
      simp [stamped, hcurrent]
    | append activity fragment hopen _ => cases hcurrent.symm.trans hopen
    | attach activity argument attachment hopen _ => cases hcurrent.symm.trans hopen
    | arrange activity layout hopen => cases hcurrent.symm.trans hopen
    | split activity kind hopen => cases hcurrent.symm.trans hopen

end Colloquy.Session
