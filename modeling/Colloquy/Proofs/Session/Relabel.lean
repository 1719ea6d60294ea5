import Colloquy.Proofs.Session.Run

/-!
# Names of activities and numbers of lines

A session hands on the identifiers that the world gives to activities, and the numbers of the lines
that it reads go into warnings and errors; it does nothing else with either. So giving other
identifiers and other numbers to what goes in gives them to what comes out, and changes nothing besides:
relabelling commutes with all that a session does (`relabel_consumeAll`), hence with reading a script
(`relabel_ofScript`).
-/

namespace Colloquy

/-- Other identifiers for activities and other numbers for lines. -/
structure Relabelling where
  name : Text → Text
  number : Nat → Nat

/-- The line with another number. -/
def Line.renumber (number : Nat → Nat) (line : Line) : Line := ⟨number line.number, line.text⟩

/-- The warning about the line with another number. -/
def Warning.renumber (number : Nat → Nat) : Warning → Warning
  | unknownTag line tag => unknownTag (number line) tag
  | invalidLayout line value => invalidLayout (number line) value
  | invalidDelay line value => invalidDelay (number line) value
  | missingArgument line tag => missingArgument (number line) tag

/-- The error in the line with another number. -/
def ScriptError.renumber (number : Nat → Nat) : ScriptError → ScriptError
  | format line text cause => format (number line) text cause
  | reference line text => reference (number line) text
  | noOpenTurn line text => noOpenTurn (number line) text
  | attachment line cause => attachment (number line) cause

/-- The transcript with its warnings about the lines with other numbers. -/
def Transcript.renumber (number : Nat → Nat) (transcript : Transcript) : Transcript :=
  { transcript with warnings := transcript.warnings.map (Warning.renumber number) }

theorem Line.renumber_id (line : Line) : line.renumber id = line := rfl

theorem Warning.renumber_id (warning : Warning) : warning.renumber id = warning := by
  cases warning <;> rfl

theorem ScriptError.renumber_id (cause : ScriptError) : cause.renumber id = cause := by
  cases cause <;> rfl

namespace Relabelling

/-- The activity under its other identifier. -/
def activity (r : Relabelling) (activity : Activity) : Activity :=
  { activity with id := r.name activity.id }

/-- The scene that gives the other identifiers. -/
def scene (r : Relabelling) (scene : Scene) : Scene := { scene with ids := r.name ∘ scene.ids }

/-- The session with its activities and lines relabelled. -/
def session (r : Relabelling) (session : Session) : Session :=
  { session with
    current := session.current.map r.activity
    done := session.done.map r.activity
    warnings := session.warnings.map (Warning.renumber r.number)
    line := session.line.renumber r.number }

/-- The scan with its activities and lines relabelled. -/
def scan (r : Relabelling) (scan : Session.Scan) : Session.Scan :=
  { scan with session := r.session scan.session }

/-- The transcript with its activities and lines relabelled. -/
def transcript (r : Relabelling) (transcript : Transcript) : Transcript :=
  ⟨transcript.activities.map r.activity, transcript.warnings.map (Warning.renumber r.number)⟩

/-- Other numbers for lines only. -/
def numbers (number : Nat → Nat) : Relabelling := ⟨id, number⟩

/-- What a computation comes to, relabelled. -/
def outcome {α β : Type} (r : Relabelling) (view : α → β) : Except Halt α → Except Halt β
  | .ok result => .ok (view result)
  | .error halt => .error ⟨halt.error.renumber r.number, r.session halt.session⟩

theorem transcript_numbers (number : Nat → Nat) (transcript : Transcript) :
    (numbers number).transcript transcript = transcript.renumber number := by
  have hactivities : transcript.activities.map (numbers number).activity = transcript.activities :=
    List.map_id' _
  rw [Relabelling.transcript, hactivities]
  rfl

theorem outcome_bind {α β α' β' : Type} {r : Relabelling} {u : α → α'} {v : β → β'}
    {step : Except Halt α} {step' : Except Halt α'} {rest : α → Except Halt β}
    {rest' : α' → Except Halt β'} (hstep : step' = r.outcome u step)
    (hrest : ∀ a, rest' (u a) = r.outcome v (rest a)) :
    (step' >>= rest') = r.outcome v (step >>= rest) := by
  rw [hstep]
  cases step with
  | error halt => rfl
  | ok a => exact hrest a

/-- What commutes with relabelling does so item by item. -/
theorem outcome_foldlM {α σ : Type} {r : Relabelling} {view : σ → σ} {step step' : σ → α → Except Halt σ}
    (hstep : ∀ state item, step' (view state) item = r.outcome view (step state item))
    (items : List α) (state : σ) :
    items.foldlM step' (view state) = r.outcome view (items.foldlM step state) := by
  induction items generalizing state with
  | nil => rfl
  | cons item rest ih =>
    rw [List.foldlM_cons, List.foldlM_cons]
    exact outcome_bind (hstep state item) ih

end Relabelling

namespace Session

variable (r : Relabelling)

/-! ### Operations on the open activity -/

theorem relabel_warn (session : Session) (warning : Warning) :
    (r.session session).warn (warning.renumber r.number) = r.session (session.warn warning) := by
  simp only [warn, Relabelling.session, List.map_append, List.map_cons, List.map_nil]

theorem relabel_modify (session : Session) {change : Activity → Activity}
    (hchange : ∀ activity, change (r.activity activity) = r.activity (change activity)) :
    (r.session session).modify change = r.outcome r.session (session.modify change) := by
  have hopen : (r.session session).current = session.current.map r.activity := rfl
  rw [modify, modify, hopen]
  cases session.current with
  | none => rfl
  | some activity =>
    simp only [Option.map_some, Relabelling.outcome, hchange]
    rfl

theorem relabel_close (session : Session) :
    (r.session session).close = r.session session.close := by
  obtain ⟨config, clock, turns, current, done, warnings, line, opened⟩ := session
  cases current with
  | none => rfl
  | some activity =>
    simp only [Relabelling.session, close, Option.map_some, Option.map_none, List.map_append,
      List.map_cons, List.map_nil]
    rfl

theorem relabel_append (session : Session) (fragment : Text) :
    (r.session session).append fragment = r.outcome r.session (session.append fragment) := by
  rw [append, append]
  split
  · rfl
  · exact relabel_modify r session fun _ => rfl

theorem relabel_stamp (session : Session) (gap : Int) :
    (r.session session).stamp gap = r.outcome r.session (session.stamp gap) :=
  relabel_modify r { session with clock := session.clock.tickBy gap } fun _ => rfl

theorem relabel_split (session : Session) (scene : Scene) (kind : ActivityKind) :
    (r.session session).split (r.scene scene) kind =
      r.outcome r.session (session.split scene kind) := by
  have hclose := relabel_close r session
  rw [split, split]
  cases hcurrent : session.current with
  | none =>
    have hnone : (r.session session).current = none := by
      simp only [Relabelling.session, hcurrent, Option.map_none]
    rw [hnone]
    rfl
  | some activity =>
    have hopen : (r.session session).current = some (r.activity activity) := by
      simp only [Relabelling.session, hcurrent, Option.map_some]
    rw [hopen]
    simp only [hclose]
    rfl

theorem relabel_delay (session : Session) (argument : Text) :
    (r.session session).delay argument = r.outcome r.session (session.delay argument) := by
  have hwarn := relabel_warn r session (.invalidDelay session.line.number argument)
  rw [delay, delay]
  split
  · exact relabel_stamp r session _
  · have hstamp := relabel_stamp r (session.warn (.invalidDelay session.line.number argument))
      session.clock.gap
    rw [← hwarn] at hstamp
    exact hstamp

theorem relabel_attach (session : Session) (scene : Scene) (argument : Text) :
    (r.session session).attach (r.scene scene) argument =
      r.outcome r.session (session.attach scene argument) := by
  have haround : (r.scene scene).around = scene.around := rfl
  rw [attach, attach, haround]
  split
  · rfl
  · exact relabel_modify r session fun _ => rfl

theorem relabel_arrange (session : Session) (argument : Text) :
    (r.session session).arrange argument = r.outcome r.session (session.arrange argument) := by
  rw [arrange, arrange]
  split
  · exact relabel_modify r session fun _ => rfl
  · exact congrArg Except.ok
      (relabel_warn r session (.invalidLayout session.line.number argument))

theorem relabel_setField {set set' : Session → Text → Except Halt Session}
    (hset : ∀ session text, set' (r.session session) text = r.outcome r.session (set session text))
    (session : Session) (body : Text) (argument : Option Text) :
    (r.session session).setField body argument set' =
      r.outcome r.session (session.setField body argument set) := by
  refine Relabelling.outcome_bind (relabel_stamp r session _) fun stamped => ?_
  cases argument.filter (· ≠ []) with
  | none =>
    exact congrArg Except.ok
      (relabel_warn r stamped (.missingArgument stamped.line.number (Command.bracketed body)))
  | some text => exact hset stamped text

/-! ### Scanning -/

theorem relabel_flush (scan : Scan) : (r.scan scan).flush = r.outcome r.scan scan.flush :=
  Relabelling.outcome_bind (relabel_append r scan.session _) fun _ => rfl

theorem relabel_obey (scan : Scan) (scene : Scene) (body : Text) :
    (r.scan scan).obey (r.scene scene) body = r.outcome r.scan (scan.obey scene body) := by
  simp only [Scan.obey]
  cases (Command.ofBody body).tag with
  | unknown =>
    have hwarn := relabel_warn r scan.session
      (.unknownTag scan.session.line.number (Command.bracketed body))
    exact congrArg (fun session => Except.ok { scan with session }) hwarn
  | «opens» kind =>
    refine Relabelling.outcome_bind (relabel_flush r scan) fun flushed => ?_
    exact Relabelling.outcome_bind (relabel_split r flushed.session scene kind) fun _ => rfl
  | delay => exact Relabelling.outcome_bind (relabel_delay r scan.session _) fun _ => rfl
  | attachment =>
    refine Relabelling.outcome_bind (relabel_setField r ?_ scan.session body _) fun _ => rfl
    exact fun session text => relabel_attach r session scene text
  | layout =>
    refine Relabelling.outcome_bind (relabel_setField r ?_ scan.session body _) fun _ => rfl
    exact relabel_arrange r

theorem relabel_take (scan : Scan) (scene : Scene) (segment : Segment) :
    (r.scan scan).take (r.scene scene) segment = r.outcome r.scan (scan.take scene segment) := by
  cases segment with
  | command body => exact relabel_obey r scan scene body
  | dialogue text =>
    simp only [Scan.take]
    split <;> rfl

theorem relabel_speak (session : Session) (scene : Scene) (dialogue : Text) :
    (r.session session).speak (r.scene scene) dialogue =
      r.outcome r.session (session.speak scene dialogue) := by
  have hscan : (r.session session).scan (r.scene scene) dialogue =
      r.outcome (fun result => (r.session result.1, result.2)) (session.scan scene dialogue) := by
    refine Relabelling.outcome_bind
      (Relabelling.outcome_foldlM (fun scan segment => relabel_take r scan scene segment) _
        { session }) fun scan => ?_
    exact Relabelling.outcome_bind (relabel_flush r scan) fun _ => rfl
  exact Relabelling.outcome_bind hscan fun _ => rfl

/-! ### Lines -/

theorem relabel_applyDirective (session : Session) (key value : Text) :
    (r.session session).applyDirective key value =
      r.outcome r.session (session.applyDirective key value) := by
  have hconfig : (r.session session).config = session.config := rfl
  simp only [applyDirective, hconfig]
  split
  · rfl
  · split <;> rfl

theorem relabel_openTurn (session : Session) (scene : Scene) (speaker : Text) :
    (r.session session).openTurn (r.scene scene) speaker =
      r.outcome r.session (session.openTurn scene speaker) := by
  have hconfig : (r.session session).config = session.config := rfl
  rw [openTurn, openTurn, hconfig]
  split
  · rfl
  · split
    · rfl
    · simp only [relabel_close, Relabelling.outcome]
      rfl

theorem phase_relabel (session : Session) : (r.session session).phase = session.phase := by
  have hopen : (r.session session).current.isNone = session.current.isNone := Option.isNone_map
  have hconfig : (r.session session).config = session.config := rfl
  rw [phase, phase, hopen, hconfig]

theorem relabel_consume (session : Session) (scene : Scene) (line : Line) :
    (r.session session).consume (r.scene scene) (line.renumber r.number) =
      r.outcome r.session (session.consume scene line) := by
  generalize hother : r.session session = other
  have hline : ({ other with line := line.renumber r.number } : Session) =
      r.session { session with line } := by
    rw [← hother]
    rfl
  have hphase : ({ session with line } : Session).phase = session.phase := rfl
  have hturns : other.turns = session.turns := by
    rw [← hother]
    rfl
  have htext : (line.renumber r.number).text = line.text := rfl
  simp only [consume]
  rw [hline, phase_relabel, hphase, hturns, htext]
  cases LineEvent.ofText session.turns line.text with
  | directive key value => exact relabel_applyDirective r _ key value
  | turn speaker remainder =>
    cases session.phase with
    | awaitingParticipants => rfl
    | awaitingTurn =>
      exact Relabelling.outcome_bind (relabel_openTurn r _ scene speaker) fun opened =>
        relabel_speak r opened scene remainder
    | inTurn =>
      exact Relabelling.outcome_bind (relabel_openTurn r _ scene speaker) fun opened =>
        relabel_speak r opened scene remainder
  | content text =>
    cases session.phase with
    | awaitingParticipants => rfl
    | awaitingTurn => rfl
    | inTurn => exact relabel_speak r _ scene text

theorem relabel_consumeAll (session : Session) (scene : Scene) (lines : List Line) :
    (r.session session).consumeAll (r.scene scene) (lines.map (Line.renumber r.number)) =
      r.outcome r.session (session.consumeAll scene lines) := by
  rw [consumeAll, consumeAll, List.foldlM_map]
  exact Relabelling.outcome_foldlM (fun session line => relabel_consume r session scene line) _ session

theorem relabel_seed (session : Session) (entry : Text × Text) :
    (r.session session).seed entry = r.outcome r.session (session.seed entry) :=
  relabel_applyDirective r { session with
    line := ⟨session.line.number, Text.concat [entry.1, "=", entry.2]⟩ } entry.1 entry.2

theorem relabel_finish (session : Session) :
    (r.session session).finish = r.transcript session.finish := by
  simp only [finish, Relabelling.session, Relabelling.transcript, List.map_append]
  cases session.current <;> rfl

end Session

/-! ### Scripts -/

/-- Relabelling commutes with reading a script. The options are read in line zero, so this number has to
stay. -/
theorem relabel_ofScript (r : Relabelling) (hzero : r.number 0 = 0) (world : World) (options : Options)
    {source other : Text}
    (hlines : (Line.ofSource source).map (Line.renumber r.number) = Line.ofSource other) :
    Transcript.ofScript { world with ids := r.name ∘ world.ids } options other =
      ((Transcript.ofScript world options source).map r.transcript).mapError
        (ScriptError.renumber r.number) := by
  have hfresh : r.session (Session.fresh world.now options) = Session.fresh world.now options := by
    simp only [Relabelling.session, Session.fresh, Line.renumber, hzero, Option.map_none, List.map_nil]
  have hstart : Session.start world.now options =
      r.outcome r.session (Session.start world.now options) := by
    have hseeds := Relabelling.outcome_foldlM (Session.relabel_seed r) options.seeds
      (Session.fresh world.now options)
    rw [hfresh] at hseeds
    exact hseeds
  have hread : (do
      let session ← Session.start world.now options
      session.consumeAll (World.scene { world with ids := r.name ∘ world.ids } options)
        (Line.ofSource other)) =
      r.outcome r.session (do
        let session ← Session.start world.now options
        session.consumeAll (world.scene options) (Line.ofSource source)) := by
    refine Relabelling.outcome_bind hstart fun session => ?_
    rw [← hlines]
    exact Session.relabel_consumeAll r session (world.scene options) (Line.ofSource source)
  simp only [Transcript.ofScript]
  rw [hread]
  cases (do
    let session ← Session.start world.now options
    session.consumeAll (world.scene options) (Line.ofSource source) : Except Halt Session) with
  | error halt => rfl
  | ok session => exact congrArg Except.ok (Session.relabel_finish r session)

end Colloquy
