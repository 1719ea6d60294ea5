import Colloquy.Transcript
import Colloquy.Proofs.Session.Move

/-!
# Histories of calls

A session can be given lines and dialogue to scan in any order, and a call that fails does not end
it. Every call is a run of moves, whatever comes of it (`moves_call`), and so is the start from the
options (`moves_start`); hence what each move keeps is kept by every history of calls (`moves_run`).
-/

namespace Colloquy.Session

variable {scene : Scene} {delays : Int → Prop} {session : Session}

/-! ### Lines -/

theorem moves_speak {dialogue : Text} (hdelay : ∀ gap ∈ delaysOf dialogue, delays gap) :
    Moves scene delays session (left id (session.speak scene dialogue)) := by
  rw [left_speak]
  exact (touches_scan hdelay).moves

/-- The dialogue that is scanned when a line is consumed: what a turn line says after its colon,
or the whole of a line that goes on with a turn. -/
def dialogueOf? (session : Session) (line : Line) : Option Text :=
  match session.phase, LineEvent.ofText session.turns line.text with
  | _, .directive _ _ => none
  | .awaitingParticipants, _ => none
  | _, .turn _ remainder => some remainder
  | .awaitingTurn, .content _ => none
  | .inTurn, .content text => some text

theorem moves_consume {line : Line}
    (hdelay : ∀ dialogue, session.dialogueOf? line = some dialogue →
      ∀ gap ∈ delaysOf dialogue, delays gap) :
    Moves scene delays session (left id (session.consume scene line)) := by
  refine .head (.read line) ?_
  have hphase : ({ session with line } : Session).phase = session.phase := rfl
  simp only [dialogueOf?] at hdelay
  simp only [consume, hphase]
  cases hevent : LineEvent.ofText session.turns line.text with
  | directive key value =>
    simp only
    exact moves_applyDirective key value
  | turn speaker remainder =>
    cases hp : session.phase with
    | awaitingParticipants => exact .refl
    | awaitingTurn =>
      refine reached_bind (moves_openTurn speaker) fun next _ => moves_speak (hdelay remainder ?_)
      simp only [hp, hevent]
    | inTurn =>
      refine reached_bind (moves_openTurn speaker) fun next _ => moves_speak (hdelay remainder ?_)
      simp only [hp, hevent]
  | content text =>
    cases hp : session.phase with
    | awaitingParticipants => exact .refl
    | awaitingTurn => exact .refl
    | inTurn =>
      refine moves_speak (hdelay text ?_)
      simp only [hp, hevent]

/-! ### Calls in any order -/

/-- A call to a session. -/
inductive Call where
  | line (line : Line)
  | scan (dialogue : Text)
deriving DecidableEq, Repr

/-- The session after a call, which can have failed. -/
def call (scene : Scene) (session : Session) : Call → Session
  | .line line => left id (session.consume scene line)
  | .scan dialogue => left Prod.fst (session.scan scene dialogue)

/-- The session after some calls. -/
def run (scene : Scene) (session : Session) (calls : List Call) : Session :=
  calls.foldl (call scene) session

/-- The dialogue that a call scans. -/
def heardOf? (session : Session) : Call → Option Text
  | .line line => session.dialogueOf? line
  | .scan dialogue => some dialogue

/-- The dialogue that some calls scan, in order. -/
def heard (scene : Scene) : Session → List Call → List Text
  | _, [] => []
  | session, next :: rest => (session.heardOf? next).toList ++ heard scene (session.call scene next) rest

theorem moves_call {next : Call}
    (hdelay : ∀ dialogue, session.heardOf? next = some dialogue →
      ∀ gap ∈ delaysOf dialogue, delays gap) :
    Moves scene delays session (session.call scene next) := by
  cases next with
  | line line => exact moves_consume hdelay
  | scan dialogue => exact (touches_scan (hdelay dialogue rfl)).moves

/-- A history of calls is a run of moves, in which the clock moves by the default gap and by the
gaps that the scanned dialogue states. -/
theorem moves_run {calls : List Call}
    (hdelay : ∀ dialogue ∈ session.heard scene calls, ∀ gap ∈ delaysOf dialogue, delays gap) :
    Moves scene delays session (session.run scene calls) := by
  induction calls generalizing session with
  | nil => exact .refl
  | cons next rest ih =>
    simp only [heard, List.mem_append, Option.mem_toList] at hdelay
    have hfirst : Moves scene delays session (session.call scene next) :=
      moves_call fun dialogue h => hdelay dialogue (.inl h)
    exact hfirst.trans (ih fun dialogue h => hdelay dialogue (.inr h))

/-- With nothing said about the gaps, every history of calls is a run of moves. -/
theorem moves_run_of_any (calls : List Call) :
    Moves scene (fun _ => True) session (session.run scene calls) :=
  moves_run fun _ _ _ _ => trivial

/-! ### Starts and scripts -/

/-- The session before any directive. -/
def fresh (now : Time.Moment) (options : Options) : Session :=
  { clock := Time.Clock.start (options.start.getD now) options.gap }

theorem moves_seeds {seeds : List (Text × Text)} {last : Session}
    (h : seeds.foldlM seed session = .ok last) : Moves scene delays session last := by
  induction seeds generalizing session with
  | nil =>
    cases h
    exact .refl
  | cons entry rest ih =>
    obtain ⟨next, hnext, h⟩ := foldlM_cons_eq_ok.1 h
    have hseed : Moves scene delays session (left id (session.seed entry)) :=
      .head (.read _) (moves_applyDirective entry.1 entry.2)
    rw [hnext] at hseed
    exact hseed.trans (ih h)

theorem moves_start {now : Time.Moment} {options : Options}
    (h : Session.start now options = .ok session) :
    Moves scene delays (fresh now options) session :=
  moves_seeds h

/-- A history of calls together with the directives of the options before it. -/
theorem moves_history {now : Time.Moment} {options : Options}
    (h : Session.start now options = .ok session) (calls : List Call) :
    Moves scene (fun _ => True) (fresh now options) (session.run scene calls) :=
  (moves_start h).trans (moves_run_of_any calls)

/-- Lines that are all consumed are a history of calls. -/
theorem run_of_consumeAll {lines : List Line} {last : Session}
    (h : session.consumeAll scene lines = .ok last) :
    session.run scene (lines.map .line) = last := by
  induction lines generalizing session with
  | nil =>
    cases h
    rfl
  | cons line rest ih =>
    obtain ⟨next, hnext, h⟩ := foldlM_cons_eq_ok.1 h
    have hcall : session.call scene (.line line) = next := by
      simp only [call, hnext, left, id]
    rw [List.map_cons, run, List.foldl_cons, hcall]
    exact ih h

end Colloquy.Session

namespace Colloquy

/-- A script has a transcript if the options give a session that consumes all of its lines. -/
theorem ofScript_eq_ok_iff {world : World} {options : Options} {source : Text}
    {transcript : Transcript} :
    Transcript.ofScript world options source = .ok transcript ↔
      ∃ first last, Session.start world.now options = .ok first ∧
        first.consumeAll (world.scene options) (Line.ofSource source) = .ok last ∧
        last.finish = transcript := by
  simp only [Transcript.ofScript]
  cases Session.start world.now options with
  | error halt => simp [bind, Except.bind, Except.map, Except.mapError]
  | ok first =>
    cases hlast : first.consumeAll (world.scene options) (Line.ofSource source) with
    | error halt => simp [bind, Except.bind, Except.map, Except.mapError, hlast]
    | ok last => simp [bind, Except.bind, Except.map, Except.mapError, hlast]

/-- A world without files and without a network, in which the numbers of activities are tallied and
the common types are known. -/
def World.bare : World where
  files := ⟨[], fun _ => none⟩
  probe := .offline
  ids := fun n => List.replicate n 'a'
  now := .epoch
  types := .common

theorem World.ids_bare : Function.Injective World.bare.ids := by
  intro m n h
  have hlength := congrArg List.length h
  simpa [World.bare] using hlength

/-- Options that give two names and the start of the clock. -/
def Options.named : Options := { bot := some "Zoe", user := some "Sam", start := some .epoch }

/-- A script of two turns, with all sorts of commands. -/
def greeting : Text := Text.join "\n"
  ["Zoe: hi [typing] there", "you [delay=5] all", "[attachment=http://x.test/a.png]",
    "[attachmentLayout=Carousel] [hm]", "SAM: [delay=soon] ok [event] now [delay=-3]"]

theorem exists_ofScript_greeting :
    ∃ transcript, Transcript.ofScript .bare .named greeting = .ok transcript := by
  have hok : (Transcript.ofScript .bare .named greeting).isOk = true := by decide +kernel
  cases h : Transcript.ofScript .bare .named greeting with
  | error cause =>
    rw [h] at hok
    cases hok
  | ok transcript => exact ⟨transcript, rfl⟩

end Colloquy
