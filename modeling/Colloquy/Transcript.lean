import Colloquy.Session.Scan

/-!
# From script to transcript

A session starts with the directives of its options and then consumes the lines of a script, one
after another, up to the first error.
-/

namespace Colloquy

/-- What a program has around it: files, the probe, names for activities, the time of day and the
types that are known by extension. -/
structure World where
  files : Files.Tree
  probe : Probe
  ids : Nat → Text
  now : Time.Moment
  [types : MediaType.Table]

/-- The scene of a session in a world. -/
def World.scene (world : World) (options : Options) : Scene where
  around :=
    { files := world.files
      workingDirectory := options.workingDirectory
      probe := world.probe
      types := world.types }
  ids := world.ids

namespace Session

/-- The session after a directive of the options, which counts as the text of its line. -/
def seed (session : Session) (entry : Text × Text) : Except Halt Session :=
  let text := Text.concat [entry.1, "=", entry.2]
  { session with line := ⟨session.line.number, text⟩ }.applyDirective entry.1 entry.2

/-- The session before the first line. -/
def start (now : Time.Moment) (options : Options) : Except Halt Session :=
  options.seeds.foldlM seed { clock := Time.Clock.start (options.start.getD now) options.gap }

/-- The session after some lines. -/
def consumeAll (session : Session) (scene : Scene) (lines : List Line) : Except Halt Session :=
  lines.foldlM (fun session line => session.consume scene line) session

end Session

/-- The transcript of a script. -/
def Transcript.ofScript (world : World) (options : Options) (source : Text) :
    Except ScriptError Transcript :=
  let read : Except Halt Session := do
    let session ← Session.start world.now options
    session.consumeAll (world.scene options) (Line.ofSource source)
  (read.map Session.finish).mapError Halt.error

end Colloquy
