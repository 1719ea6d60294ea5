import Colloquy.CommandLine.Reach
import Std.Time.DateTime.Timestamp

/-!
# The program

Gathers the files that a run can look at, runs, prints and writes.
-/

namespace Colloquy.Program

/-- What is at a place of the file system, if it can be read. -/
def nodeAt (place : List Text) : IO (Option Files.Node) := do
  let path := (← IO.currentDir) / String.ofList (Files.Tree.absolute place)
  try
    if ← path.isDir then pure (some .directory)
    else if ← path.pathExists then
      let bytes ← IO.FS.readBinFile path
      pure (some (.file bytes.toList))
    else pure none
  catch _ => pure none

/-- Gathers what is on the way along a path. -/
def gather (current : List Text) (known : List (List Text × Files.Node)) (path : Text) :
    IO (List (List Text × Files.Node)) := do
  let mut known := known
  let mut place := if Path.isAbsolute path then [] else current
  for part in Text.pieces '/' path do
    if part = ['.', '.'] then place := place.dropLast
    else if part ≠ [] ∧ part ≠ ['.'] then
      place := place ++ [part]
      if (known.find? fun entry => entry.1 == place).isNone then
        if let some node ← nodeAt place then known := (place, node) :: known
  pure known

/-- The tree of the files that have been gathered. -/
def treeOf (current : List Text) (known : List (List Text × Files.Node)) : Files.Tree where
  current := current
  node? place :=
    if place = [] then some .directory
    else (known.find? fun entry => entry.1 == place).map Prod.snd

/-- The present moment. -/
def presentMoment : IO Time.Moment := do
  let now ← Std.Time.Timestamp.now
  let epoch := Time.Moment.epoch
  pure { epoch with wall := epoch.wall + now.toNanosecondsSinceUnixEpoch.val }

end Colloquy.Program

open Colloquy Program

/-- Runs the command line. -/
def main (arguments : List String) : IO UInt32 := do
  let arguments := arguments.map String.toList
  let request := CommandLine.Request.ofArguments? arguments
  let here := (← IO.currentDir).toString.toList
  let current := (Text.pieces '/' here).filter (· ≠ [])
  let seed ← IO.getRandomBytes 20
  let now ← presentMoment
  let world (known : List (List Text × Files.Node)) : World :=
    ⟨treeOf current known, Probe.offline, Identifier.nth seed.toList, now⟩
  let mut known ← gather current [] here
  for path in (request.map CommandLine.Request.paths).getD [] do
    known ← gather current known path
  if let some script := request.bind CommandLine.Request.script? then
    for path in CommandLine.attachmentPaths (world known) script do
      known ← gather current known path
  let outcome := CommandLine.run (world known) arguments
  if outcome.exit = 0 then
    if let some path := request.bind CommandLine.Request.target? then
      if let .ok bytes := outcome.files.read path then
        IO.FS.writeBinFile (String.ofList path) bytes.toByteArray
  (← IO.getStdout).putStr (String.ofList outcome.stdout)
  (← IO.getStderr).putStr (String.ofList outcome.stderr)
  pure (UInt32.ofNat outcome.exit)
