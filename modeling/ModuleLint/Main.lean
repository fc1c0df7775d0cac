import ModuleLint.Batch.RunId
import ModuleLint.Command.Run
import ModuleLint.Telemetry.Setup

/-!
# The program

Reads what an invocation needs, carries it out, and prints and writes what it yields.
-/

set_option autoImplicit false

namespace ModuleLint.Main

open Command

/-- The obstacle that an error of the system tells of. -/
def obstacleOf : IO.Error → FileObstacle
  | .noFileOrDirectory _ _ _ => .missing
  | .inappropriateType _ code _ => if code == 20 then .notDirectory else .isDirectory
  | .permissionDenied _ _ _ => .forbidden
  | .invalidArgument _ code _ => if code == 36 then .nameTooLong else .invalidPath
  | _ => .missing

/-- Bytes as a text; bytes that are none become a character that no document starts with. -/
def decode (bytes : ByteArray) : String := (String.fromUTF8? bytes).getD "�"

/-- Reads a file. -/
def readFile (path : String) : IO (Except FileError String) := do
  try
    let bytes ← IO.FS.readBinFile path
    return .ok (decode bytes)
  catch e =>
    let obstacle := obstacleOf e
    let action : FileAction := if obstacle == .isDirectory then .reading else .opening
    return .error ⟨action, path, obstacle⟩

/-- Looks for what stands in the way of writing a file. -/
def obstacleFor (path : String) : IO (Option FileError) := do
  try
    let _ ← IO.FS.Handle.mk path .append
    return none
  catch e => return some ⟨.opening, path, obstacleOf e⟩

/-- Whether the terminal has colours. -/
def hasColors : IO Bool := do
  let refused ← IO.getEnv "NO_COLOR"
  let terminal ← IO.getEnv "TERM"
  return refused.getD "" == "" && terminal != some "dumb" && (← (← IO.getStdout).isTty)

/-- The environment variables that settings may come from. -/
def readVariables : IO (List (String × String)) := do
  let values ← Settings.variableNames.mapM fun name => do
    return (← IO.getEnv name).map fun value => (name, value)
  return values.filterMap id

/-- Reads a stream to its end. -/
partial def readRest (stream : IO.FS.Stream) (bytes : ByteArray) : IO ByteArray := do
  let more ← stream.read 65536
  if more.isEmpty then return bytes
  readRest stream (bytes ++ more)

/-- What an invocation can see. -/
def openWorkspace (i : Invocation) : IO Workspace := do
  let files ← i.sources.mapM fun path => do return (path, ← readFile path)
  let input ←
    if i.readsInput then readRest (← IO.getStdin) ByteArray.empty else pure ByteArray.empty
  let environment ← readVariables
  let colored ← hasColors
  return {
    read := fun path => (files.lookup path).getD (.error ⟨.opening, path, .missing⟩)
    obstacle? := fun _ => none
    environment := environment
    input := decode input
    colored := colored
    setUp := fun s => .ok (Telemetry.Providers.working s)
    cancelled := false }

/-- A new identity for a run. -/
def newRunId : IO String := do
  let bytes ← IO.getRandomBytes 16
  let word (bytes : ByteArray) : UInt64 :=
    bytes.foldl (fun n b => n * 256 + b.toUInt64) 0
  return runIdOfWords (word (bytes.extract 0 8)) (word (bytes.extract 8 16))

/-- Prints what was noted about the inputs of a check. -/
def log (plan : CheckPlan) (runId : String) (inputs : List BatchInput) : IO Unit := do
  let setup := CheckPlan.setup plan.settings
  for input in inputs do
    for r in input.loaded.records do
      (← IO.getStderr).putStr (setup.logger.line (r.inRun ⟨"", ""⟩ runId))

/-- Carries out a check and measures how long it takes. -/
def check (plan : CheckPlan) (w : Workspace) : IO Effect := do
  let runId ← newRunId
  let start ← IO.monoNanosNow
  let inputs ← IO.lazyPure fun _ => plan.inputs w
  log plan runId inputs
  let report ← IO.lazyPure fun _ => plan.runner.runUnless w.cancelled inputs
  let stop ← IO.monoNanosNow
  let duration : Duration := ⟨Int64.ofNat (stop - start)⟩
  let obstacles ← plan.targets.mapM fun path => do return (path, ← obstacleFor path)
  let w := { w with obstacle? := fun path => (obstacles.lookup path).getD none }
  return plan.complete w (Report.RunStamp.ofDuration runId duration) duration report

/-- Carries out an invocation. -/
def perform (i : Invocation) : IO Effect := do
  let w ← openWorkspace i
  match i with
  | .check shared options paths =>
    match CheckPlan.prepare w shared options paths with
    | .error f => return .fail f
    | .ok plan => check plan w
  | _ => return Command.perform w (Report.RunStamp.ofDuration "" ⟨0⟩) ⟨0⟩ i

/-- Prints and writes what a command yields. -/
def apply (e : Effect) : IO UInt32 := do
  (← IO.getStdout).putStr e.output
  for (path, text) in e.files do
    IO.FS.writeFile path text
  match e.failure with
  | none => pure ()
  | some (.violationsFound _) => pure ()
  | some f => (← IO.getStderr).putStrLn ("Error: " ++ f.message)
  return UInt32.ofNat (exitCode e.failure)

end ModuleLint.Main

/-- Runs the program. -/
def main (arguments : List String) : IO UInt32 := do
  match ModuleLint.Command.Invocation.parse arguments with
  | .error e => ModuleLint.Main.apply (.fail (.usage e))
  | .ok invocation => do
    let effect ← ModuleLint.Main.perform invocation
    ModuleLint.Main.apply effect
