import ModuleLint.Batch.Basic
import ModuleLint.Document.Loader
import ModuleLint.Rule.Engine
import ModuleLint.Telemetry.Metrics
import ModuleLint.Text.Bytes

/-!
# Running a batch

Inputs are named by paths, where a hyphen stands for standard input, or are modules that are there
already. Standard input is read once: a further hyphen finds what the first one has left.
-/

set_option autoImplicit false

namespace ModuleLint

/-- What a batch is analysed with. -/
structure Runner where
  rules : List Rule
  engine : EngineOptions := {}
  loader : LoaderOptions := {}

/-- A module of a batch with the path it came from. -/
structure BatchInput where
  path : String
  loaded : Loaded

namespace BatchInput

/-- A module that is there already; a missing one is empty. -/
def ofModule (m : Option Module) : BatchInput :=
  let m := m.getD (Module.empty "")
  { path := m.name, loaded := { module := m, error := none, records := [] } }

/-- The path that stands for standard input. -/
def stdinPath : String := "-"

/-- What is left of standard input: the number of bytes of a character whose start was read before,
and the text after it. -/
structure Remaining where
  fragment : Nat
  text : String
deriving Repr, DecidableEq

/-- The number of bytes that are left. -/
def Remaining.size (r : Remaining) : Nat := r.fragment + r.text.utf8ByteSize

/-- What is left after some more bytes were read. -/
def Remaining.drop (n : Nat) (r : Remaining) : Remaining :=
  if n < r.fragment then { r with fragment := r.fragment - n }
  else
    let cut := Text.cutBytes (n - r.fragment) r.text.toList
    { fragment := cut.tail.length, text := String.ofList cut.after }

/-- What a loader leaves of standard input: nothing, unless there was too much. -/
def Remaining.afterLoad (options : LoaderOptions) (r : Remaining) : Remaining :=
  if options.maxSize == 0 then ⟨0, ""⟩ else r.drop (options.maxSize.toNat + 1)

/-- Loads what is left of standard input. What starts inside of a character is malformed. -/
def Remaining.load (options : LoaderOptions) (r : Remaining) : Loaded :=
  if r.fragment == 0 then Loader.load options r.text Loader.stdinName Loader.stdinName
  else if options.maxSize != 0 && r.size > options.maxSize.toNat then
    Loader.fail Loader.stdinName Loader.stdinName (.tooLarge options.maxSize) [] []
  else Loader.fail Loader.stdinName Loader.stdinName .malformed [] []

/-- Loads all paths in turn, from what is left of standard input. -/
def ofPathsFrom (options : LoaderOptions) (read : String → Except FileError String) :
    Remaining → List String → List BatchInput
  | _, [] => []
  | input, path :: rest =>
    if path == stdinPath then
      { path := Loader.stdinName, loaded := input.load options }
        :: ofPathsFrom options read (input.afterLoad options) rest
    else
      { path := path, loaded := Loader.loadFile options path (read path) }
        :: ofPathsFrom options read input rest

/-- Loads all paths in turn. -/
def ofPaths (options : LoaderOptions) (read : String → Except FileError String) (input : String)
    (paths : List String) : List BatchInput :=
  ofPathsFrom options read ⟨0, input⟩ paths

end BatchInput

namespace Runner

/-- Analyses one module. -/
def analyze (r : Runner) (input : BatchInput) : ModuleOutcome :=
  match input.loaded.error with
  | some e =>
    { path := input.path, moduleName := input.loaded.module.name, status := .failed
      violations := [], ruleErrors := [], failure := some e.message }
  | none =>
    let a := analyzeModule r.rules r.engine (some input.loaded.module)
    { path := input.path
      moduleName := a.moduleName
      status := if a.failure.isSome then .degraded else .ok
      violations := a.violations
      ruleErrors := a.ruleErrors.map (·.code)
      failure := a.failure }

/-- Analyses all modules. -/
def run (r : Runner) (inputs : List BatchInput) : BatchReport :=
  BatchReport.ofModules (inputs.map r.analyze)

/-- The reason for a run that was cancelled. -/
def cancellation : String := "context canceled"

/-- Analyses all modules, unless the run was cancelled before it began; then there are none. -/
def runUnless (r : Runner) (cancelled : Bool) (inputs : List BatchInput) :
    BatchReport × Option String :=
  if cancelled then (BatchReport.ofModules [], some cancellation) else (r.run inputs, none)

end Runner

/-- What is measured about a module. -/
def ModuleOutcome.stats (m : ModuleOutcome) (duration : Duration) : Telemetry.ModuleStats :=
  { status := m.status.name
    duration := duration
    violations := (m.violations.map (·.severity)).eraseDups.map fun severity =>
      (severity, (m.violations.countP fun v => v.severity == severity : Nat))
    ruleErrors := m.ruleErrors }

namespace Telemetry.Metrics

/-- The metrics after one more module. Only a module that was loaded is being analysed. -/
def addModule (metrics : Metrics) (m : ModuleOutcome) (duration : Duration) : Metrics :=
  if m.status == .failed then metrics.record (m.stats duration)
  else (metrics.start.record (m.stats duration)).finish

/-- The metrics of a whole batch, in which all modules took the same time. -/
def ofReport (r : BatchReport) (duration : Duration) : Metrics :=
  r.modules.foldl (fun metrics m => metrics.addModule m duration) empty

end Telemetry.Metrics

end ModuleLint
