import ModuleLint.Batch.Runner
import ModuleLint.Command.Invocation
import ModuleLint.Document.SchemaText
import ModuleLint.Report.Render
import ModuleLint.Settings.Load
import ModuleLint.Telemetry.Exposition
import ModuleLint.Telemetry.Setup

/-!
# Running commands

A command sees its workspace and yields what it prints, what files it writes and how it failed, if
it did. A check goes through three stages: it is prepared, which sets up its telemetry too, all
modules are analysed, and the report is written.
-/

set_option autoImplicit false

namespace ModuleLint.Command

/-- What a command can see of the world: files, the environment, standard input, whether the terminal
has colours, what setting up telemetry yields or why it fails, and whether the command has been
cancelled. -/
structure Workspace where
  read : String → Except FileError String
  obstacle? : String → Option FileError
  environment : List (String × String)
  input : String
  colored : Bool
  setUp : Telemetry.Setup → Except String Telemetry.Providers
  cancelled : Bool

/-- Why a command fails. -/
inductive Failure where
  | usage (error : UsageError)
  | unknownFormat (text : String)
  | unknownLevel (text : String)
  | settings (error : SettingsError)
  | cannotObserve (reason : String)
  | badRules (errors : List CatalogError)
  | cannotConfigure (errors : List CatalogError)
  | invalidSize (text : String) (cause : Size.ParseError)
  | cannotCount (reason : String)
  | interrupted (reason : String)
  | cannotReport (error : FileError)
  | noRegistry
  | cannotMeasure (path : String) (error : FileError)
  | violationsFound (level : Severity)
  | nothingToValidate
  | cannotRead (path : String) (error : FileError)
  | malformed (label : String)
  | invalidTree (label : String) (violations : Nat)

/-- The faults of rules as one text. -/
def catalogText (errors : List CatalogError) : String :=
  "\n".intercalate (errors.map CatalogError.message)

/-- The text of a failure. -/
def Failure.message : Failure → String
  | .usage e => e.message
  | .unknownFormat s => Report.Format.unknownMessage s
  | .unknownLevel s => "--fail-on: " ++ Severity.unknownMessage s
  | .settings e => e.message
  | .cannotObserve reason => "init observability: " ++ reason
  | .badRules es => catalogText es
  | .cannotConfigure es => "configure rules: " ++ catalogText es
  | .invalidSize text cause => invalidSizeMessage text cause
  | .cannotCount reason => "create metrics: " ++ reason
  | .interrupted reason => "analysis interrupted: " ++ reason
  | .cannotReport e => "create report file: " ++ e.message
  | .noRegistry => "prometheus registry not initialized"
  | .cannotMeasure path e => "write metrics to " ++ path ++ ": " ++ e.message
  | .violationsFound level => "violations found at or above " ++ level.name
  | .nothingToValidate => LoadCause.malformed.message ++ ": expected a file or -"
  | .cannotRead path e => "read " ++ path ++ ": " ++ e.message
  | .malformed label => label ++ ": " ++ LoadCause.malformed.message
  | .invalidTree label n =>
    "module tree is invalid: " ++ label ++ ": " ++ toString n ++ " schema violations"

/-- The exit code: zero when all is well, one when there were findings, two for anything else. -/
def exitCode : Option Failure → Nat
  | none => 0
  | some (.violationsFound _) => 1
  | some (.invalidTree _ _) => 1
  | some _ => 2

/-- What a command does: the text that it prints, the files that it writes, and its failure. -/
structure Effect where
  output : String := ""
  files : List (String × String) := []
  failure : Option Failure := none

/-- A failure without any other effect. -/
def Effect.fail (f : Failure) : Effect := { failure := some f }

/-- Whether the output is coloured. -/
def Workspace.paints (w : Workspace) (shared : SharedOptions) : Bool := w.colored && !shared.noColor

/-- The settings, in which the flags for more and for less output set the level of logging. -/
def Workspace.settings (w : Workspace) (shared : SharedOptions) : Except Failure Settings :=
  match Settings.load w.read w.environment shared.configPath with
  | .error e => .error (.settings e)
  | .ok s =>
    if shared.quiet then .ok { s with logging := { s.logging with level := "error" } }
    else if shared.verbose then .ok { s with logging := { s.logging with level := "debug" } }
    else .ok s

/-- The files that settings may come from. -/
def SharedOptions.sources (shared : SharedOptions) : List String :=
  if shared.configPath.isEmpty then Settings.usualNames else [shared.configPath]

/-- All files that an invocation may read. -/
def Invocation.sources : Invocation → List String
  | .check shared _ paths => shared.sources ++ paths.filter (· != BatchInput.stdinPath)
  | .rules shared _ => shared.sources
  | .validate _ path? => path?.toList.filter (· != BatchInput.stdinPath)
  | _ => []

/-- Whether an invocation reads standard input. -/
def Invocation.readsInput : Invocation → Bool
  | .check _ _ paths => paths.isEmpty || paths.contains BatchInput.stdinPath
  | .validate _ path? => path? == some BatchInput.stdinPath
  | _ => false

/-- The version of the program. -/
def versionName : String := "dev"

/-- A check that can be carried out. -/
structure CheckPlan where
  format : Report.Format
  failOn : Severity
  settings : Settings
  providers : Telemetry.Providers
  runner : Runner
  paths : List String
  output : String
  style : Report.Style

namespace CheckPlan

/-- The settings with those that flags replace. -/
def adjust (s : Settings) (options : CheckOptions) : Settings :=
  { s with
    analysis := { s.analysis with
      workers := if options.workers > 0 then options.workers else s.analysis.workers }
    telemetry := { s.telemetry with
      metricsFile :=
        if options.metricsFile.isEmpty then s.telemetry.metricsFile else options.metricsFile } }

/-- What the settings of a check ask of telemetry. -/
def setup (s : Settings) : Telemetry.Setup :=
  Telemetry.Setup.ofSettings s versionName Telemetry.Setup.batchMode

/-- Prepares a check. Its telemetry is set up before the rules are selected, and the metrics are
created last. -/
def prepare (w : Workspace) (shared : SharedOptions) (options : CheckOptions)
    (paths : List String) : Except Failure CheckPlan := do
  let format ← (Report.Format.parse? options.format).elim
    (.error (.unknownFormat options.format)) .ok
  let failOn ← (Severity.parse? options.failOn).elim (.error (.unknownLevel options.failOn)) .ok
  let settings := adjust (← w.settings shared) options
  let providers ← (w.setUp (setup settings)).mapError .cannotObserve
  let rules ← (Catalog.select settings.rules).mapError .cannotConfigure
  let maxSize ← (Size.parse settings.analysis.maxInputSize).mapError
    (.invalidSize settings.analysis.maxInputSize)
  if let some reason := providers.fault? then throw (.cannotCount reason)
  pure
    { format := format
      failOn := failOn
      settings := settings
      providers := providers
      runner :=
        { rules := rules
          engine :=
            { exemptExported := settings.analysis.exemptExportedUnused
              maxIterations := settings.analysis.maxIterations }
          loader := { maxSize := maxSize, strict := settings.analysis.strictSchema } }
      paths := if paths.isEmpty then [BatchInput.stdinPath] else paths
      output := options.output
      style :=
        { colored := w.paints shared && options.output.isEmpty, snippets := shared.verbose } }

/-- The modules to be analysed. -/
def inputs (plan : CheckPlan) (w : Workspace) : List BatchInput :=
  BatchInput.ofPaths plan.runner.loader w.read w.input plan.paths

/-- Analyses all modules, unless the command has been cancelled. -/
def report (plan : CheckPlan) (w : Workspace) : BatchReport × Option String :=
  plan.runner.runUnless w.cancelled (plan.inputs w)

/-- The files that a check writes. -/
def targets (plan : CheckPlan) : List String :=
  [plan.output, plan.settings.telemetry.metricsFile].filter (· != "")

/-- The verdict on a report. -/
def verdict (plan : CheckPlan) (r : BatchReport) : Option Failure :=
  if r.hasAtLeast plan.failOn.name then some (.violationsFound plan.failOn) else none

/-- Writes the metrics, if they are wanted, and gives the verdict. -/
def conclude (plan : CheckPlan) (w : Workspace) (duration : Duration) (r : BatchReport)
    (e : Effect) : Effect :=
  let path := plan.settings.telemetry.metricsFile
  if path.isEmpty then { e with failure := plan.verdict r }
  else if !plan.providers.hasRegistry then { e with failure := some .noRegistry }
  else match w.obstacle? path with
    | some error => { e with failure := some (.cannotMeasure path error) }
    | none =>
      { e with
        files := e.files ++ [(path, (Telemetry.Metrics.ofReport r duration).text)]
        failure := plan.verdict r }

/-- Writes the report and what follows it. -/
def finish (plan : CheckPlan) (w : Workspace) (stamp : Report.RunStamp) (duration : Duration)
    (r : BatchReport) : Effect :=
  let text := Report.render plan.format plan.style stamp r
  if plan.output.isEmpty then plan.conclude w duration r { output := text }
  else match w.obstacle? plan.output with
    | some error => .fail (.cannotReport error)
    | none => plan.conclude w duration r { files := [(plan.output, text)] }

/-- What a check does after its modules have been analysed. A run that was cut short is reported as
such and nothing else is done. -/
def complete (plan : CheckPlan) (w : Workspace) (stamp : Report.RunStamp) (duration : Duration)
    (run : BatchReport × Option String) : Effect :=
  match run.2 with
  | some reason => .fail (.interrupted reason)
  | none => plan.finish w stamp duration run.1

end CheckPlan

/-- Lists the rules: the active ones, or all of them with their usual severities. -/
def listRules (w : Workspace) (shared : SharedOptions) (all : Bool) : Effect :=
  match w.settings shared with
  | .error f => .fail f
  | .ok s =>
    if all then { output := Report.rulesText (w.paints shared) (Catalog.all s.rules) }
    else match Catalog.select s.rules with
      | .error es => .fail (.badRules es)
      | .ok rules => { output := Report.rulesText (w.paints shared) rules }

/-- Compares a text with the schema. -/
def validateText (colored : Bool) (label data : String) : Effect :=
  let red := Terminal.paint colored [.red]
  match Loader.validate? data with
  | none => .fail (.malformed label)
  | some [] =>
    { output := Terminal.paint colored [.green] ("Module tree is valid (" ++ label ++ ")\n") }
  | some violations =>
    { output := red ("Module tree validation failed (" ++ label ++ ")\n") ++ "\nErrors:\n"
        ++ String.join (violations.map fun v => red ("  - " ++ v ++ "\n"))
      failure := some (.invalidTree label violations.length) }

/-- Compares a file or standard input with the schema. -/
def validate (w : Workspace) (shared : SharedOptions) (path? : Option String) : Effect :=
  match path? with
  | none => .fail .nothingToValidate
  | some path =>
    if path == BatchInput.stdinPath then
      validateText (w.paints shared) Loader.stdinName w.input
    else match w.read path with
      | .error e => .fail (.cannotRead path e)
      | .ok data => validateText (w.paints shared) path data

/-- All that is known about the version of the program. -/
def versionText : String :=
  programName ++ " " ++ versionName ++ " (commit: unknown, built: unknown)"

/-- A short help. -/
def helpText : String :=
  "Static analysis for BSL modules\n\nUsage:\n  " ++ programName ++ " [command] [flags] [files]\n\n"
    ++ "Commands:\n  check     Analyze module trees and report violations\n"
    ++ "  rules     List the active rules\n"
    ++ "  validate  Validate a module tree against the schema\n"
    ++ "  version   Show version information\n"

/-- Carries out an invocation. -/
def perform (w : Workspace) (stamp : Report.RunStamp) (duration : Duration) :
    Invocation → Effect
  | .help => { output := helpText }
  | .version => { output := versionText ++ "\n" }
  | .printSchema => { output := Document.schemaText }
  | .rules shared all => listRules w shared all
  | .validate shared path? => validate w shared path?
  | .check shared options paths =>
    match CheckPlan.prepare w shared options paths with
    | .error f => .fail f
    | .ok plan => plan.complete w stamp duration (plan.report w)

/-- Carries out a command line. -/
def run (w : Workspace) (stamp : Report.RunStamp) (duration : Duration) (arguments : List String) :
    Effect :=
  match Invocation.parse arguments with
  | .error e => .fail (.usage e)
  | .ok invocation => perform w stamp duration invocation

end ModuleLint.Command
