import ModuleLint.Rule.Violation
import ModuleLint.Walk.FanOut

/-!
# Outcomes of a batch

A batch is a list of modules that are analysed apart from each other. A module that cannot be read
or whose analysis fails in part does not disturb the others: its failure stands in its own
outcome. All violations of the batch together are sorted once more.
-/

set_option autoImplicit false

namespace ModuleLint

/-- How the analysis of a module went. -/
inductive Status where
  | ok
  | degraded
  | failed
deriving Repr, DecidableEq, Inhabited

/-- The name of a status. -/
def Status.name : Status → String
  | .ok => "ok"
  | .degraded => "degraded"
  | .failed => "failed"

/-- The outcome for one module. -/
structure ModuleOutcome where
  path : String
  moduleName : String
  status : Status
  violations : List Violation
  ruleErrors : List String
  failure : Option String
deriving Repr, DecidableEq, Inhabited

/-- The outcome of a batch. -/
structure BatchReport where
  modules : List ModuleOutcome
  violations : List Violation
deriving Repr, DecidableEq

namespace BatchReport

/-- The report without any modules. -/
def empty : BatchReport := { modules := [], violations := [] }

/-- Takes one more module into a report. -/
def add (r : BatchReport) (m : ModuleOutcome) : BatchReport :=
  { modules := r.modules ++ [m], violations := r.violations ++ m.violations }

/-- Puts the violations of a report in order once all modules are there. -/
def finish (r : BatchReport) : BatchReport := { r with violations := Violation.sort r.violations }

/-- The report about some modules. -/
def ofModules (modules : List ModuleOutcome) : BatchReport :=
  { modules := modules, violations := Violation.sort (modules.flatMap (·.violations)) }

/-- The modules that were not analysed completely, with the reasons. -/
def failures (r : BatchReport) : List (ModuleOutcome × String) :=
  r.modules.filterMap fun m => m.failure.map fun reason => (m, reason)

/-- All failures as one text, each after the path of its module. -/
def failure (r : BatchReport) : Option String :=
  joinFailures (r.failures.map fun (m, reason) => m.path ++ ": " ++ reason)

/-- The number of violations of a severity. -/
def countOf (r : BatchReport) (severity : String) : Nat :=
  r.violations.countP fun v => v.severity == severity

/-- The severities that occur, in the order of their first violations. -/
def severities (r : BatchReport) : List String :=
  (r.violations.map (·.severity)).eraseDups

/-- Whether some violation is at least as severe as a level. -/
def hasAtLeast (r : BatchReport) (level : String) : Bool :=
  r.violations.any fun v => Severity.atLeast v.severity level

end BatchReport

end ModuleLint
