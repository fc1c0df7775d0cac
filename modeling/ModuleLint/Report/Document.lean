import ModuleLint.Batch.Basic
import ModuleLint.Data.Json
import ModuleLint.Data.Yaml
import ModuleLint.Duration
import ModuleLint.Text.NaturalOrder

/-!
# Reports for machines

A report is a record with the identity of the run, a summary, the failures, if there are any, and
all violations. Counts by severity are sorted, in JSON by their names and in YAML in natural
order.
-/

set_option autoImplicit false

namespace ModuleLint.Report

/-- The identity of a run and how long it took, in milliseconds and in words. -/
structure RunStamp where
  runId : String
  milliseconds : Int
  elapsed : String
deriving Repr, DecidableEq

/-- The stamp of a run of some duration, which is shown in whole milliseconds. -/
def RunStamp.ofDuration (runId : String) (d : Duration) : RunStamp :=
  let rounded := d.roundToMilliseconds
  { runId := runId, milliseconds := rounded.milliseconds, elapsed := rounded.text }

/-- The counts by severity in some order of the names. -/
def countsBySeverity (before : String → String → Bool) (r : BatchReport) : List (String × Data) :=
  (r.severities.mergeSort fun a b => !before b a).map fun name =>
    (name, .number (r.countOf name : Nat))

/-- A violation as a record. -/
def violationFields (v : Violation) : List (String × Data) :=
  [("rule_code", .text v.code), ("rule_name", .text v.ruleName), ("severity", .text v.severity),
    ("module_name", .text v.moduleName), ("line", .number v.line.toNat),
    ("column", .number v.column.toNat), ("message", .text v.message)]
  ++ (if v.snippet.isEmpty then [] else [("code_snippet", .text v.snippet)])

/-- A failed module as a record. -/
def failureFields (m : ModuleOutcome) (reason : String) : List (String × Data) :=
  [("path", .text m.path), ("module", .text m.moduleName), ("status", .text m.status.name),
    ("error", .text reason)]

/-- A report as a record. -/
def documentFields (before : String → String → Bool) (stamp : RunStamp) (r : BatchReport) :
    List (String × Data) :=
  [("run_id", .text stamp.runId),
    ("summary", .record
      [("modules", .number r.modules.length),
        ("failed", .number r.failures.length),
        ("violations", .number r.violations.length),
        ("by_severity", .record (countsBySeverity before r)),
        ("duration_ms", .number stamp.milliseconds)])]
  ++ (if r.failures.isEmpty then []
      else [("failures", .records (r.failures.map fun (m, reason) => failureFields m reason))])
  ++ [("violations", .records (r.violations.map violationFields))]

/-- A report as JSON. -/
def jsonText (stamp : RunStamp) (r : BatchReport) : String :=
  (Data.record (documentFields (fun a b => decide (a < b)) stamp r)).jsonText

/-- A report as YAML. -/
def yamlText (stamp : RunStamp) (r : BatchReport) : String :=
  Data.yamlText (documentFields Text.naturalBefore stamp r)

end ModuleLint.Report
