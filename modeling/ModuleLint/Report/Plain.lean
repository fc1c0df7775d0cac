import ModuleLint.Report.Document
import ModuleLint.Rule.Basic
import ModuleLint.Rule.Severity
import ModuleLint.Terminal.Style
import ModuleLint.Terminal.Table
import ModuleLint.Text.Blank
import ModuleLint.Text.Grouped

/-!
# Reports for people

A table of all violations, a line for each failed module, and a summary. Severities are painted.
-/

set_option autoImplicit false

namespace ModuleLint.Report

open Terminal (paint Table)

/-- What a severity looks like. -/
def severityStyle : Severity → List Terminal.Attribute
  | .info => [.cyan]
  | .warning => [.yellow]
  | .error => [.red]
  | .critical => [.red, .bold]

/-- The name of a severity in its colours; an unknown one has none. -/
def paintedSeverity (colored : Bool) (name : String) : String :=
  match Severity.ofName? name with
  | some level => paint colored (severityStyle level) name
  | none => name

/-- The rows of a violation: its own and, if wanted, one for the line of code. -/
def violationRows (colored snippets : Bool) (v : Violation) : List (List String) :=
  [v.moduleName, toString v.line ++ ":" ++ toString v.column, paintedSeverity colored v.severity,
    v.code, v.message]
  :: (if snippets && !v.snippet.isEmpty then
        [["", "", "", "", paint colored [.faint] (Text.trim v.snippet)]]
      else [])

/-- The table of all violations. -/
def violationTable (colored snippets : Bool) (vs : List Violation) : Table :=
  { header := ["Module", "Location", "Severity", "Code", "Message"]
    rows := vs.flatMap (violationRows colored snippets) }

/-- The word for one or several things. -/
def plural (n : Nat) (one many : String) : String := if n == 1 then one else many

/-- The words for one and for several violations of a severity. -/
def severityWords : Severity → String × String
  | .info => ("info", "infoes")
  | .warning => ("warning", "warnings")
  | .error => ("error", "errors")
  | .critical => ("critical", "criticals")

/-- The count of the violations of a severity in words, if there are any. -/
def severityPart? (colored : Bool) (r : BatchReport) (level : Severity) : Option String :=
  let n := r.countOf level.name
  let (one, many) := severityWords level
  if n == 0 then none
  else some (Text.grouped n ++ " " ++ paint colored (severityStyle level) (plural n one many))

/-- The summary of a report, the gravest violations first. -/
def summaryLine (colored : Bool) (stamp : RunStamp) (r : BatchReport) : String :=
  let parts := Severity.all.reverse.filterMap (severityPart? colored r)
  let violations := r.violations.length
  let modules := r.modules.length
  let failed := r.failures.length
  Text.grouped violations ++ " " ++ plural violations "violation" "violations"
  ++ (if parts.isEmpty then "" else " (" ++ ", ".intercalate parts ++ ")")
  ++ " in " ++ Text.grouped modules ++ " " ++ plural modules "module" "modules"
  ++ (if failed == 0 then "" else ", " ++ paint colored [.red] (Text.grouped failed ++ " failed"))
  ++ ", " ++ stamp.elapsed

/-- The line about a failed module. -/
def failureLine (colored : Bool) (m : ModuleOutcome) (reason : String) : String :=
  paint colored [.red] (m.status.name ++ " " ++ m.path ++ ": " ++ reason) ++ "\n"

/-- A report for people. -/
def plainText (colored snippets : Bool) (stamp : RunStamp) (r : BatchReport) : String :=
  (if r.violations.isEmpty then paint colored [.green] "No violations found." ++ "\n"
    else (violationTable colored snippets r.violations).render ++ "\n\n")
  ++ String.join (r.failures.map fun (m, reason) => failureLine colored m reason)
  ++ summaryLine colored stamp r ++ "\n"

/-- The table of some rules. -/
def ruleTable (colored : Bool) (rules : List Rule) : Table :=
  { header := ["Code", "Name", "Severity", "Description"]
    rows := rules.map fun r =>
      [r.info.code, r.info.name, paintedSeverity colored r.info.severity, r.info.description]
    footer := ["Total: " ++ toString rules.length ++ " rules"] }

/-- The list of some rules for people. -/
def rulesText (colored : Bool) (rules : List Rule) : String :=
  (ruleTable colored rules).render ++ "\n"

end ModuleLint.Report
