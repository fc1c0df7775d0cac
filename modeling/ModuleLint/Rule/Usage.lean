import ModuleLint.Rule.Basic

/-!
# Rules about how routines and variables are used

These rules look at the facts of a module once its walk is over.
-/

set_option autoImplicit false

namespace ModuleLint.Usage

/-- A rule that looks at the facts. -/
def rule (info : RuleInfo) (look : RuleInfo → Facts → List Violation) : Rule :=
  { info := info
    behaviour := { onFacts := some fun info facts => Verdict.of (look info facts) } }

/-- A violation at a routine. -/
def atRoutine (info : RuleInfo) (facts : Facts) (f : RoutineFact) (message : String) : Violation :=
  info.violation (some facts.module) f.declaration.span message

/-- What is said about a routine that is not called. -/
def unusedComplaint (f : RoutineFact) : String :=
  f.kind.name ++ " '" ++ f.name ++ "' is never called in this module"

/-- Every routine is called. -/
def unusedRoutine : Rule :=
  rule
    { code := "FUN-06"
      name := "Unused routine"
      description := "Every routine should be called from somewhere in the module"
      severity := Severity.warning.name }
    fun info facts => (facts.routines.unused facts.exemptExported).map fun f =>
      atRoutine info facts f (unusedComplaint f)

/-- What is said about a routine that calls itself. -/
def recursiveComplaint (f : RoutineFact) : String := f.kind.name ++ " '" ++ f.name ++ "' calls itself"

/-- Recursion is pointed out. -/
def recursiveRoutine : Rule :=
  rule
    { code := "FUN-07"
      name := "Recursive routine"
      description := "Direct recursion should be deliberate and bounded"
      severity := Severity.info.name }
    fun info facts => facts.routines.selfCalling.map fun f =>
      atRoutine info facts f (recursiveComplaint f)

/-- What is said about a function that returns nothing. -/
def returnComplaint (f : RoutineFact) : String := "function '" ++ f.name ++ "' never returns a value"

/-- A function returns a value somewhere. -/
def missingReturnValue : Rule :=
  rule
    { code := "FUN-08"
      name := "Function returns no value"
      description := "A function should return a value; use a procedure otherwise"
      severity := Severity.warning.name }
    fun info facts =>
      ((facts.routines.ofKind .function).filter fun f => !f.returns.any (·.hasValue)).map fun f =>
        atRoutine info facts f (returnComplaint f)

/-- What is said about an assignment in a routine whose value is not read. -/
def deadComplaint (r : Flow.Result) (d : Flow.Definition) : String :=
  "value assigned to '" ++ d.variableName ++ "' in '" ++ r.routine.name ++ "' is never read"

/-- An assigned value is read. -/
def deadStore : Rule :=
  rule
    { code := "DFA-01"
      name := "Dead store"
      description := "An assigned value should be read before it is overwritten or goes out of scope"
      severity := Severity.warning.name }
    fun info facts => facts.flow.results.flatMap fun r => r.deadDefinitions.map fun (_, d) =>
      info.violationAt (some facts.module) d.line d.column (deadComplaint r d)

/-- What is said about a read in a routine that no assignment reaches. -/
def undefinedComplaint (r : Flow.Result) (u : Flow.Use) : String :=
  "'" ++ u.variableName ++ "' is read in '" ++ r.routine.name ++ "' before any assignment reaches it"

/-- A variable is assigned before it is read. -/
def useBeforeAssignment : Rule :=
  rule
    { code := "DFA-02"
      name := "Use before assignment"
      description := "A local variable should be assigned on every path before it is read"
      severity := Severity.error.name }
    fun info facts => facts.flow.results.flatMap fun r => r.undefinedUses.map fun u =>
      info.violationAt (some facts.module) u.line u.column (undefinedComplaint r u)

end ModuleLint.Usage
