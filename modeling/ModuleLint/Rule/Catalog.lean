import ModuleLint.Rule.RoutineShape
import ModuleLint.Rule.Usage
import ModuleLint.Rule.VariableNames
import ModuleLint.Text.EditDistance

/-!
# The catalog of rules

The catalog lists all built-in rules in a fixed order. Settings tune their limits, leave some of
them out and change the severity of others. Every fault of the settings is reported: unknown codes
among the disabled ones in their order, then the faults of the severities by increasing code.
-/

set_option autoImplicit false

namespace ModuleLint

/-- The settings of the rules. Severities are given by pairs of a code and a level, with distinct
codes; loop counters that are not given are the usual ones. -/
structure RuleSettings where
  disabled : List String
  severity : List (String × String)
  maxParameters : Int
  maxDefaultParameters : Int
  maxProcedureLines : Int
  loopCounters : Option (List String)
deriving Repr, DecidableEq, Inhabited

/-- The usual names of loop counters. -/
def defaultLoopCounters : List String := ["i", "j", "k", "n", "m"]

/-- The settings that hold unless others are given. -/
def RuleSettings.default : RuleSettings :=
  { disabled := []
    severity := []
    maxParameters := 7
    maxDefaultParameters := 3
    maxProcedureLines := 50
    loopCounters := some defaultLoopCounters }

/-- A fault of the settings of the rules. -/
inductive CatalogError where
  | unknownRule (place code : String) (hint : Option String)
  | unknownSeverity (code level : String)
deriving Repr, DecidableEq

/-- The text of a fault. -/
def CatalogError.message : CatalogError → String
  | .unknownRule place code hint =>
    let base := "unknown rule code: " ++ place ++ " " ++ Text.quoted code
    match hint with
    | some known => base ++ " (did you mean " ++ known ++ "?)"
    | none => base
  | .unknownSeverity code level => "rule " ++ code ++ ": " ++ Severity.unknownMessage level

namespace Catalog

/-- All built-in rules. -/
def all (s : RuleSettings) : List Rule :=
  [ VariableNames.meaningful,
    VariableNames.camelCase,
    VariableNames.noUnderscore,
    VariableNames.minimumLength (s.loopCounters.getD defaultLoopCounters),
    VariableNames.flagNames,
    RoutineShape.oneStatementPerLine,
    RoutineShape.emptyProcedure,
    RoutineShape.procedureLength (UInt64.ofNat s.maxProcedureLines.toNat),
    RoutineShape.parameterCount s.maxParameters s.maxDefaultParameters,
    RoutineShape.missingComment,
    Usage.unusedRoutine,
    Usage.recursiveRoutine,
    Usage.missingReturnValue,
    Usage.deadStore,
    Usage.useBeforeAssignment ]

/-- The codes of all built-in rules. -/
def codes (s : RuleSettings) : List String := (all s).map (·.info.code)

/-- How many edits a mistyped code may be away from a known one to be taken for it. -/
def hintDistance : Int64 := 2

/-- An unknown code with the known one that was probably meant. -/
def unknown (known : List String) (place code : String) : CatalogError :=
  let (hint, found) := Text.closest code known hintDistance
  .unknownRule place code (if found then some hint else none)

/-- Codes are compared in upper case and without white space around them. -/
def normalizeCode (code : String) : String := Text.upper (Text.trim code)

/-- The faults of the disabled codes. -/
def disabledFaults (s : RuleSettings) : List CatalogError :=
  (s.disabled.map normalizeCode).filterMap fun code =>
    if (codes s).contains code then none else some (unknown (codes s) "disabled" code)

/-- The severities by increasing code. -/
def sortedSeverities (s : RuleSettings) : List (String × String) :=
  s.severity.mergeSort fun a b => decide (a.1 ≤ b.1)

/-- The fault of one severity, if it has one. An unknown code hides an unknown level. -/
def severityFault? (s : RuleSettings) (entry : String × String) : Option CatalogError :=
  let code := Text.upper entry.1
  if (codes s).contains code then
    match Severity.parse? entry.2 with
    | some _ => none
    | none => some (.unknownSeverity code entry.2)
  else some (unknown (codes s) "severity override" code)

/-- All faults of the settings. -/
def faults (s : RuleSettings) : List CatalogError :=
  disabledFaults s ++ (sortedSeverities s).filterMap (severityFault? s)

/-- Gives the rule with the code of a severity entry the level of that entry. -/
def applySeverity (rules : List Rule) (entry : String × String) : List Rule :=
  match Severity.parse? entry.2 with
  | some level => rules.map fun r =>
      if r.info.code == Text.upper entry.1 then r.withSeverity level.name else r
  | none => rules

/-- The active rules: all but the disabled ones, with the configured severities. -/
def active (s : RuleSettings) : List Rule :=
  ((sortedSeverities s).foldl applySeverity (all s)).filter fun r =>
    !(s.disabled.map normalizeCode).contains r.info.code

/-- The active rules, or all faults of the settings. -/
def select (s : RuleSettings) : Except (List CatalogError) (List Rule) :=
  match faults s with
  | [] => .ok (active s)
  | es => .error es

end Catalog

end ModuleLint
