import ModuleLint.Flow.Analysis
import ModuleLint.Rule.Basic
import ModuleLint.Walk.FanOut

/-!
# The failures of an analysis

What fails while a module is analysed is joined to one failure: that of the walk, and those that its
observers noted down or report themselves, where the data flow and the checker join their own. The
failures of single rules are found again by descending through the joins.
-/

set_option autoImplicit false

namespace ModuleLint

/-- The failures of an analysis, joined as they were reported. -/
inductive Failure where
  | walk (e : WalkError)
  | constituent (e : ConstituentError)
  | budget (e : Flow.BudgetError)
  | rule (e : RuleError)
  | joined (parts : List Failure)

namespace Failure

/-- Joins what has failed. Nothing has failed if no part has. -/
def join (parts : List (Option Failure)) : Option Failure :=
  match parts.filterMap id with
  | [] => none
  | failed => some (.joined failed)

mutual

/-- The text of a failure, one line for each that is joined. -/
def message : Failure → String
  | .walk e => e.message
  | .constituent e => e.message
  | .budget e => e.message
  | .rule e => e.message
  | .joined parts => "\n".intercalate (messages parts)

def messages : List Failure → List String
  | [] => []
  | f :: rest => f.message :: messages rest

end

mutual

/-- The failures of single rules within a failure. -/
def ruleErrors : Failure → List RuleError
  | .rule e => [e]
  | .joined parts => ruleErrorsOfAll parts
  | _ => []

def ruleErrorsOfAll : List Failure → List RuleError
  | [] => []
  | f :: rest => f.ruleErrors ++ ruleErrorsOfAll rest

end

/-- The failures of single rules where nothing may have failed at all. -/
def ruleErrorsIn : Option Failure → List RuleError
  | none => []
  | some f => f.ruleErrors

end Failure

end ModuleLint
