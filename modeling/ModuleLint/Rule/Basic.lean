import ModuleLint.Facts.Routines
import ModuleLint.Facts.Variables
import ModuleLint.Flow.Analysis
import ModuleLint.Rule.Violation

/-!
# Rules

A rule has an identity and a behaviour. It looks at functions, procedures and declarations of
variables while a module is walked, or at the facts gathered once the walk is over; a rule that
does neither looks at the module as a whole. A look ends in a verdict: violations, perhaps
together with an error, or a panic.
-/

set_option autoImplicit false

namespace ModuleLint

/-- The identity of a rule. -/
structure RuleInfo where
  code : String
  name : String
  description : String
  severity : String
deriving Repr, DecidableEq, Inhabited

/-- The outcome of one look of a rule. -/
inductive Verdict where
  | findings (violations : List Violation) (error : Option String)
  | panicked (panic : Panic)
deriving Repr, DecidableEq, Inhabited

/-- Violations and nothing else. -/
def Verdict.of (violations : List Violation) : Verdict := .findings violations none

/-- Where in a walk a rule looks. -/
structure Site where
  module? : Option Module
  scope : String
  routine : String
  inLoop : Bool
  inCondition : Bool

/-- All that was gathered about a module during its walk. -/
structure Facts where
  module : Module
  routines : RoutineFacts
  exemptExported : Bool
  mentions : List Mention
  flow : Flow.Findings

/-- The behaviour of a rule: what it looks at while a module is walked and after that. -/
structure Behaviour where
  onFunction : Option (RuleInfo → Routine → Site → Verdict) := none
  onProcedure : Option (RuleInfo → Routine → Site → Verdict) := none
  onVariable : Option (RuleInfo → Declaration → Site → Verdict) := none
  onFacts : Option (RuleInfo → Facts → Verdict) := none
  onModule : RuleInfo → Option Module → Verdict := fun _ _ => Verdict.of []

/-- Whether the rule looks at anything but the module as a whole. -/
def Behaviour.isHooked (b : Behaviour) : Bool :=
  b.onFunction.isSome || b.onProcedure.isSome || b.onVariable.isSome || b.onFacts.isSome

/-- An identity with a behaviour. -/
structure Rule where
  info : RuleInfo
  behaviour : Behaviour

/-- The rule with another severity. -/
def Rule.withSeverity (r : Rule) (severity : String) : Rule :=
  { r with info := { r.info with severity := severity } }

namespace RuleInfo

/-- A violation of the rule at a place of a module. -/
def violationAt (i : RuleInfo) (m : Option Module) (line column : UInt64) (message : String) :
    Violation :=
  { code := i.code
    ruleName := i.name
    severity := i.severity
    moduleName := match m with
      | some m => m.name
      | none => ""
    line := line
    column := column
    message := message
    snippet := match m with
      | some m => m.snippet line
      | none => "" }

/-- A violation of the rule at a node of a module. -/
def violation (i : RuleInfo) (m : Option Module) (span : Span) (message : String) : Violation :=
  i.violationAt m span.line span.column message

end RuleInfo

/-- Why a look of a rule failed. -/
inductive RuleFailure where
  | error (text : String)
  | panic (cause : Panic)
deriving Repr, DecidableEq

/-- The text of a failed look. -/
def RuleFailure.message : RuleFailure → String
  | .error text => text
  | .panic cause => "rule panicked: " ++ cause.text

/-- A failed look of a rule. -/
structure RuleError where
  code : String
  failure : RuleFailure
deriving Repr, DecidableEq

/-- The text of a rule's failure. -/
def RuleError.message (e : RuleError) : String :=
  "rule " ++ e.code ++ ": " ++ e.failure.message

end ModuleLint
