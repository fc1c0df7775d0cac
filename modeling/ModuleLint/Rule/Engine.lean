import ModuleLint.Rule.Checker
import ModuleLint.Rule.Failure

/-!
# Analysing a module

One walk of a module gathers the facts about routines, variables and data flow and checks the rules;
then the rules look at the facts, and the violations are sorted. A missing module is analysed as an
empty one.
-/

set_option autoImplicit false

namespace ModuleLint

/-- How modules are analysed. -/
structure EngineOptions where
  exemptExported : Bool := false
  maxIterations : Int := 0
deriving Repr, DecidableEq, Inhabited

/-- All that is gathered during one walk. -/
structure EngineState where
  routines : RoutineFacts
  mentions : List Mention
  flow : Flow.Findings
  checker : CheckerState

/-- How the facts about a module are gathered on its walk. -/
structure Observers where
  routines : Hook Context RoutineFacts
  mentions : Hook Context (List Mention)
  flow : Hook Context Flow.Findings

/-- The observers of an analysis. -/
def Observers.standard (options : EngineOptions) : Observers :=
  { routines := RoutineFacts.hook
    mentions := Mentions.hook
    flow := Flow.Findings.hook (Flow.budgetOf options.maxIterations) }

namespace Engine

/-- Nothing has been gathered. -/
def start : EngineState :=
  { routines := RoutineFacts.empty, mentions := [], flow := Flow.Findings.empty,
    checker := Checker.start }

/-- The four observers of a walk, in the order in which they see a node: the three that gather facts,
and the checker. -/
def constituents (watch : Observers) (answers : Answers) (rules : List Rule) :
    List (Constituent Context EngineState) :=
  [ { typeName := "routine facts"
      hook := fun n c s => (watch.routines n c s.routines).map fun x => { s with routines := x } },
    { typeName := "mentions"
      hook := fun n c s => (watch.mentions n c s.mentions).map fun x => { s with mentions := x } },
    { typeName := "data flow"
      hook := fun n c s => (watch.flow n c s.flow).map fun x => { s with flow := x } },
    { typeName := "checker"
      hook := fun n c s =>
        (Checker.hook answers rules n c s.checker).map fun x => { s with checker := x } } ]

end Engine

/-- The analysis of one module: what was found, and the failures of the walk, of its observers on
nodes, of the data flow of single routines (among the facts) and of rules. -/
structure Analysis where
  moduleName : String
  violations : List Violation
  facts : Facts
  walkError : Option WalkError
  observerErrors : List ConstituentError
  checkerErrors : List RuleError

namespace Analysis

/-- What the observers of the walk report: their failures on nodes, and what the data flow and the
checker join of their own. -/
def observersFailure (a : Analysis) : Option Failure :=
  Failure.join (a.observerErrors.map (some ∘ Failure.constituent) ++
    [ Failure.join (a.facts.flow.errors.map (some ∘ Failure.budget)),
      Failure.join (a.checkerErrors.map (some ∘ Failure.rule)) ])

/-- All failures of an analysis joined, if there are any. -/
def failed (a : Analysis) : Option Failure :=
  Failure.join [a.walkError.map Failure.walk, a.observersFailure]

/-- The failures as one text, if there are any. -/
def failure (a : Analysis) : Option String := a.failed.map Failure.message

/-- The failures of single rules. -/
def ruleErrors (a : Analysis) : List RuleError := Failure.ruleErrorsIn a.failed

end Analysis

/-- Analyses a module with a list of rules, where the facts are gathered and the calls of rules
answered as given. -/
def analyzeWith (watch : Observers) (answers : Answers) (rules : List Rule) (options : EngineOptions)
    (m : Option Module) : Analysis :=
  let m := m.getD (Module.empty "")
  let p := walk Context.surroundings (FanOut.hook (Engine.constituents watch answers rules))
    (some m.outline) (Context.ofModule m.name) { state := Engine.start, errors := [] }
  let gathered := p.state.state
  let walkError := p.failure (.module m)
  let facts : Facts :=
    { module := m
      routines := gathered.routines
      exemptExported := options.exemptExported
      mentions := gathered.mentions
      flow := gathered.flow }
  let checked :=
    if walkError.isNone then Checker.checkFacts answers rules facts gathered.checker
    else gathered.checker
  { moduleName := m.name
    violations := Violation.sort checked.violations
    facts := facts
    walkError := walkError
    observerErrors := p.state.errors
    checkerErrors := checked.errors }

/-- Analyses a module with a list of rules. -/
def analyzeModule (rules : List Rule) (options : EngineOptions) (m : Option Module) : Analysis :=
  analyzeWith (Observers.standard options) Answers.own rules options m

/-- Checks a single rule: a hooked one by analysing the module with this rule alone, any other one
by its look at the module. -/
def Rule.check (r : Rule) (m : Option Module) : Verdict :=
  if r.behaviour.isHooked then
    let a := analyzeModule [r] {} m
    .findings a.violations a.failure
  else r.behaviour.onModule r.info m

end ModuleLint
