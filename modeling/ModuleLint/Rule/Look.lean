import ModuleLint.Rule.Basic

/-!
# Looks

The rules of an analysis are called together: at the module as a whole, at functions, procedures and
declarations on the way through it, and at the facts in the end. Each of these is a look, and every
rule that has a hook for it takes part. A rule may keep a state of its own from one call to the next,
so what is said at a call depends on when the call is made.
-/

set_option autoImplicit false

namespace ModuleLint

/-- What the rules look at together. -/
inductive Look where
  | module (m : Module)
  | function (r : Routine) (site : Site)
  | procedure (r : Routine) (site : Site)
  | declaration (d : Declaration) (site : Site)
  | facts (f : Facts)

namespace Rule

/-- Whether a rule is called for a look. -/
def takesPart (r : Rule) : Look → Bool
  | .module _ => !r.behaviour.isHooked
  | .function .. => r.behaviour.onFunction.isSome
  | .procedure .. => r.behaviour.onProcedure.isSome
  | .declaration .. => r.behaviour.onVariable.isSome
  | .facts _ => r.behaviour.onFacts.isSome

/-- What a rule says at a look, if it takes part in it. -/
def verdictAt? (r : Rule) : Look → Option Verdict
  | .module m =>
    if r.behaviour.isHooked then none else some (r.behaviour.onModule r.info (some m))
  | .function f site => r.behaviour.onFunction.map fun look => look r.info f site
  | .procedure p site => r.behaviour.onProcedure.map fun look => look r.info p site
  | .declaration d site => r.behaviour.onVariable.map fun look => look r.info d site
  | .facts f => r.behaviour.onFacts.map fun look => look r.info f

end Rule

/-- What rules answer when they are called: the verdict of a rule at a look, where the number tells
how many calls were made before. -/
abbrev Answers := Nat → Rule → Look → Verdict

/-- Every rule says what it says, whenever it is called. -/
def Answers.own : Answers := fun _ r l => (r.verdictAt? l).getD (Verdict.of [])

/-- The look at a node on the way through a module. -/
def lookAt? (m? : Option Module) (x : Node × Context) : Option Look :=
  let site : Site :=
    { module? := m?, scope := x.2.scope, routine := x.2.routineName, inLoop := x.2.inLoop
      inCondition := x.2.inCondition }
  match x.1 with
  | .module m => some (.module m)
  | .function r => some (.function r site)
  | .procedure r => some (.procedure r site)
  | .declaration d => some (.declaration d site)
  | _ => none

end ModuleLint
