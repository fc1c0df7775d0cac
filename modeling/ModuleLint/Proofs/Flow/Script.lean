import ModuleLint.Flow.Graph
import ModuleLint.Tree.Outline

/-!
# Runs of a routine

What a routine does to its variables, told from its text alone. The script of a routine lists the
effects of its text from top to bottom: first the variables it finds defined on entry, then every
read and every definition of its body. A place is a number in the script, so that two reads of one
variable on one line are still two places.

A run passes places in the order in which the routine would execute them. Nothing is known about
values: a condition may turn out either way, a loop may take any number of rounds, and a return
ends the routine wherever it stands. `Stmt.runs` says this for each kind of statement, by means of
a few ways to combine sets of runs.
-/

set_option autoImplicit false

namespace ModuleLint

namespace Flow

/-- What a piece of text does to a variable: it defines it or it reads it. -/
inductive Effect where
  | define (origin : Origin) (name : String) (span : Span)
  | read (r : Reference)
deriving Repr, DecidableEq

namespace Effect

/-- The variable concerned. -/
def name : Effect → String
  | define _ name _ => name
  | read r => r.name

/-- Where the effect stands. -/
def span : Effect → Span
  | define _ _ span => span
  | read r => r.span

/-- Whether a variable is defined. -/
def isDefinition : Effect → Bool
  | define .. => true
  | read _ => false

/-- Whether the variable of the given name is defined. -/
def defines (name : String) : Effect → Bool
  | define _ defined _ => defined == name
  | read _ => false

/-- Whether the variable of the given name is read. -/
def reads (name : String) : Effect → Bool
  | define .. => false
  | read r => r.name == name

/-- Whether the variable of the given name is declared inside of the routine. -/
def declares (name : String) : Effect → Bool
  | define .declaration declared _ => declared == name
  | _ => false

/-- The event of an effect that has `number` definitions before it. -/
def event (number : Nat) : Effect → Event
  | define _ name span =>
    { variableName := name, line := span.line, column := span.column, definition := some number }
  | read r =>
    { variableName := r.name, line := r.span.line, column := r.span.column, definition := none }

end Effect

/-- The number of definitions among some effects. -/
def definitionCount (effects : List Effect) : Nat := effects.countP Effect.isDefinition

/-- The events of some effects, with the definitions numbered from `number` on. -/
def eventsFrom (number : Nat) : List Effect → List Event
  | [] => []
  | e :: rest => e.event number :: eventsFrom (number + definitionCount [e]) rest

/-- The places of some effects, the first of which stands at place `n`. -/
def placesFrom (n : Nat) (effects : List Effect) : List Nat := List.range' n effects.length

/-- How a run of a part of a routine ends. -/
inductive Ending where
  | goesOn
  | returned
deriving Repr, DecidableEq

/-- A set of runs, given by the places they pass and how they end. -/
def Runs := List Nat → Ending → Prop

namespace Runs

/-- The run that passes the given places and goes on. -/
def pass (places : List Nat) : Runs := fun t e => t = places ∧ e = .goesOn

/-- The run that ends the routine at once. -/
def stop : Runs := fun t e => t = [] ∧ e = .returned

/-- First one part, then the other unless the first has ended the routine. -/
def andThen (p q : Runs) : Runs := fun t e =>
  (p t .returned ∧ e = .returned) ∨ ∃ u v, t = u ++ v ∧ p u .goesOn ∧ q v e

/-- Either part. -/
def either (p q : Runs) : Runs := fun t e => p t e ∨ q t e

/-- Any number of rounds: the head is passed before each of them and once more on leaving, unless
a round ends the routine. -/
inductive loop (head : List Nat) (body : Runs) : List Nat → Ending → Prop
  | leave : loop head body head .goesOn
  | again {t u : List Nat} {e : Ending} (round : body t .goesOn) (rest : loop head body u e) :
      loop head body (head ++ (t ++ u)) e
  | quit {t : List Nat} (round : body t .returned) : loop head body (head ++ t) .returned

end Runs

end Flow

open ModuleLint.Flow

/-- What a node inside of an expression does: a mention of a variable reads it. -/
def Node.read? : Node → Option Effect
  | .reference r => some (.read r)
  | _ => none

/-- The effects of an expression: it reads the variables that are mentioned in it, in the order of the text. -/
def Expr.effects (e : Expr) : List Effect := (nodesOfAll e.outline).filterMap Node.read?

/-- The effects of several expressions. -/
def effectsOfExprs (es : List Expr) : List Effect := (nodesOfAll (outlineOfExprs es)).filterMap Node.read?

/-- The effects of a variable that receives a value, if there is one. -/
def effectsOfTarget (origin : Origin) : Option Reference → List Effect
  | some r => [.define origin r.name r.span]
  | none => []

mutual

/-- The effects of a statement in the order of the text. A value is read before the variable it is
assigned to is defined, and what a loop runs over before its counter. -/
def Stmt.effects : Stmt → List Effect
  | .hole _ => []
  | .declare d => [.define .declaration d.name d.span]
  | .assign a => a.value.effects ++ effectsOfTarget .assignment a.target
  | .branch _ condition body alternatives otherwise =>
    condition.effects ++ (effectsOfStmts body
      ++ (effectsOfAlternatives alternatives ++ effectsOfStmts otherwise))
  | .loopWhile _ condition body => condition.effects ++ effectsOfStmts body
  | .loopFor _ counter first last collection body =>
    (first.effects ++ last.effects ++ collection.effects)
      ++ (effectsOfTarget .loopCounter counter ++ effectsOfStmts body)
  | .leave _ value => value.effects
  | .call c => effectsOfExprs c.arguments
  | .generic _ => []

/-- The effects of a block. -/
def effectsOfStmts : List Stmt → List Effect
  | [] => []
  | s :: rest => s.effects ++ effectsOfStmts rest

/-- The effects of a further condition and its block. -/
def Alternative.effects : Alternative → List Effect
  | .mk condition body => condition.effects ++ effectsOfStmts body

/-- The effects of all further conditions. -/
def effectsOfAlternatives : List Alternative → List Effect
  | [] => []
  | a :: rest => a.effects ++ effectsOfAlternatives rest

end

mutual

/-- The runs of a statement whose first effect stands at place `n`. A return passes what its value
reads and ends the routine. A branching statement passes its condition and takes its block, or
tests the further conditions in order, or takes the last block. A loop with a condition passes it
before each round, and a loop with a counter defines the counter before each round. -/
def Stmt.runs : Stmt → Nat → Runs
  | .hole _, _ => .pass []
  | .declare d, n => .pass (placesFrom n (Stmt.declare d).effects)
  | .assign a, n => .pass (placesFrom n (Stmt.assign a).effects)
  | .branch _ condition body alternatives otherwise, n =>
    let afterTest := n + condition.effects.length
    let afterBody := afterTest + (effectsOfStmts body).length
    let afterAlternatives := afterBody + (effectsOfAlternatives alternatives).length
    (Runs.pass (placesFrom n condition.effects)).andThen
      ((runsOfStmts body afterTest).either
        (runsOfAlternatives alternatives afterBody (runsOfStmts otherwise afterAlternatives)))
  | .loopWhile _ condition body, n =>
    .loop (placesFrom n condition.effects) (runsOfStmts body (n + condition.effects.length))
  | .loopFor _ counter first last collection body, n =>
    let bounds := first.effects ++ last.effects ++ collection.effects
    let head := effectsOfTarget .loopCounter counter
    (Runs.pass (placesFrom n bounds)).andThen
      (.loop (placesFrom (n + bounds.length) head)
        (runsOfStmts body (n + bounds.length + head.length)))
  | .leave _ value, n => (Runs.pass (placesFrom n value.effects)).andThen .stop
  | .call c, n => .pass (placesFrom n (Stmt.call c).effects)
  | .generic _, _ => .pass []

/-- The runs of a block, one statement after another. -/
def runsOfStmts : List Stmt → Nat → Runs
  | [], _ => .pass []
  | s :: rest, n => (s.runs n).andThen (runsOfStmts rest (n + s.effects.length))

/-- The runs that pass the test of a further condition and take its block or do something else. -/
def Alternative.runs : Alternative → Nat → Runs → Runs
  | .mk condition body, n, otherwise =>
    (Runs.pass (placesFrom n condition.effects)).andThen
      ((runsOfStmts body (n + condition.effects.length)).either otherwise)

/-- The runs through further conditions: they are tested in order until one is taken, or the rest
is taken when none is. -/
def runsOfAlternatives : List Alternative → Nat → Runs → Runs
  | [], _, otherwise => otherwise
  | a :: rest, n, otherwise =>
    a.runs n (runsOfAlternatives rest (n + a.effects.length) otherwise)

end

namespace Routine

/-- Whether a routine declares the name itself, at any depth of its body. -/
def declares (r : Routine) (name : String) : Bool := (effectsOfStmts r.body).any (·.declares name)

/-- What a routine of a module finds defined on entry: the variables of the module that it does not
declare itself, and then its parameters. -/
def entryEffects (m : Option Module) (r : Routine) : List Effect :=
  (match m with
    | some m => ((m.declarations.filterMap id).filter fun v => !r.declares v.name).map fun v =>
        .define .moduleVariable v.name v.span
    | none => [])
  ++ (r.parameters.filterMap id).map fun p => .define .parameter p.name p.span

/-- All effects of a routine in the order of the text. -/
def script (m : Option Module) (r : Routine) : List Effect :=
  r.entryEffects m ++ effectsOfStmts r.body

/-- The runs of a routine: the definitions on entry, then its body. -/
def runs (m : Option Module) (r : Routine) : Runs :=
  (Runs.pass (placesFrom 0 (r.entryEffects m))).andThen
    (runsOfStmts r.body (r.entryEffects m).length)

/-- Some execution of the routine passes the given places, from its start to its end. -/
def Executes (m : Option Module) (r : Routine) (places : List Nat) : Prop :=
  ∃ ending, r.runs m places ending

/-- The event that is shown at a place. -/
def eventAt (m : Option Module) (r : Routine) (place : Nat) : Option Event :=
  (eventsFrom 0 (r.script m))[place]?

/-- Some execution of the routine shows the given events. -/
def Traces (m : Option Module) (r : Routine) (trace : List Event) : Prop :=
  ∃ places, r.Executes m places ∧ places.map (r.eventAt m) = trace.map some

end Routine

end ModuleLint
