import ModuleLint.Rule.Look

/-!
# Checking rules during a walk

The checker calls the rules for the nodes they look at, in the order of their registration. It
keeps the violations and the failures in the order in which they occur. A failing look neither
ends the walk nor hides what other rules find, and violations that come with an error are kept.
-/

set_option autoImplicit false

namespace ModuleLint

/-- What the checker has found so far, and how many calls it has made. -/
structure CheckerState where
  module? : Option Module
  calls : Nat
  violations : List Violation
  errors : List RuleError

namespace Checker

/-- Nothing has been found. -/
def start : CheckerState := { module? := none, calls := 0, violations := [], errors := [] }

/-- Records the verdict of a rule. -/
def record (s : CheckerState) (code : String) (v : Verdict) : CheckerState :=
  match v with
  | .findings vs none => { s with violations := s.violations ++ vs }
  | .findings vs (some e) =>
    { s with
      violations := s.violations ++ vs
      errors := s.errors ++ [{ code := code, failure := .error e }] }
  | .panicked p => { s with errors := s.errors ++ [{ code := code, failure := .panic p }] }

/-- Calls a rule and records its verdict. -/
def ask (answers : Answers) (s : CheckerState) (r : Rule) (l : Look) : CheckerState :=
  record { s with calls := s.calls + 1 } r.info.code (answers s.calls r l)

/-- Calls every rule that takes part in a look. -/
def runAll (answers : Answers) (rules : List Rule) (l : Look) (s : CheckerState) : CheckerState :=
  rules.foldl (fun s r => if r.takesPart l then ask answers s r l else s) s

/-- What a node adds to the findings. A module starts afresh with the rules that look at it as a
whole. -/
def observe (answers : Answers) (rules : List Rule) (n : Node) (c : Context) (s : CheckerState) :
    CheckerState :=
  match n with
  | .module m =>
    runAll answers rules (.module m)
      { module? := some m, calls := s.calls, violations := [], errors := [] }
  | _ =>
    match lookAt? s.module? (n, c) with
    | some l => runAll answers rules l s
    | none => s

/-- The hook that checks rules. -/
def hook (answers : Answers) (rules : List Rule) : Hook Context CheckerState :=
  fun n c s => { state := observe answers rules n c s }

/-- Lets the rules look at the facts. -/
def checkFacts (answers : Answers) (rules : List Rule) (facts : Facts) (s : CheckerState) :
    CheckerState :=
  runAll answers rules (.facts facts) s

end Checker

end ModuleLint
