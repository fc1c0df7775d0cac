import ModuleLint.Rule.Severity
import ModuleLint.Tree.Basic

/-!
# Violations

A violation says which rule is broken, where and how badly. Violations are listed by module, line,
column and rule; those that agree in all four stay in the order in which they were found.
-/

set_option autoImplicit false

namespace ModuleLint

/-- One failure of a rule. -/
structure Violation where
  code : String
  ruleName : String
  severity : String
  moduleName : String
  line : UInt64
  column : UInt64
  message : String
  snippet : String
deriving Repr, DecidableEq, Inhabited

namespace Violation

/-- The order of two violations by module, line, column and rule. -/
def compare (a b : Violation) : Ordering :=
  (Ord.compare a.moduleName b.moduleName).then <|
    (Ord.compare a.line b.line).then <|
      (Ord.compare a.column b.column).then (Ord.compare a.code b.code)

/-- Whether `a` may stand before `b`. -/
def le (a b : Violation) : Bool := (compare a b).isLE

/-- Violations in order; equal ones keep theirs. -/
def sort (vs : List Violation) : List Violation := vs.mergeSort le

end Violation

/-- The source line with the given number, without the white space around it; empty when there is no
such line. -/
def Module.snippet (m : Module) (line : UInt64) : String :=
  if line == 0 then ""
  else match m.source[line.toNat - 1]? with
    | some text => Text.trim text
    | none => ""

end ModuleLint
