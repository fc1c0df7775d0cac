import ModuleLint.Text.Blank
import ModuleLint.Text.Case
import ModuleLint.Text.Quoted

/-!
# Severities

Violations are graded by one of four levels. A violation carries the name of its level as a text,
so a name that is none of the four can occur; it ranks below all levels.
-/

set_option autoImplicit false

namespace ModuleLint

/-- The levels, from the mildest to the gravest. -/
inductive Severity where
  | info
  | warning
  | error
  | critical
deriving Repr, DecidableEq, Inhabited

namespace Severity

/-- All levels, the mildest first. -/
def all : List Severity := [info, warning, error, critical]

/-- The name of a level. -/
def name : Severity → String
  | info => "INFO"
  | warning => "WARNING"
  | error => "ERROR"
  | critical => "CRITICAL"

/-- The position of a level among all levels. -/
def level : Severity → Nat
  | info => 0
  | warning => 1
  | error => 2
  | critical => 3

/-- The level with exactly this name. -/
def ofName? (s : String) : Option Severity := all.find? fun l => l.name == s

/-- The rank of a name: that of its level, or minus one. -/
def rank (s : String) : Int :=
  match ofName? s with
  | some l => (l.level : Int)
  | none => -1

/-- Whether the first name ranks at least as high as the second. -/
def atLeast (s other : String) : Bool := rank s ≥ rank other

/-- Reads the name of a level in any case and with white space around it. -/
def parse? (s : String) : Option Severity := ofName? (Text.upper (Text.trim s))

/-- The complaint about a name that is no level. -/
def unknownMessage (s : String) : String := "unknown severity: " ++ Text.quoted s

end Severity

end ModuleLint
