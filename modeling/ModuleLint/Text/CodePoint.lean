/-!
# Runs of code points

Properties of characters that a standard defines by enumeration are kept as lists of runs. A run
is an arithmetic progression of code points: a plain interval has step one, and an alternation of
two alphabets (capital, small, capital, small, ...) has step two.
-/

set_option autoImplicit false

namespace ModuleLint.Text

/-- The code points `first`, `first + step`, ... up to `last`. -/
structure Run where
  first : Nat
  last : Nat
  step : Nat := 1
deriving Repr, DecidableEq

/-- A code point lies in a run when it is between the ends and a whole number of steps away. -/
def Run.contains (r : Run) (n : Nat) : Bool :=
  r.first ≤ n && n ≤ r.last && (n - r.first) % r.step == 0

/-- A code point has an enumerated property when one of the runs contains it. -/
def Run.anyContains (runs : List Run) (n : Nat) : Bool :=
  runs.any (·.contains n)

/-- A run whose members are all carried the same distance by a mapping. -/
structure ShiftedRun extends Run where
  shift : Int
deriving Repr, DecidableEq

/-- The image of a code point under a mapping given by shifted runs; outside of all of them the
mapping is the identity. -/
def ShiftedRun.image (runs : List ShiftedRun) (n : Nat) : Nat :=
  match runs.find? (fun r => r.toRun.contains n) with
  | some r => (Int.ofNat n + r.shift).toNat
  | none => n

end ModuleLint.Text
