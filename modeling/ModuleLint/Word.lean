import ModuleLint.Decimal.Nearest

/-!
# Numbers of limited size

Counts are kept in signed words of 64 bits, which wrap around, and shown as doubles, which hold 53
bits.
-/

set_option autoImplicit false

namespace ModuleLint.Word

/-- A number as a signed word of 64 bits. -/
def signed (n : Int) : Int := n.bmod (Nat.pow 2 64)

/-- The natural number nearest to a given one that a double can hold, a half going to the even
neighbour. -/
def nearestNatural (n : Nat) : Nat :=
  let unit := Nat.pow 2 (n.log2 - 52)
  roundDiv n unit * unit

/-- The whole number nearest to a given one that a double can hold. -/
def nearestWhole (n : Int) : Int :=
  if n < 0 then -(nearestNatural n.natAbs : Int) else nearestNatural n.natAbs

end ModuleLint.Word
