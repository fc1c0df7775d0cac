/-!
# Decimal numbers and the doubles nearest to them

A decimal number is a sign, a coefficient and a power of ten. Its double is found in exact
arithmetic: the number is written as a fraction, the fraction is scaled by a power of two so that
the quotient has as many bits as a significand, and the quotient is rounded to nearest, a half going
to the even neighbour. Doubles are given by their bits.
-/

set_option autoImplicit false

namespace ModuleLint

/-- The number `± coefficient * 10 ^ exponent`. Minus zero is a number of its own. -/
structure Decimal where
  negative : Bool
  coefficient : Nat
  exponent : Int
deriving Repr, DecidableEq, Inhabited

/-- The quotient of two natural numbers rounded to nearest, a half going to the even neighbour. -/
def roundDiv (numerator denominator : Nat) : Nat :=
  let quotient := numerator / denominator
  let rest := numerator % denominator
  if 2 * rest > denominator || (2 * rest == denominator && quotient % 2 == 1) then quotient + 1
  else quotient

namespace Decimal

/-- The number of decimal digits of a natural number. -/
def digitCount (n : Nat) : Nat := (Nat.toDigits 10 n).length

/-- The bits of a double without a sign, from the significand (at most `2 ^ 53`) and the power of
two it is scaled by. A significand below `2 ^ 52` belongs to the least power. -/
def magnitudeBits (significand : Nat) (power : Int) : Nat :=
  if significand < Nat.pow 2 52 then significand
  else (power + 1075).toNat * Nat.pow 2 52 + (significand - Nat.pow 2 52)

/-- The bits of the double nearest to a positive fraction; they are those of infinity or more when
the fraction is too large. -/
def fractionBits (numerator denominator : Nat) : Nat :=
  let scaled (power : Int) : Nat × Nat :=
    if power ≥ 0 then (numerator, denominator * Nat.pow 2 power.toNat)
    else (numerator * Nat.pow 2 (-power).toNat, denominator)
  let guess : Int := (numerator.log2 : Int) - (denominator.log2 : Int) - 53
  let (n, d) := scaled guess
  let power := max (-1074) (if n / d ≥ Nat.pow 2 53 then guess + 1 else guess)
  let (n, d) := scaled power
  magnitudeBits (roundDiv n d) power

/-- The bits of positive infinity. -/
def infinityBits : Nat := 0x7FF * Nat.pow 2 52

/-- The bits of the double nearest to the absolute value of a decimal number, `none` when it is too
large. Numbers far outside of the range are settled by counting digits. -/
def nearestMagnitude? (d : Decimal) : Option Nat :=
  if d.coefficient == 0 then some 0
  else if d.exponent > 400 then none
  else if d.exponent + (digitCount d.coefficient : Int) < -400 then some 0
  else
    let bits :=
      if d.exponent ≥ 0 then fractionBits (d.coefficient * Nat.pow 10 d.exponent.toNat) 1
      else fractionBits d.coefficient (Nat.pow 10 (-d.exponent).toNat)
    if bits ≥ infinityBits then none else some bits

/-- The double nearest to a decimal number, `none` when it is too large. -/
def nearest? (d : Decimal) : Option Float :=
  d.nearestMagnitude?.map fun bits =>
    Float.ofBits (UInt64.ofNat (if d.negative then Nat.pow 2 63 + bits else bits))

/-- Whether the number is whole. -/
def isWhole (d : Decimal) : Bool :=
  d.coefficient == 0 || d.exponent ≥ 0 ||
    ((-d.exponent).toNat < digitCount d.coefficient
      && d.coefficient % Nat.pow 10 (-d.exponent).toNat == 0)

end Decimal

end ModuleLint
