import ModuleLint.Decimal.Nearest

/-!
# JSON values

A value keeps what a text says and drops only its layout: numbers stay exact and remember how they
were written, and the members of an object stay in order with repeated keys.
-/

set_option autoImplicit false

namespace ModuleLint.Json

/-- A number as written: sign, digits before and after the point read as one number, how many of
them stand after the point, and the exponent if there is one. -/
structure Numeral where
  negative : Bool
  digits : Nat
  places : Nat
  exponent : Option Int
deriving Repr, DecidableEq, Inhabited

/-- The number that is written. -/
def Numeral.decimal (n : Numeral) : Decimal :=
  { negative := n.negative
    coefficient := n.digits
    exponent := n.exponent.getD 0 - (n.places : Int) }

/-- Whether the number is written with neither a point nor an exponent. -/
def Numeral.isPlain (n : Numeral) : Bool :=
  n.places == 0 && n.exponent.isNone

/-- A power of ten beyond which a number is no longer examined for being whole. -/
def Numeral.wholeLimit : Nat := 1000000

/-- Whether the exponent fits into a signed word of 64 bits. -/
def Numeral.hasWordExponent (n : Numeral) : Bool :=
  let e := n.exponent.getD 0
  Int64.minValue.toInt ≤ e && e ≤ Int64.maxValue.toInt

/-- Whether the value is known to be a whole number, however it is written. With an exponent that
does not fit into a word, not even zero is. -/
def Numeral.isWhole (n : Numeral) : Bool :=
  n.hasWordExponent
    && (n.digits == 0 || (n.decimal.exponent.natAbs ≤ Numeral.wholeLimit && n.decimal.isWhole))

/-- Whether the value is below zero; minus zero is not. -/
def Numeral.isBelowZero (n : Numeral) : Bool :=
  n.negative && n.digits != 0

/-- The double nearest to the value, `none` if it is too large. -/
def Numeral.nearest? (n : Numeral) : Option Float :=
  n.decimal.nearest?

/-- The value of a plain numeral without a sign that fits into 64 bits. -/
def Numeral.word? (n : Numeral) : Option UInt64 :=
  if n.isPlain && !n.negative && n.digits < Nat.pow 2 64 then some (UInt64.ofNat n.digits) else none

/-- A JSON value. -/
inductive Value where
  | null
  | bool (b : Bool)
  | number (n : Numeral)
  | text (s : String)
  | list (items : List Value)
  | object (members : List (String × Value))
deriving Repr, Inhabited

/-- The value of a key that is spelled exactly so; the last one counts if the key is repeated. -/
def lookup? (key : String) (members : List (String × Value)) : Option Value :=
  (members.reverse.find? (fun m => m.1 == key)).map (·.2)

end ModuleLint.Json
