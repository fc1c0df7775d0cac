import ModuleLint.Decimal.Nearest

/-!
# The shortest decimal that reads back

Of all decimal numbers that round to a given double, the one with the fewest digits is taken, and of
several with equally few digits the one nearest to the double. For one, two, ... digits the two
neighbours of the double on that decimal grid are tried in exact arithmetic; seventeen digits are
always enough.
-/

set_option autoImplicit false

namespace ModuleLint.Decimal

/-- A positive double `significand * 2 ^ power` with the ends of the interval of numbers that round
to it, all three multiplied by four and by the same power of two and ten so that they are whole. -/
structure Rounding where
  /-- Significand of the double. -/
  significand : Nat
  /-- Power of two of the double. -/
  power : Int
deriving Repr

/-- Reads significand and power off the bits of a finite double (its sign is ignored). -/
def Rounding.ofBits (bits : Nat) : Rounding :=
  let biased : Nat := bits / Nat.pow 2 52 % 2048
  let fraction := bits % Nat.pow 2 52
  if biased == 0 then { significand := fraction, power := -1074 }
  else { significand := Nat.pow 2 52 + fraction, power := (biased : Int) - 1075 }

/-- The interval below a power of two is half as wide, except at the least exponent. -/
def Rounding.lowerGap (r : Rounding) : Nat :=
  if r.significand == Nat.pow 2 52 && r.power > -1074 then 1 else 2

/-- Multiplies by a power of two or ten if it is a positive one. -/
def scaleUp (base n : Nat) (power : Int) : Nat :=
  if power > 0 then n * Nat.pow base power.toNat else n

/-- Whether `candidate * 10 ^ place` rounds to the double: it lies in the interval, whose ends
belong to it when the significand is even. -/
def Rounding.reads (r : Rounding) (candidate : Nat) (place : Int) : Bool :=
  let unit (n : Nat) : Nat := scaleUp 10 (scaleUp 2 n r.power) (-place)
  let value := scaleUp 2 (scaleUp 10 (4 * candidate) place) (-r.power)
  let low := unit (4 * r.significand - r.lowerGap)
  let high := unit (4 * r.significand + 2)
  if r.significand % 2 == 0 then low ≤ value && value ≤ high else low < value && value < high

/-- The double divided by `10 ^ place`, rounded down. -/
def Rounding.floorAt (r : Rounding) (place : Int) : Nat :=
  scaleUp 10 (scaleUp 2 r.significand r.power) (-place)
    / scaleUp 2 (scaleUp 10 1 place) (-r.power)

/-- Whether the lower of the two neighbours on the grid is at most as far away as the upper one. -/
def Rounding.lowerIsNearer (r : Rounding) (below : Nat) (place : Int) : Bool :=
  let exact := scaleUp 10 (scaleUp 2 (2 * r.significand) r.power) (-place)
  let middle := scaleUp 2 (scaleUp 10 (2 * below + 1) place) (-r.power)
  exact < middle || (exact == middle && below % 2 == 0)

/-- The neighbour on the grid of `10 ^ place` that reads back, the nearer one if both do. -/
def Rounding.onGrid? (r : Rounding) (place : Int) : Option Nat :=
  let below := r.floorAt place
  match r.reads below place, r.reads (below + 1) place with
  | true, true => some (if r.lowerIsNearer below place then below else below + 1)
  | true, false => some below
  | false, true => some (below + 1)
  | false, false => none

/-- The power of ten of the leading digit. -/
def Rounding.leadingPlace (r : Rounding) : Int :=
  if r.power ≥ 0 then (digitCount (r.significand * Nat.pow 2 r.power.toNat) : Int) - 1
  else
    let whole := r.significand / Nat.pow 2 (-r.power).toNat
    if whole > 0 then (digitCount whole : Int) - 1
    else
      -- Shift the number up by a power of ten that is surely enough to make it at least one.
      let shift : Nat := 330
      (digitCount (r.significand * Nat.pow 10 shift / Nat.pow 2 (-r.power).toNat) : Int) - 1 - shift

/-- Drops the zeros at the end of a coefficient, raising the exponent instead. -/
def stripZeros : Nat → Nat → Int → Nat × Int
  | 0, n, e => (n, e)
  | fuel + 1, n, e => if n != 0 && n % 10 == 0 then stripZeros fuel (n / 10) (e + 1) else (n, e)

/-- The shortest decimal that reads back as the finite double with the given bits. -/
def shortest (bits : UInt64) : Decimal :=
  let negative := decide (bits.toNat ≥ Nat.pow 2 63)
  let r := Rounding.ofBits bits.toNat
  if r.significand == 0 then { negative := negative, coefficient := 0, exponent := 0 }
  else
    let lead := r.leadingPlace
    let found := (List.range 18).findSome? fun (digits : Nat) =>
      let place := lead - (digits : Int)
      (r.onGrid? place).map fun c => (c, place)
    let (c, e) := found.getD (r.significand, 0)
    let (c, e) := stripZeros 400 c e
    { negative := negative, coefficient := c, exponent := e }

/-- Positional notation of a decimal number without an exponent. -/
def positional (d : Decimal) : String :=
  let digits := Nat.toDigits 10 d.coefficient
  let body :=
    if d.exponent ≥ 0 then digits ++ List.replicate d.exponent.toNat '0'
    else
      let places := (-d.exponent).toNat
      let filled := List.replicate (places + 1 - digits.length) '0' ++ digits
      let whole := filled.take (filled.length - places)
      whole ++ '.' :: filled.drop (filled.length - places)
  String.ofList (if d.negative then '-' :: body else body)

/-- Notation with one digit before the point and an exponent of at least two digits. -/
def scientific (d : Decimal) : String :=
  let digits := Nat.toDigits 10 d.coefficient
  let power := d.exponent + (digits.length : Int) - 1
  let mantissa := match digits with
    | [c] => [c]
    | c :: rest => c :: '.' :: rest
    | [] => ['0']
  let mark := if power < 0 then ['e', '-'] else ['e', '+']
  let exponent := Nat.toDigits 10 power.natAbs
  let padded := if exponent.length < 2 then '0' :: exponent else exponent
  String.ofList ((if d.negative then ['-'] else []) ++ mantissa ++ mark ++ padded)

/-- General notation: positional between `10 ^ -4` and `10 ^ 21`, with an exponent outside. -/
def general (d : Decimal) : String :=
  let power := d.exponent + (digitCount d.coefficient : Int) - 1
  if d.coefficient != 0 && (power < -4 || power ≥ 21) then scientific d else positional d

end ModuleLint.Decimal

namespace ModuleLint

/-- The text of a double that is not a finite number. -/
def specialText? (x : Float) : Option String :=
  if x.isNaN then some "NaN"
  else if x.isInf then some (if x > 0 then "+Inf" else "-Inf")
  else none

/-- The shortest positional text that reads back as the double. -/
def positionalText (x : Float) : String :=
  (specialText? x).getD (Decimal.positional (Decimal.shortest x.toBits))

/-- The shortest text that reads back as the double, with an exponent for very large and very small
numbers. -/
def generalText (x : Float) : String :=
  (specialText? x).getD (Decimal.general (Decimal.shortest x.toBits))

end ModuleLint
