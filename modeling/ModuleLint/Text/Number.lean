import ModuleLint.Decimal.Nearest
import ModuleLint.Json.Reader

/-!
# Numbers in texts

Integers are written in decimal, or after a leading zero with a letter in another base; a leading
zero alone makes a number octal. Numbers with a fraction are written in decimal, or in hexadecimal
with a binary exponent. Underscores may separate digits.
-/

set_option autoImplicit false

namespace ModuleLint.Text

/-- The sign of a number, if it has one, and the rest of it. A minus is `true`. -/
def splitSign : List Char → Option Bool × List Char
  | '+' :: rest => (some false, rest)
  | '-' :: rest => (some true, rest)
  | cs => (none, cs)

/-- The value of a digit in some base up to sixteen. -/
def digitIn? (base : Nat) (c : Char) : Option Nat :=
  (Json.hexValue? c).filter (· < base)

/-- The value of digits in a base. -/
def valueIn? (base : Nat) (cs : List Char) : Option Nat :=
  cs.foldlM (fun n c => (digitIn? base c).map (base * n + ·)) 0

/-- The base that a letter after a leading zero stands for. -/
def baseOf? (c : Char) : Option Nat :=
  if c == 'x' || c == 'X' then some 16
  else if c == 'o' || c == 'O' then some 8
  else if c == 'b' || c == 'B' then some 2
  else none

/-- The value of an integer without a sign and without underscores. -/
def unsigned? : List Char → Option Nat
  | [] => none
  | '0' :: letter :: d :: ds =>
    match baseOf? letter with
    | some base => valueIn? base (d :: ds)
    | none => valueIn? 8 (letter :: d :: ds)
  | '0' :: rest => valueIn? 8 rest
  | cs => valueIn? 10 cs

/-- The least magnitude that does not fit into a signed word. -/
def magnitudeLimit (negative : Bool) : Nat :=
  if negative then Nat.pow 2 63 + 1 else Nat.pow 2 63

/-- What stands before an underscore or after it: nothing yet, a digit, an underscore, or something
else. -/
inductive DigitContext where
  | start
  | digit
  | underscore
  | other
deriving Repr, DecidableEq

/-- Whether each underscore has a digit before and after it. -/
def separatesFrom (isDigit : Char → Bool) : DigitContext → List Char → Bool
  | context, [] => context != .underscore
  | context, c :: rest =>
    if isDigit c then separatesFrom isDigit .digit rest
    else if c == '_' then context == .digit && separatesFrom isDigit .underscore rest
    else context != .underscore && separatesFrom isDigit .other rest

/-- Whether the underscores in a number are where they may be; the letter of a base counts as a
digit. -/
def separatesDigits (cs : List Char) : Bool :=
  match (splitSign cs).2 with
  | '0' :: letter :: rest =>
    match baseOf? letter with
    | some 16 => separatesFrom (fun c => (Json.hexValue? c).isSome) .digit rest
    | some _ => separatesFrom Char.isDigit .digit rest
    | none => separatesFrom Char.isDigit .start ('0' :: letter :: rest)
  | body => separatesFrom Char.isDigit .start body

/-- A number without its underscores, if these are where they may be. -/
def dropUnderscores? (cs : List Char) : Option (List Char) :=
  if separatesDigits cs then some (cs.filter (· != '_')) else none

/-- Why a text is not an integer. -/
inductive IntegerFault where
  | malformed
  | outOfRange
deriving Repr, DecidableEq

/-- The base of an integer without a sign, and its digits. -/
def splitBase : List Char → Nat × List Char
  | '0' :: letter :: d :: ds =>
    match baseOf? letter with
    | some base => (base, d :: ds)
    | none => (8, letter :: d :: ds)
  | '0' :: rest => (8, rest)
  | cs => (10, cs)

/-- Reads digits on top of a number, whatever underscores are among them. The first character that
is no digit is a fault, and so is the first digit with which the number exceeds a word. -/
def readDigits (base : Nat) : Nat → List Char → Except IntegerFault Nat
  | n, [] => .ok n
  | n, c :: rest =>
    if c == '_' then readDigits base n rest
    else match digitIn? base c with
      | none => .error .malformed
      | some d =>
        if base * n + d < Nat.pow 2 64 then readDigits base (base * n + d) rest
        else .error .outOfRange

/-- Reads an integer that fits into a signed word. -/
def parseInteger (s : String) : Except IntegerFault Int := do
  let (sign, rest) := splitSign s.toList
  let negative := sign == some true
  if rest.isEmpty then throw .malformed
  let (base, digits) := splitBase rest
  let n ← readDigits base 0 digits
  if !separatesDigits s.toList then throw .malformed
  if n ≥ magnitudeLimit negative then throw .outOfRange
  pure (if negative then -(n : Int) else n)

/-- The integer that is written, if one is and it fits into a signed word. -/
def integer? (s : String) : Option Int := (parseInteger s).toOption

/-- An exponent and nothing after it; nothing at all is the exponent zero. -/
def exponent? (isMark : Char → Bool) : List Char → Option Int
  | [] => some 0
  | mark :: rest =>
    if !isMark mark then none
    else
      let (sign, ds) := splitSign rest
      if ds.isEmpty || !ds.all Char.isDigit then none
      else
        let n := (Json.digitsValue ds : Int)
        some (if sign == some true then -n else n)

/-- The digits before and after a point, and the rest. -/
def splitPoint (isDigit : Char → Bool) (cs : List Char) : List Char × List Char × List Char :=
  let (whole, rest) := cs.span isDigit
  match rest with
  | '.' :: more => let (fraction, rest) := more.span isDigit; (whole, fraction, rest)
  | _ => (whole, [], rest)

/-- A decimal number: digits with a point anywhere, at least one digit, and perhaps an exponent. -/
def decimal? (cs : List Char) : Option Decimal :=
  let (sign, rest) := splitSign cs
  let (whole, fraction, rest) := splitPoint Char.isDigit rest
  if whole.isEmpty && fraction.isEmpty then none
  else (exponent? (fun c => c == 'e' || c == 'E') rest).map fun e =>
    { negative := sign == some true
      coefficient := Json.digitsValue (whole ++ fraction)
      exponent := e - (fraction.length : Int) }

/-- The double nearest to `m * 2 ^ power`, `none` when it is too large. Numbers far outside of the
range are settled by counting bits. -/
def scaledByTwo? (negative : Bool) (m : Nat) (power : Int) : Option Float :=
  let bits? : Option Nat :=
    if m == 0 then some 0
    else if (m.log2 : Int) + power > 1100 then none
    else if (m.log2 : Int) + power < -1200 then some 0
    else
      let bits := if power ≥ 0 then Decimal.fractionBits (m * Nat.pow 2 power.toNat) 1
        else Decimal.fractionBits m (Nat.pow 2 (-power).toNat)
      if bits ≥ Decimal.infinityBits then none else some bits
  bits?.map fun bits => Float.ofBits (UInt64.ofNat (if negative then Nat.pow 2 63 + bits else bits))

/-- A hexadecimal number with a binary exponent: what follows `0x`. -/
def hexadecimal? (negative : Bool) (cs : List Char) : Option Float :=
  let isDigit (c : Char) : Bool := (Json.hexValue? c).isSome
  let (whole, fraction, rest) := splitPoint isDigit cs
  if (whole.isEmpty && fraction.isEmpty) || rest.isEmpty then none
  else do
    let m ← valueIn? 16 (whole ++ fraction)
    let e ← exponent? (fun c => c == 'p' || c == 'P') rest
    scaledByTwo? negative m (e - 4 * (fraction.length : Int))

/-- The double that is written, if it is not too large. -/
def finite? (cs : List Char) : Option Float :=
  let (sign, rest) := splitSign cs
  match rest with
  | '0' :: letter :: more =>
    if letter == 'x' || letter == 'X' then hexadecimal? (sign == some true) more
    else (decimal? cs).bind (·.nearest?)
  | _ => (decimal? cs).bind (·.nearest?)

/-- The double that is written, infinity and the value that is no number included. -/
def float? (s : String) : Option Float :=
  let (sign, rest) := splitSign s.toList
  let word := String.ofList (rest.map Char.toLower)
  if word == "inf" || word == "infinity" then
    some (if sign == some true then -(1.0 / 0.0) else 1.0 / 0.0)
  else if word == "nan" && sign.isNone then some (0.0 / 0.0)
  else (dropUnderscores? s.toList).bind finite?

end ModuleLint.Text
