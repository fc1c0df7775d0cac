import ModuleLint.Decimal.Nearest
import ModuleLint.Json.Reader
import ModuleLint.Text.Blank
import ModuleLint.Text.Bytes
import ModuleLint.Text.Case
import ModuleLint.Text.LetterTable
import ModuleLint.Text.Quoted

/-!
# Sizes in bytes

Sizes are shown with a binary unit and read with a binary or a decimal one. A size that is read is a
decimal number with an optional unit after it; commas inside of the number are ignored. The number
has as many bytes as the text starts with digits, points and commas, so digits of other scripts
are cut short, and no such text is a size.
-/

set_option autoImplicit false

namespace ModuleLint.Size

/-- The binary units in order. -/
def binaryUnits : List String := ["B", "KiB", "MiB", "GiB", "TiB", "PiB", "EiB"]

/-- A size with the largest binary unit that does not exceed it. The value is rounded to tenths, a
half going up, and the tenths are shown below ten only; above, a half goes to the even neighbour. -/
def text (n : UInt64) : String :=
  let n := n.toNat
  if n < 10 then toString n ++ " B"
  else
    let e := n.log2 / 10
    let unit := Nat.pow 1024 e
    let tenths := (20 * n + unit) / (2 * unit)
    let value :=
      if tenths < 100 then toString (tenths / 10) ++ "." ++ toString (tenths % 10)
      else toString (roundDiv tenths 10)
    value ++ " " ++ binaryUnits.getD e ""

/-- Why a size cannot be read. -/
inductive ParseError where
  | syntaxError (number : List Char) (fragment : List UInt8)
  | outOfRange (number : String)
  | unknownUnit (unit : String)
  | tooLarge (text : String)
deriving Repr, DecidableEq

/-- The text of a size that cannot be read. -/
def ParseError.message : ParseError → String
  | .syntaxError number fragment =>
    "strconv.ParseFloat: parsing " ++ Text.quotedWithBytes number fragment ++ ": invalid syntax"
  | .outOfRange number =>
    "strconv.ParseFloat: parsing " ++ Text.quoted number ++ ": value out of range"
  | .unknownUnit unit => "unhandled size name: " ++ unit
  | .tooLarge text => "too large: " ++ text

/-- The number of bytes of a unit in lower case. -/
def unitBytes? (unit : String) : Option Nat :=
  let scales : List (String × Nat) := [("k", 1), ("m", 2), ("g", 3), ("t", 4), ("p", 5), ("e", 6)]
  if unit == "" || unit == "b" then some 1
  else scales.findSome? fun (letter, power) =>
    if unit == letter || unit == letter ++ "b" then some (Nat.pow 1000 power)
    else if unit == letter ++ "i" || unit == letter ++ "ib" then some (Nat.pow 1024 power)
    else none

/-- A number of digits with at most one point and at least one digit. -/
def readPlainDecimal? (cs : List Char) : Option Decimal :=
  let (whole, rest) := cs.span Char.isDigit
  let fraction? := match rest with
    | [] => some []
    | '.' :: ds => if ds.all Char.isDigit then some ds else none
    | _ => none
  match fraction? with
  | some fraction =>
    if whole.isEmpty && fraction.isEmpty then none
    else some { negative := false
                coefficient := Json.digitsValue (whole ++ fraction)
                exponent := -(fraction.length : Int) }
  | none => none

/-- Whether a character can stand in the number of a size. -/
def isNumberChar (c : Char) : Bool := Text.isDecimalDigit c || c == '.' || c == ','

/-- The first double that is too large for 64 bits. -/
def wordLimit : Float := 18446744073709551616.0

/-- Reads a size. -/
def parse (s : String) : Except ParseError UInt64 :=
  let cs := s.toList
  let cut := Text.cutBytes (cs.takeWhile isNumberChar).length cs
  let number := cut.before.filter (· != ',')
  let unit := Text.lower (Text.trim (String.ofList cut.after))
  if !cut.lead.isEmpty then .error (.syntaxError number cut.lead)
  else match readPlainDecimal? number with
    | none => .error (.syntaxError number [])
    | some d =>
      match d.nearest? with
      | none => .error (.outOfRange (String.ofList number))
      | some x =>
        match unitBytes? unit with
        | none => .error (.unknownUnit unit)
        | some m =>
          let bytes := x * (UInt64.ofNat m).toFloat
          if bytes ≥ wordLimit then .error (.tooLarge s) else .ok bytes.toUInt64

end ModuleLint.Size
