import ModuleLint.Text.Number
import ModuleLint.Yaml.Moment

/-!
# TOML numbers and points in time

Whole numbers are decimal, or in another base after a zero and a letter. A number with a point or
an exponent is a double. Underscores may stand between digits, and a decimal number has no zeros
in front. Points in time have two digits for each part and may lack the date, the time or the time
zone.
-/

set_option autoImplicit false

namespace ModuleLint.Toml

/-- A number, or a point in time. -/
inductive Quantity where
  | integer (n : Int)
  | float (x : Float)
  | moment
deriving Repr

/-- Whether no two underscores stand together, and none at an end. -/
def separatesParts (cs : List Char) : Bool :=
  cs.head? != some '_' && cs.getLast? != some '_'
    && (cs.zip (cs.drop 1)).all fun (a, b) => !(a == '_' && b == '_')

/-- The magnitude of a number in a base without its underscores. -/
def magnitude? (base : Nat) (digits : List Char) : Option Nat :=
  if digits.isEmpty || !separatesParts digits then none
  else Text.valueIn? base (digits.filter (· != '_'))

/-- A decimal number with or without a sign. -/
def decimal? (cs : List Char) : Option Int := do
  let (sign, digits) := Text.splitSign cs
  let n ← magnitude? 10 digits
  if (digits.length > 1 && digits.head? == some '0')
      || n ≥ Text.magnitudeLimit (sign == some true) then none
  else some (if sign == some true then -(n : Int) else n)

/-- Whether the underscores of a double are right: each between digits. -/
def separatesDigits (cs : List Char) : Bool :=
  let isApart (c : Char) : Bool := c == '_' || c == '.' || c == 'e' || c == 'E'
  separatesParts cs
    && (cs.zip (cs.drop 1)).all fun (a, b) =>
      !(a == '_' && isApart b) && !(isApart a && b == '_') && !((a == '+' || a == '-') && b == '_')

/-- Whether each point has a digit before and after it. -/
def hasDigitsAroundPoints : Option Char → List Char → Bool
  | _, [] => true
  | before, c :: rest =>
    (c != '.' || (before.any Char.isDigit && rest.head?.any Char.isDigit))
      && hasDigitsAroundPoints (some c) rest

/-- A double. -/
def double? (cs : List Char) : Option Float :=
  let plain := cs.filter (· != '_')
  let unsigned := (Text.splitSign plain).2
  let hasZero := unsigned.head? == some '0' && (unsigned.drop 1).head?.any Char.isDigit
  if unsigned == ['n', 'a', 'n'] then some (0.0 / 0.0)
  else if !separatesDigits cs || !hasDigitsAroundPoints none plain || hasZero then none
  else Text.float? (String.ofList plain)

/-- The word `inf` or `nan` at the start, and the rest. -/
def specialWord? (cs : List Char) : Option (List Char × List Char) :=
  let word := cs.take 3
  if word == ['i', 'n', 'f'] || word == ['n', 'a', 'n'] then some (word, cs.drop 3) else none

/-- The characters of a decimal number or a double, whether it is a double, and the rest. -/
def numeral? : List Char → Option (List Char × Bool × List Char)
  | [] => some ([], false, [])
  | c :: rest =>
    if c.isDigit || c == '+' || c == '-' || c == '_' then
      (numeral? rest).map fun (s, isDouble, rest) => (c :: s, isDouble, rest)
    else if c == '.' || c == 'e' || c == 'E' then
      (numeral? rest).map fun (s, _, rest) => (c :: s, true, rest)
    else if c == 'i' || c == 'n' then
      (specialWord? (c :: rest)).map fun (word, rest) => (word, true, rest)
    else some ([], false, c :: rest)

/-- The base that a letter after a zero stands for. -/
def baseOf? : List Char → Option Nat
  | '0' :: 'x' :: _ => some 16
  | '0' :: 'o' :: _ => some 8
  | '0' :: 'b' :: _ => some 2
  | _ => none

/-- A number, and the rest. -/
def number? (cs : List Char) : Option (Quantity × List Char) :=
  match baseOf? cs with
  | some base =>
    let isDigit (c : Char) : Bool := c == '_' || (Text.digitIn? base c).isSome
    let body := cs.drop 2
    ((magnitude? base (body.takeWhile isDigit)).filter (· < Nat.pow 2 63)).map fun n =>
      (.integer n, body.dropWhile isDigit)
  | none => do
    let (s, isDouble, rest) ← numeral? cs
    if isDouble then (double? s).map fun x => (.float x, rest)
    else (decimal? s).map fun n => (.integer n, rest)

/-- Whether a date or a time starts here: digits up to a colon in the third place, or up to a hyphen
in the fifth. -/
def startsMoment (cs : List Char) : Bool :=
  let digits := (cs.take 4).takeWhile Char.isDigit
  match cs.drop digits.length with
  | c :: _ => (digits.length == 2 && c == ':') || (digits.length == 4 && c == '-')
  | [] => false

/-- Two digits, and the rest. -/
def twoDigits? : List Char → Option (Nat × List Char)
  | a :: b :: rest =>
    if a.isDigit && b.isDigit then some (Json.digitsValue [a, b], rest) else none
  | _ => none

/-- The rest after a date that the calendar has. -/
def date? (cs : List Char) : Option (List Char) := do
  let (century, rest) ← twoDigits? cs
  let (year, rest) ← twoDigits? rest
  let rest ← Yaml.Moment.expectChar? '-' rest
  let (month, rest) ← twoDigits? rest
  let rest ← Yaml.Moment.expectChar? '-' rest
  let (day, rest) ← twoDigits? rest
  if Yaml.Moment.isDate (100 * century + year) month day then some rest else none

/-- The rest after a time of day, which may have a fraction of a second. A minute can have one
second more than sixty. -/
def time? (cs : List Char) : Option (List Char) := do
  let (hour, rest) ← twoDigits? cs
  let rest ← Yaml.Moment.expectChar? ':' rest
  let (minute, rest) ← twoDigits? rest
  let rest ← Yaml.Moment.expectChar? ':' rest
  let (second, rest) ← twoDigits? rest
  if hour > 23 || minute > 59 || second > 60 then none
  else match rest with
    | '.' :: more =>
      if more.head?.any Char.isDigit then some (more.dropWhile Char.isDigit) else none
    | _ => some rest

/-- The rest after a time zone, if there is one. -/
def zone? : List Char → Option (List Char)
  | [] => some []
  | c :: rest =>
    if c == 'Z' || c == 'z' then some rest
    else if c == '+' || c == '-' then do
      let (hours, rest) ← twoDigits? rest
      let rest ← Yaml.Moment.expectChar? ':' rest
      let (minutes, rest) ← twoDigits? rest
      if hours > 23 || minutes > 59 then none else some rest
    else some (c :: rest)

/-- The rest after a point in time, which cannot be followed by more of its characters. -/
def moment? (cs : List Char) : Option (List Char) := do
  let rest ←
    if (cs.drop 2).head? == some ':' then time? cs
    else do
      let rest ← date? cs
      match rest with
      | c :: d :: more =>
        if c == 'T' || c == 't' || (c == ' ' && d.isDigit) then
          (time? (d :: more)).bind zone?
        else some (c :: d :: more)
      | _ => some rest
  let goesOn (c : Char) : Bool :=
    c.isDigit || ['-', '+', ':', '.', 'T', 't', 'Z', 'z'].contains c
  if rest.head?.any goesOn then none else some rest

/-- A number or a point in time, and the rest. -/
def quantity? (cs : List Char) : Option (Quantity × List Char) :=
  if startsMoment cs then (moment? cs).map fun rest => (.moment, rest) else number? cs

end ModuleLint.Toml
