import ModuleLint.Json.Reader

/-!
# Points in time

A point in time is written as a date, as a date and a time with blanks between them, or with a
`T` between them and a time zone after them. Months, days, hours, minutes and seconds may have one
digit.
-/

set_option autoImplicit false

namespace ModuleLint.Yaml

/-- A point in time in some zone. The fraction of the second is its digits, and the zone is given
by its distance in minutes. -/
structure Moment where
  year : Nat
  month : Nat
  day : Nat
  hour : Nat := 0
  minute : Nat := 0
  second : Nat := 0
  fraction : List Char := []
  offset : Int := 0
deriving Repr, DecidableEq

namespace Moment

/-- A number of one or two digits. -/
def shortNumber? : List Char → Option (Nat × List Char)
  | a :: b :: rest =>
    if !a.isDigit then none
    else if b.isDigit then some (Json.digitsValue [a, b], rest)
    else some (Json.digitsValue [a], b :: rest)
  | [a] => if a.isDigit then some (Json.digitsValue [a], []) else none
  | [] => none

/-- A given character and the rest. -/
def expectChar? (c : Char) : List Char → Option (List Char)
  | d :: rest => if d == c then some rest else none
  | [] => none

/-- The number of days of a month. -/
def daysOf (year month : Nat) : Nat :=
  if month == 2 then
    (if year % 4 == 0 && (year % 100 != 0 || year % 400 == 0) then 29 else 28)
  else if [4, 6, 9, 11].contains month then 30 else 31

/-- Whether a month has a day. -/
def isDate (year month day : Nat) : Bool :=
  1 ≤ month && month ≤ 12 && 1 ≤ day && day ≤ daysOf year month

/-- A year of four digits, a month and a day that the month has. -/
def date? (cs : List Char) : Option (Moment × List Char) := do
  let digits := cs.take 4
  if digits.length != 4 || !digits.all Char.isDigit then none
  let year := Json.digitsValue digits
  let rest ← expectChar? '-' (cs.drop 4)
  let (month, rest) ← shortNumber? rest
  let rest ← expectChar? '-' rest
  let (day, rest) ← shortNumber? rest
  if isDate year month day then some ({ year := year, month := month, day := day }, rest) else none

/-- The digits of the fraction of a second, if there is one. -/
def splitFraction : List Char → List Char × List Char
  | p :: d :: rest =>
    if (p == '.' || p == ',') && d.isDigit then (d :: rest).span Char.isDigit
    else ([], p :: d :: rest)
  | cs => ([], cs)

/-- Hours, minutes and seconds of a day. -/
def time? (date : Moment) (cs : List Char) : Option (Moment × List Char) := do
  let (hour, rest) ← shortNumber? cs
  let rest ← expectChar? ':' rest
  let (minute, rest) ← shortNumber? rest
  let rest ← expectChar? ':' rest
  let (second, rest) ← shortNumber? rest
  let (digits, rest) := splitFraction rest
  if hour < 24 && minute < 60 && second < 60 then
    some ({ date with hour := hour, minute := minute, second := second, fraction := digits }, rest)
  else none

/-- A time zone and nothing after it: `Z`, or a signed distance in hours and minutes. -/
def zone? : List Char → Option Int
  | ['Z'] => some 0
  | [sign, a, b, ':', c, d] =>
    let hours := Json.digitsValue [a, b]
    let minutes := Json.digitsValue [c, d]
    let distance : Int := (60 * hours + minutes : Nat)
    if ([a, b, c, d].any fun e => !e.isDigit) || hours > 24 || minutes > 60 then none
    else if sign == '+' then some distance
    else if sign == '-' then some (-distance)
    else none
  | _ => none

/-- The point in time that is written. -/
def read? (cs : List Char) : Option Moment := do
  let (date, rest) ← date? cs
  match rest with
  | [] => some date
  | c :: rest =>
    if c == 'T' || c == 't' then
      let (moment, rest) ← time? date rest
      (zone? rest).map fun offset => { moment with offset := offset }
    else if c == ' ' then
      let (moment, rest) ← time? date (rest.dropWhile (· == ' '))
      if rest.isEmpty then some moment else none
    else none

/-- A number with at least the given number of digits. -/
def padded (width n : Nat) : List Char :=
  let digits := Nat.toDigits 10 n
  List.replicate (width - digits.length) '0' ++ digits

/-- The first nine digits of the fraction without zeros at the end, after a point. -/
def fractionText (digits : List Char) : List Char :=
  match ((digits.take 9).reverse.dropWhile (· == '0')).reverse with
  | [] => []
  | shown => '.' :: shown

/-- The distance of a time zone: a sign, hours and minutes. -/
def offsetText (offset : Int) : List Char :=
  (if offset < 0 then '-' else '+')
    :: padded 2 (offset.natAbs / 60) ++ padded 2 (offset.natAbs % 60)

/-- A point in time in full: the date, the time, the distance of its zone and the name of the zone,
which is the distance again for all but the first. -/
def text (m : Moment) : String :=
  let date := padded 4 m.year ++ '-' :: padded 2 m.month ++ '-' :: padded 2 m.day
  let time := padded 2 m.hour ++ ':' :: padded 2 m.minute ++ ':' :: padded 2 m.second
  let name := if m.offset == 0 then ['U', 'T', 'C'] else offsetText m.offset
  String.ofList
    (date ++ ' ' :: time ++ fractionText m.fraction ++ ' ' :: offsetText m.offset ++ ' ' :: name)

end Moment

end ModuleLint.Yaml
