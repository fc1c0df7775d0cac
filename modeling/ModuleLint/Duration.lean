/-!
# Durations

A duration is a number of nanoseconds in a signed word of 64 bits. It is shown with the units `h`,
`m` and `s`, or with one smaller unit when it is below a second, and always without zeros at the
end of a fraction.
-/

set_option autoImplicit false

namespace ModuleLint

/-- A span of time. -/
structure Duration where
  nanoseconds : Int64
deriving Repr, DecidableEq, Inhabited

namespace Duration

/-- Nanoseconds in a millisecond. -/
def perMillisecond : Nat := 1000000

/-- Nanoseconds in a second. -/
def perSecond : Nat := 1000000000

/-- The duration rounded to milliseconds, a half going away from zero. What does not fit becomes the
longest duration of its sign. -/
def roundToMilliseconds (d : Duration) : Duration :=
  let n := d.nanoseconds.toInt
  let magnitude := n.natAbs
  let rest := magnitude % perMillisecond
  let rounded :=
    if 2 * rest < perMillisecond then magnitude - rest else magnitude + perMillisecond - rest
  if n < 0 then (if rounded > Nat.pow 2 63 then ⟨Int64.minValue⟩ else ⟨Int64.ofInt (-rounded)⟩)
  else if rounded ≥ Nat.pow 2 63 then ⟨Int64.maxValue⟩ else ⟨Int64.ofNat rounded⟩

/-- The whole milliseconds of a duration. -/
def milliseconds (d : Duration) : Int := d.nanoseconds.toInt.tdiv perMillisecond

/-- The duration in seconds as a double: whole seconds and the rest are converted apart. -/
def seconds (d : Duration) : Float :=
  let whole := d.nanoseconds / 1000000000
  let rest := d.nanoseconds % 1000000000
  whole.toFloat + rest.toFloat / 1e9

/-- A number of units with its fraction, given as a count of parts. -/
def withFraction (n parts places : Nat) : String :=
  let digits := Nat.toDigits 10 (n % parts)
  let padded := List.replicate (places - digits.length) '0' ++ digits
  let fraction := (padded.reverse.dropWhile (· == '0')).reverse
  toString (n / parts) ++ (if fraction.isEmpty then "" else "." ++ String.ofList fraction)

/-- The text of a span of time without its sign. -/
def magnitudeText (n : Nat) : String :=
  if n == 0 then "0s"
  else if n < 1000 then toString n ++ "ns"
  else if n < perMillisecond then withFraction n 1000 3 ++ "µs"
  else if n < perSecond then withFraction n perMillisecond 6 ++ "ms"
  else
    let minutes := n / (60 * perSecond)
    let seconds := withFraction (n % (60 * perSecond)) perSecond 9 ++ "s"
    if minutes == 0 then seconds
    else if minutes < 60 then toString minutes ++ "m" ++ seconds
    else toString (minutes / 60) ++ "h" ++ toString (minutes % 60) ++ "m" ++ seconds

/-- The text of a duration. -/
def text (d : Duration) : String :=
  let n := d.nanoseconds.toInt
  (if n < 0 then "-" else "") ++ magnitudeText n.natAbs

end Duration

end ModuleLint
