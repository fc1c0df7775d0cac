import ModuleLint.Decimal.Shortest
import ModuleLint.Settings.Value
import ModuleLint.Telemetry.Headers
import ModuleLint.Text.Lines
import ModuleLint.Text.Number
import ModuleLint.Text.Truth

/-!
# Values of settings

Settings are lenient about types: numbers, truth values and texts are converted into each other
where that makes sense, and a text with commas is a list. A conversion that makes no sense fails.
-/

set_option autoImplicit false

namespace ModuleLint.Settings

/-- A double without its fraction as a signed word; what does not fit is the least word. -/
def truncate (x : Float) : Int :=
  if x > -9223372036854775808.0 && x < 9223372036854775808.0 then x.toInt64.toInt
  else Int64.minValue.toInt

/-- A whole number of 64 bits. -/
def int? : Value → Option Int
  | .integer n => some (Int64.ofInt n).toInt
  | .float x => some (truncate x)
  | .flag b => some (if b then 1 else 0)
  | .text s => if s.isEmpty then some 0 else Text.integer? s
  | _ => none

/-- A truth value; an empty text is false. -/
def flag? : Value → Option Bool
  | .flag b => some b
  | .integer n => some (n != 0)
  | .float x => some (x != 0)
  | .text s => if s.isEmpty then some false else Text.truth? s
  | _ => none

/-- A number with a fraction. -/
def float? : Value → Option Float
  | .integer n => some (Float.ofInt n)
  | .float x => some x
  | .flag b => some (if b then 1 else 0)
  | .text s => if s.isEmpty then some 0 else Text.float? s
  | _ => none

/-- A text; null is the empty one. -/
def text? : Value → Option String
  | .null => some ""
  | .text s => some s
  | .flag b => some (if b then "1" else "0")
  | .integer n => some (toString n)
  | .float x => some (positionalText x)
  | _ => none

/-- A list of texts. A single value is a list of one, and a text is split at its commas. -/
def texts? : Value → Option (List String)
  | .text s => some (if s.isEmpty then [] else Text.split ',' s)
  | .list items => items.mapM text?
  | .mapping [] => some []
  | value => (text? value).map fun s => [s]

/-- Adds the fields of a mapping to pairs that are sorted by their keys. -/
def addFields : List (String × Value) → List (String × String) → Option (List (String × String))
  | [], pairs => some pairs
  | (key, value) :: rest, pairs => do
    let shown ← text? value
    addFields rest (Telemetry.Headers.set key shown pairs)

mutual

/-- Adds what a mapping, or a list of mappings, holds to pairs that are sorted by their keys. -/
def addPairs : Value → List (String × String) → Option (List (String × String))
  | .null, pairs => some pairs
  | .mapping fields, pairs => addFields fields pairs
  | .list items, pairs => addAllPairs items pairs
  | _, _ => none

/-- Adds what several values hold. -/
def addAllPairs : List Value → List (String × String) → Option (List (String × String))
  | [], pairs => some pairs
  | value :: rest, pairs => (addPairs value pairs).bind (addAllPairs rest)

end

/-- Pairs of texts by increasing keys. -/
def pairs? (value : Value) : Option (List (String × String)) := addPairs value []

end ModuleLint.Settings
