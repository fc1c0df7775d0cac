import ModuleLint.Decimal.Shortest
import ModuleLint.Text.Lines
import ModuleLint.Text.Number
import ModuleLint.Yaml.Moment

/-!
# What a plain scalar means

A scalar without quotes is not always a text: depending on its spelling it is read as null, a
truth value, a number or a point in time. Some older spellings of truth values and of numbers to
the base of sixty are no longer read so, but a writer still avoids them.
-/

set_option autoImplicit false

namespace ModuleLint.Yaml

/-- Spellings of null, of truth values and of the numbers without digits. -/
def reservedWords : List String :=
  ["", "~", "null", "Null", "NULL", "true", "True", "TRUE", "false", "False", "FALSE",
    ".nan", ".NaN", ".NAN", ".inf", ".Inf", ".INF", "+.inf", "+.Inf", "+.INF", "-.inf", "-.Inf",
    "-.INF"]

/-- Older spellings of truth values. -/
def formerTruthWords : List String :=
  ["y", "Y", "yes", "Yes", "YES", "on", "On", "ON", "n", "N", "no", "No", "NO", "off", "Off", "OFF"]

/-- The digits after the letter of a binary or octal number may have a sign of their own. -/
def signedAfterLetter? : List Char → Option (Bool × Nat)
  | '0' :: letter :: rest =>
    if letter == 'b' || letter == 'o' then
      match Text.splitSign rest with
      | (some negative, d :: ds) =>
        (Text.valueIn? (if letter == 'b' then 2 else 8) (d :: ds)).map fun n => (negative, n)
      | _ => none
    else none
  | _ => none

/-- The integer that is written: its sign and its magnitude. A number with a sign has to fit into a
signed word, any other one into an unsigned word. -/
def integer? (cs : List Char) : Option Int :=
  let (sign, rest) := Text.splitSign cs
  let limit := match sign with
    | none => Nat.pow 2 64
    | some negative => Text.magnitudeLimit negative
  match (Text.unsigned? rest).filter (· < limit) with
  | some n => some (if sign == some true then -(n : Int) else n)
  | none =>
    (signedAfterLetter? cs).bind fun (negative, n) =>
      if n < Text.magnitudeLimit negative then some (if negative then -(n : Int) else n) else none

/-- The double that is written in decimal, if it is not too large. -/
def float? (cs : List Char) : Option Float := (Text.decimal? cs).bind (·.nearest?)

/-- One or two digits below sixty. -/
def isSixtieth : List Char → Bool
  | [a] => a.isDigit
  | [a, b] => '0' ≤ a && a ≤ '5' && b.isDigit
  | _ => false

/-- Whether the parts after the first one of a number to the base of sixty are right: up to two
digits below sixty each, with an optional fraction after the last. -/
def isSexagesimalTail : List (List Char) → Bool
  | [] => false
  | [last] =>
    let (digits, rest) := last.span Char.isDigit
    isSixtieth digits && match rest with
      | [] => true
      | '.' :: fraction => fraction.all fun c => c.isDigit || c == '_'
      | _ => false
  | part :: rest => isSixtieth part && isSexagesimalTail rest

/-- Whether a number to the base of sixty is written. -/
def isSexagesimal (cs : List Char) : Bool :=
  match Text.splitAt ':' (Text.splitSign cs).2 with
  | (d :: ds) :: tail =>
    d.isDigit && ds.all (fun c => c.isDigit || c == '_') && isSexagesimalTail tail
  | _ => false

/-- What a plain scalar stands for. -/
inductive Meaning where
  | null
  | flag (b : Bool)
  | integer (n : Int)
  | float (x : Float)
  | moment (m : Moment)
  | text (s : String)
deriving Repr

/-- What a reserved word stands for. -/
def Meaning.ofWord (s : String) : Meaning :=
  if ["true", "True", "TRUE"].contains s then .flag true
  else if ["false", "False", "FALSE"].contains s then .flag false
  else if [".nan", ".NaN", ".NAN"].contains s then .float (0.0 / 0.0)
  else if ["-.inf", "-.Inf", "-.INF"].contains s then .float (-(1.0 / 0.0))
  else if [".inf", ".Inf", ".INF", "+.inf", "+.Inf", "+.INF"].contains s then .float (1.0 / 0.0)
  else .null

/-- The number or the point in time that is written. -/
def Meaning.ofDigits? (cs : List Char) : Option Meaning :=
  match cs with
  | [] => none
  | c :: _ =>
    if c == '.' then ((Text.dropUnderscores? cs).bind float?).map .float
    else if c.isDigit || c == '+' || c == '-' then
      let plain := cs.filter (· != '_')
      match Moment.read? cs, integer? plain with
      | some m, _ => some (.moment m)
      | none, some n => some (.integer n)
      | none, none => (float? plain).map .float
    else none

/-- What a plain scalar stands for. -/
def Meaning.of (s : String) : Meaning :=
  if reservedWords.contains s then .ofWord s else (Meaning.ofDigits? s.toList).getD (.text s)

/-- The text of what a plain scalar stands for, when it is the name of something. -/
def Meaning.name : Meaning → String
  | .null => ""
  | .flag b => if b then "true" else "false"
  | .integer n => toString n
  | .float x => positionalText x
  | .moment m => m.text
  | .text s => s

/-- Whether a plain scalar is read as a text, also by older readers. -/
def isPlainText (s : String) : Bool :=
  !reservedWords.contains s && !formerTruthWords.contains s
    && (Meaning.ofDigits? s.toList).isNone && !isSexagesimal s.toList

end ModuleLint.Yaml
