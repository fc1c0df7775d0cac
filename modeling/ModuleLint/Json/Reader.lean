import ModuleLint.Json.Basic

/-!
# Reading JSON

Each reader takes the characters still to be read and returns what it found with the characters
that follow. `readFirst` reads one value and leaves the rest of the text alone; `readWhole` also
asks that nothing but white space follows. Half of a surrogate pair reads as the replacement
character, and values may be nested at most `depthLimit` deep.
-/

set_option autoImplicit false

namespace ModuleLint.Json

/-- How many lists and objects may be open at the same time. -/
def depthLimit : Nat := 10000

/-- White space between tokens. -/
def isLayout (c : Char) : Bool :=
  c == ' ' || c == '\t' || c == '\n' || c == '\r'

/-- Drops white space before the next token. -/
def skipLayout (cs : List Char) : List Char :=
  cs.dropWhile isLayout

/-- The value of a sequence of decimal digits. -/
def digitsValue (ds : List Char) : Nat :=
  ds.foldl (fun n d => 10 * n + (d.toNat - '0'.toNat)) 0

/-- The digits at the front, if there is at least one. -/
def readDigits (cs : List Char) : Option (List Char × List Char) :=
  match cs.span Char.isDigit with
  | ([], _) => none
  | (ds, rest) => some (ds, rest)

/-- The digits before the point: a single zero, or digits that do not start with one. -/
def readWholePart : List Char → Option (List Char × List Char)
  | '0' :: rest => some (['0'], rest)
  | cs => readDigits cs

/-- The digits after the point, if there is a point. -/
def readFraction : List Char → Option (List Char × List Char)
  | '.' :: rest => readDigits rest
  | cs => some ([], cs)

/-- The exponent without its mark. -/
def readSignedDigits : List Char → Option (Int × List Char)
  | '-' :: rest => (readDigits rest).map fun (ds, r) => (-(digitsValue ds : Int), r)
  | '+' :: rest => (readDigits rest).map fun (ds, r) => ((digitsValue ds : Int), r)
  | cs => (readDigits cs).map fun (ds, r) => ((digitsValue ds : Int), r)

/-- The exponent, if there is one. -/
def readExponent : List Char → Option (Option Int × List Char)
  | 'e' :: rest => (readSignedDigits rest).map fun (e, r) => (some e, r)
  | 'E' :: rest => (readSignedDigits rest).map fun (e, r) => (some e, r)
  | cs => some (none, cs)

/-- A number after its sign. -/
def readUnsigned (negative : Bool) (cs : List Char) : Option (Numeral × List Char) := do
  let (whole, cs) ← readWholePart cs
  let (fraction, cs) ← readFraction cs
  let (exponent, cs) ← readExponent cs
  return ({ negative := negative
            digits := digitsValue (whole ++ fraction)
            places := fraction.length
            exponent := exponent }, cs)

/-- A number. -/
def readNumeral : List Char → Option (Numeral × List Char)
  | '-' :: rest => readUnsigned true rest
  | cs => readUnsigned false cs

/-- The value of a hexadecimal digit. -/
def hexValue? (c : Char) : Option Nat :=
  if c.isDigit then some (c.toNat - '0'.toNat)
  else if 'a' ≤ c ∧ c ≤ 'f' then some (c.toNat - 'a'.toNat + 10)
  else if 'A' ≤ c ∧ c ≤ 'F' then some (c.toNat - 'A'.toNat + 10)
  else none

/-- A unit of sixteen bits written with four hexadecimal digits. -/
def readUnit : List Char → Option (Nat × List Char)
  | a :: b :: c :: d :: rest => do
    let a ← hexValue? a
    let b ← hexValue? b
    let c ← hexValue? c
    let d ← hexValue? d
    return (((a * 16 + b) * 16 + c) * 16 + d, rest)
  | _ => none

/-- The unit that follows if it is written as an escape too. -/
def readNextUnit : List Char → Option (Nat × List Char)
  | '\\' :: 'u' :: rest => readUnit rest
  | _ => none

/-- The character that a unit stands for, together with the unit after it when the two are a
surrogate pair. -/
def combineUnit (unit : Nat) (rest : List Char) : Char × List Char :=
  if 0xD800 ≤ unit && unit < 0xE000 then
    match readNextUnit rest with
    | some (low, rest') =>
      if unit < 0xDC00 && 0xDC00 ≤ low && low < 0xE000 then
        (Char.ofNat (0x10000 + (unit - 0xD800) * 0x400 + (low - 0xDC00)), rest')
      else ('�', rest)
    | none => ('�', rest)
  else (Char.ofNat unit, rest)

/-- The character of an escape, after its backslash. -/
def readEscape : List Char → Option (Char × List Char)
  | '"' :: rest => some ('"', rest)
  | '\\' :: rest => some ('\\', rest)
  | '/' :: rest => some ('/', rest)
  | 'b' :: rest => some ('\x08', rest)
  | 'f' :: rest => some ('\x0c', rest)
  | 'n' :: rest => some ('\n', rest)
  | 'r' :: rest => some ('\r', rest)
  | 't' :: rest => some ('\t', rest)
  | 'u' :: rest => (readUnit rest).map fun (unit, r) => combineUnit unit r
  | _ => none

/-- The characters of a string up to its closing quote. -/
def readCharacters : Nat → List Char → Option (List Char × List Char)
  | 0, _ => none
  | _ + 1, [] => none
  | fuel + 1, c :: rest =>
    if c == '"' then some ([], rest)
    else if c == '\\' then do
      let (e, rest) ← readEscape rest
      let (cs, rest) ← readCharacters fuel rest
      return (e :: cs, rest)
    else if c.toNat < 0x20 then none
    else do
      let (cs, rest) ← readCharacters fuel rest
      return (c :: cs, rest)

/-- A string after its opening quote. -/
def readString (cs : List Char) : Option (String × List Char) :=
  (readCharacters (cs.length + 1) cs).map fun (s, rest) => (String.ofList s, rest)

/-- The rest of the text if it starts with the given word. -/
def expect (word cs : List Char) : Option (List Char) :=
  if word.isPrefixOf cs then some (cs.drop word.length) else none

mutual

/-- One value. The first argument bounds the work, the second is the number of lists and objects
that are open. -/
def readValue : Nat → Nat → List Char → Option (Value × List Char)
  | 0, _, _ => none
  | fuel + 1, depth, cs =>
    match skipLayout cs with
    | '"' :: rest => (readString rest).map fun (s, r) => (.text s, r)
    | '[' :: rest =>
      if depth ≥ depthLimit then none
      else match skipLayout rest with
        | ']' :: rest => some (.list [], rest)
        | rest => (readItems fuel (depth + 1) rest).map fun (items, r) => (.list items, r)
    | '\x7b' :: rest =>
      if depth ≥ depthLimit then none
      else match skipLayout rest with
        | '\x7d' :: rest => some (.object [], rest)
        | rest => (readMembers fuel (depth + 1) rest).map fun (ms, r) => (.object ms, r)
    | 'n' :: rest => (expect ['u', 'l', 'l'] rest).map fun r => (.null, r)
    | 't' :: rest => (expect ['r', 'u', 'e'] rest).map fun r => (.bool true, r)
    | 'f' :: rest => (expect ['a', 'l', 's', 'e'] rest).map fun r => (.bool false, r)
    | cs => (readNumeral cs).map fun (n, r) => (.number n, r)

/-- One or more values up to the closing bracket. -/
def readItems : Nat → Nat → List Char → Option (List Value × List Char)
  | 0, _, _ => none
  | fuel + 1, depth, cs => do
    let (item, rest) ← readValue fuel depth cs
    match skipLayout rest with
    | ',' :: rest =>
      let (items, rest) ← readItems fuel depth rest
      return (item :: items, rest)
    | ']' :: rest => return ([item], rest)
    | _ => none

/-- One or more members up to the closing brace. -/
def readMembers : Nat → Nat → List Char → Option (List (String × Value) × List Char)
  | 0, _, _ => none
  | fuel + 1, depth, cs =>
    match skipLayout cs with
    | '"' :: rest => do
      let (key, rest) ← readString rest
      match skipLayout rest with
      | ':' :: rest =>
        let (value, rest) ← readValue fuel depth rest
        match skipLayout rest with
        | ',' :: rest =>
          let (members, rest) ← readMembers fuel depth rest
          return ((key, value) :: members, rest)
        | '\x7d' :: rest => return ([(key, value)], rest)
        | _ => none
      | _ => none
    | _ => none

end

/-- The first value of a text and what follows it. Every step of the reader consumes a character
before the next but one, which bounds the work. -/
def readFirst (cs : List Char) : Option (Value × List Char) :=
  readValue (2 * cs.length + 2) 0 cs

/-- The value of a text that holds one value and white space only. -/
def readWhole (cs : List Char) : Option Value := do
  let (value, rest) ← readFirst cs
  if (skipLayout rest).isEmpty then some value else none

end ModuleLint.Json
