import ModuleLint.Text.PrintableTable

/-!
# Quoted texts

A text is quoted for messages: it stands between double quotes, a double quote and a backslash get
a backslash, and a character that cannot be printed is written as an escape.
-/

set_option autoImplicit false

namespace ModuleLint.Text

/-- Whether a character can be shown as it is. -/
def isPrintable (c : Char) : Bool :=
  let n := c.toNat
  if n < 0x80 then 0x20 ≤ n && n < 0x7F else Run.anyContains printableRuns n

/-- A number in lower case hexadecimal, filled up with zeros to the given width. -/
def hexPadded (width n : Nat) : List Char :=
  let digits := Nat.toDigits 16 n
  List.replicate (width - digits.length) '0' ++ digits

/-- The escape of a character that cannot be printed: one letter if there is one, two digits in the
ASCII range, and four or eight digits beyond. -/
def escapeUnprintable (c : Char) : List Char :=
  let n := c.toNat
  if n == 7 then ['\\', 'a']
  else if n == 8 then ['\\', 'b']
  else if n == 12 then ['\\', 'f']
  else if n == 10 then ['\\', 'n']
  else if n == 13 then ['\\', 'r']
  else if n == 9 then ['\\', 't']
  else if n == 11 then ['\\', 'v']
  else if n < 0x80 then '\\' :: 'x' :: hexPadded 2 n
  else if n < 0x10000 then '\\' :: 'u' :: hexPadded 4 n
  else '\\' :: 'U' :: hexPadded 8 n

/-- One character inside a quoted text. -/
def quoteChar (c : Char) : List Char :=
  if c == '"' || c == '\\' then ['\\', c]
  else if isPrintable c then [c]
  else escapeUnprintable c

/-- A text between double quotes. -/
def quoted (s : String) : String :=
  String.ofList ('"' :: s.toList.flatMap quoteChar ++ ['"'])

/-- The escape of a byte that is not part of a character. -/
def quoteByte (b : UInt8) : List Char := '\\' :: 'x' :: hexPadded 2 b.toNat

/-- Characters between double quotes, followed by bytes that do not make up a character. -/
def quotedWithBytes (cs : List Char) (bytes : List UInt8) : String :=
  String.ofList ('"' :: cs.flatMap quoteChar ++ bytes.flatMap quoteByte ++ ['"'])

end ModuleLint.Text
