/-!
# Characters of YAML

Which characters a document may hold, and which of them end lines, separate words or have a
meaning of their own.
-/

set_option autoImplicit false

namespace ModuleLint.Yaml

/-- The byte order mark. -/
def byteOrderMark : Char := Char.ofNat 0xFEFF

/-- The characters that a document may hold. -/
def isReadable (c : Char) : Bool :=
  let n := c.toNat
  c == '\t' || c == '\n' || c == '\r' || (0x20 ≤ n && n ≤ 0x7E) || n == 0x85
    || (0xA0 ≤ n && n ≤ 0xD7FF) || (0xE000 ≤ n && n ≤ 0xFFFD) || 0x10000 ≤ n

/-- The characters that need no escape anywhere. -/
def isPrintable (c : Char) : Bool :=
  let n := c.toNat
  c == '\n' || (0x20 ≤ n && n ≤ 0x7E) || (0xA0 ≤ n && n ≤ 0xD7FF)
    || (0xE000 ≤ n && n ≤ 0xFFFD && n != 0xFEFF)

/-- The characters that end a line. -/
def isBreak (c : Char) : Bool :=
  c == '\n' || c == '\r' || c.toNat == 0x85 || c.toNat == 0x2028 || c.toNat == 0x2029

/-- A space or a tab. -/
def isBlank (c : Char) : Bool := c == ' ' || c == '\t'

/-- Whether a text is at its end, at a blank or at the end of a line. -/
def atWordEnd (rest : List Char) : Bool := rest.head?.all fun c => isBlank c || isBreak c

/-- The characters that a plain scalar cannot start with. -/
def leadingIndicators : List Char :=
  ['#', ',', '[', ']', '\x7b', '\x7d', '&', '*', '!', '|', '>', '\'', '"', '%', '@', Char.ofNat 96]

/-- The characters that end a plain scalar inside of a flow collection. -/
def flowIndicators : List Char := [',', '?', '[', ']', '\x7b', '\x7d']

/-- The letters of the escapes that have one. -/
def shortEscapes : List (Nat × Char) :=
  [(0, '0'), (7, 'a'), (8, 'b'), (9, 't'), (10, 'n'), (11, 'v'), (12, 'f'), (13, 'r'), (27, 'e'),
    (0x22, '"'), (0x5C, '\\'), (0x85, 'N'), (0xA0, '_'), (0x2028, 'L'), (0x2029, 'P')]

end ModuleLint.Yaml
