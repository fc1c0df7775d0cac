import ModuleLint.Text.CaseTable

/-!
# Letter case

Case conversion replaces each character by its simple counterpart, so it never changes the number
of characters: a dotted capital I becomes a plain i and the Kelvin sign becomes k.
-/

set_option autoImplicit false

namespace ModuleLint.Text

/-- The simple lower case counterpart of a character. -/
def lowerChar (c : Char) : Char :=
  if c.toNat < 0x80 then c.toLower else Char.ofNat (ShiftedRun.image lowerRuns c.toNat)

/-- The simple upper case counterpart of a character. -/
def upperChar (c : Char) : Char :=
  if c.toNat < 0x80 then c.toUpper else Char.ofNat (ShiftedRun.image upperRuns c.toNat)

/-- Whether a character is a lower case letter. Modifier letters, ordinals and small numerals are
not letters of either case. -/
def isLowercase (c : Char) : Bool :=
  if c.toNat < 0x80 then c.isLower else Run.anyContains lowercaseLetters c.toNat

/-- A text with each character in lower case. -/
def lower (s : String) : String :=
  String.ofList (s.toList.map lowerChar)

/-- A text with each character in upper case. -/
def upper (s : String) : String :=
  String.ofList (s.toList.map upperChar)

end ModuleLint.Text
