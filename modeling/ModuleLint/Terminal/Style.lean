/-!
# Styles of text on a terminal

A style is switched on and off by escape sequences around a text. Every attribute has its own way of
being switched off: colours by a full reset, intensities by the normal intensity.
-/

set_option autoImplicit false

namespace ModuleLint.Terminal

/-- What a piece of text can look like. -/
inductive Attribute where
  | bold
  | faint
  | red
  | green
  | yellow
  | cyan
deriving Repr, DecidableEq, Inhabited

namespace Attribute

/-- The code that switches an attribute on. -/
def onCode : Attribute → Nat
  | bold => 1
  | faint => 2
  | red => 31
  | green => 32
  | yellow => 33
  | cyan => 36

/-- The code that switches an attribute off. -/
def offCode : Attribute → Nat
  | bold => 22
  | faint => 22
  | _ => 0

end Attribute

/-- The character that opens an escape sequence. -/
def escapeChar : Char := Char.ofNat 27

/-- The escape sequence with the given codes. -/
def sequence (codes : List Nat) : String :=
  String.ofList [escapeChar, '['] ++ ";".intercalate (codes.map toString) ++ "m"

/-- A text with attributes, if colours are wanted at all. -/
def paint (colored : Bool) (attributes : List Attribute) (text : String) : String :=
  if colored then
    sequence (attributes.map (·.onCode)) ++ text ++ sequence (attributes.map (·.offCode))
  else text

end ModuleLint.Terminal
