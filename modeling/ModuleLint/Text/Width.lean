import ModuleLint.Text.WidthTable

/-!
# Widths of characters

How many columns of a terminal a character takes: none, one or two.
-/

set_option autoImplicit false

namespace ModuleLint.Text

/-- The number of columns that a character takes. Controls and the soft hyphen take none. -/
def charWidth (c : Char) : Nat :=
  let n := c.toNat
  if n < 0x20 || (0x7F ≤ n && n ≤ 0x9F) || n == 0xAD then 0
  else if n < 0x300 then 1
  else if Run.anyContains zeroWidthRuns n then 0
  else if Run.anyContains doubleWidthRuns n then 2
  else 1

end ModuleLint.Text
