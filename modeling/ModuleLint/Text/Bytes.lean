/-!
# Cutting a text at a byte

Limits are in bytes, and a limit can fall inside of a character. A cut keeps the bytes of such a
character apart from the whole characters on either side of it.
-/

set_option autoImplicit false

namespace ModuleLint.Text

/-- A text that is cut in two: the whole characters before the cut, the bytes of the character that
the cut goes through, and the whole characters after it. -/
structure ByteCut where
  before : List Char
  lead : List UInt8
  tail : List UInt8
  after : List Char
deriving Repr, DecidableEq

/-- Cuts a text after the given number of bytes, or at its end if it is shorter. -/
def cutBytes : Nat → List Char → ByteCut
  | 0, cs => ⟨[], [], [], cs⟩
  | _ + 1, [] => ⟨[], [], [], []⟩
  | n + 1, c :: cs =>
    if c.utf8Size ≤ n + 1 then
      let cut := cutBytes (n + 1 - c.utf8Size) cs
      { cut with before := c :: cut.before }
    else
      let bytes := String.utf8EncodeChar c
      ⟨[], bytes.take (n + 1), bytes.drop (n + 1), cs⟩
termination_by _ cs => cs.length

end ModuleLint.Text
