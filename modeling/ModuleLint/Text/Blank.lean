/-!
# White space

The characters with the Unicode property White_Space, and the removal of white space from the ends
of a text. Zero width spaces and the byte order mark do not have the property.
-/

set_option autoImplicit false

namespace ModuleLint.Text

/-- Whether a character is white space. -/
def isBlank (c : Char) : Bool :=
  let n := c.toNat
  (0x09 ≤ n && n ≤ 0x0D) || n == 0x20 || n == 0x85 || n == 0xA0 || n == 0x1680
    || (0x2000 ≤ n && n ≤ 0x200A) || n == 0x2028 || n == 0x2029 || n == 0x202F || n == 0x205F
    || n == 0x3000

/-- Removes from the front of a sequence what satisfies a test, then the same from the back. -/
def trimEnds {α : Type} (test : α → Bool) (cs : List α) : List α :=
  ((cs.dropWhile test).reverse.dropWhile test).reverse

/-- A text without the white space at its ends. -/
def trim (s : String) : String :=
  String.ofList (trimEnds isBlank s.toList)

end ModuleLint.Text
