import ModuleLint.Text.LetterTable
import ModuleLint.Word

/-!
# The natural order of texts

Texts are compared character by character, but digits that stand in the same place are compared as
numbers, so that `a2` comes before `a10`. Where a letter meets something else, the letter comes
last, except right after a digit. The numbers are signed words of 64 bits, and wrap around.
-/

set_option autoImplicit false

namespace ModuleLint.Text

/-- The digits at the start of a sequence and what they add to a number; digits of other scripts
count by their distance to zero. -/
def leadingNumber : Int → List Char → Int × Nat
  | n, [] => (n, 0)
  | n, c :: rest =>
    if isDecimalDigit c then
      let (value, count) :=
        leadingNumber (Word.signed (10 * n + ((c.toNat : Int) - ('0'.toNat : Int)))) rest
      (value, count + 1)
    else (n, 0)

/-- Whether the digits just before the current place, last one first, hold one that is not zero. -/
def hasNonzeroDigit : List Char → Bool
  | [] => false
  | c :: rest => isDecimalDigit c && (c != '0' || hasNonzeroDigit rest)

/-- Compares two texts at the first place where they differ. `before` is what they share, last
character first. -/
def naturalBeforeAt (before : List Char) (a b : Char) (as bs : List Char) : Bool :=
  match isLetter a, isLetter b with
  | true, true => a < b
  | true, false => before.head?.any isDecimalDigit
  | false, true => !before.head?.any isDecimalDigit
  | false, false =>
    let start : Int := if (a == '0' || b == '0') && hasNonzeroDigit before then 1 else 0
    let (x, m) := leadingNumber start (a :: as)
    let (y, n) := leadingNumber start (b :: bs)
    if x ≠ y then x < y else if m ≠ n then m < n else a < b

/-- Whether one sequence comes before another after a shared part. -/
def naturalBeforeFrom (before : List Char) : List Char → List Char → Bool
  | a :: as, b :: bs =>
    if a == b then naturalBeforeFrom (a :: before) as bs else naturalBeforeAt before a b as bs
  | [], _ :: _ => true
  | _, [] => false

/-- Whether one text comes before another. -/
def naturalBefore (s t : String) : Bool := naturalBeforeFrom [] s.toList t.toList

end ModuleLint.Text
