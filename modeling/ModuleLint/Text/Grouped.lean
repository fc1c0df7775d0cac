/-!
# Numbers with thousands separated
-/

set_option autoImplicit false

namespace ModuleLint.Text

/-- Digits from the last one on, with a comma after every third. -/
def groupReversed : List Char → List Char
  | a :: b :: c :: d :: rest => a :: b :: c :: ',' :: groupReversed (d :: rest)
  | digits => digits

/-- A natural number in decimal with a comma between groups of three digits. -/
def grouped (n : Nat) : String :=
  String.ofList (groupReversed (Nat.toDigits 10 n).reverse).reverse

end ModuleLint.Text
