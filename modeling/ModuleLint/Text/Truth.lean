/-!
# Spellings of truth values
-/

set_option autoImplicit false

namespace ModuleLint.Text

/-- Spellings of the true value. -/
def trueWords : List String := ["1", "t", "T", "TRUE", "true", "True"]

/-- Spellings of the false value. -/
def falseWords : List String := ["0", "f", "F", "FALSE", "false", "False"]

/-- The truth value that is written. -/
def truth? (s : String) : Option Bool :=
  if trueWords.contains s then some true
  else if falseWords.contains s then some false
  else none

end ModuleLint.Text
