/-!
# Searching in texts
-/

set_option autoImplicit false

namespace ModuleLint.Text

/-- Whether a text begins with another. -/
def startsWith (s start : String) : Bool :=
  start.toList.isPrefixOf s.toList

/-- Whether a text ends with another. -/
def endsWith (s tail : String) : Bool :=
  tail.toList.isSuffixOf s.toList

/-- Whether a sequence occurs inside another without gaps. -/
def occursIn (part : List Char) : List Char → Bool
  | [] => part.isEmpty
  | c :: rest => part.isPrefixOf (c :: rest) || occursIn part rest

/-- Whether a text contains another. -/
def containsText (s part : String) : Bool :=
  occursIn part.toList s.toList

end ModuleLint.Text
