import ModuleLint.Telemetry.Level

/-!
# Log records
-/

set_option autoImplicit false

namespace ModuleLint.Telemetry

/-- The value of an attribute. -/
inductive Attribute where
  | text (s : String)
  | number (n : Int)
  | texts (ss : List String)
deriving Repr, DecidableEq, Inhabited

/-- Something worth noting, with what is known about it. -/
structure Record where
  level : Level
  message : String
  attributes : List (String × Attribute)
deriving Repr, DecidableEq, Inhabited

end ModuleLint.Telemetry
