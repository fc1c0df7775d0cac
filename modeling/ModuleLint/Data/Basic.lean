/-!
# Data to be printed

Reports for machines are records of texts, numbers, further records and lists of records. The
fields of a record stay in order.
-/

set_option autoImplicit false

namespace ModuleLint

/-- A piece of data. -/
inductive Data where
  | text (s : String)
  | number (n : Int)
  | record (fields : List (String × Data))
  | records (items : List (List (String × Data)))
deriving Repr, Inhabited

end ModuleLint
