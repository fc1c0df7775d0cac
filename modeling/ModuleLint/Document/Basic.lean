import ModuleLint.Tree.Basic

/-!
# Documents

A document describes a module as a foreign parser wrote it down, before any of it has been judged.
Statements and expressions have the same shape, an entry: a tag that says what the entry is, and
slots of which only some matter for that tag. Slots and list entries can be null.
-/

set_option autoImplicit false

namespace ModuleLint.Document

/-- What an entry says of itself. -/
structure EntryInfo where
  tag : String := ""
  name : String := ""
  exported : Bool := false
  range : Option Range := none
  value : Constant := .null
  literalType : String := ""
  operator : String := ""
deriving Inhabited

mutual

/-- A statement or an expression. -/
inductive Entry where
  | null
  | node (info : EntryInfo)
      (left right target expression condition counter start stop collection : Entry)
      (arguments thenStatements elseStatements statements : List Entry) (clauses : List Clause)

/-- A further condition of a branching statement. -/
inductive Clause where
  | mk (condition : Entry) (statements : List Entry)

end

instance : Inhabited Entry := ⟨.null⟩

/-- Whether a slot is filled. -/
def Entry.isPresent : Entry → Bool
  | .null => false
  | .node .. => true

/-- The declaration of a variable of the module. -/
structure VariableEntry where
  name : String := ""
  exported : Bool := false
  range : Option Range := none
deriving Inhabited

/-- A parameter. -/
structure ParameterEntry where
  name : String := ""
  byValue : Bool := false
  hasDefault : Bool := false
  range : Option Range := none
deriving Inhabited

/-- A function or a procedure. -/
structure RoutineEntry where
  name : String := ""
  exported : Bool := false
  range : Option Range := none
  parameters : List ParameterEntry := []
  body : List Entry := []
deriving Inhabited

/-- A module. -/
structure ModuleEntry where
  name : String := ""
  range : Option Range := none
  declarations : List VariableEntry := []
  functions : List RoutineEntry := []
  procedures : List RoutineEntry := []
deriving Inhabited

end ModuleLint.Document

namespace ModuleLint

/-- A module, if there is one, and its source text, if it is known. -/
structure Document where
  module? : Option Document.ModuleEntry := none
  source? : Option String := none
deriving Inhabited

end ModuleLint
