import ModuleLint.Document.Basic

/-!
# Drafts of documents

While a document is read, a list can be given more than once, and a shorter list hides the items at
the end of a longer one without forgetting them: when the list grows again, what is read goes on
top of them. A draft keeps such items, and the finished document does not have them.
-/

set_option autoImplicit false

namespace ModuleLint.Document

/-- A list of which only the first items are shown. -/
structure Kept (α : Type) where
  items : List α := []
  shown : Nat := 0

namespace Kept

/-- The items that are shown. -/
def visible {α : Type} (k : Kept α) : List α := k.items.take k.shown

/-- Shows new items in the place of the first ones. Showing none forgets all. -/
def replace {α : Type} (k : Kept α) (new : List α) : Kept α :=
  if new.isEmpty then {}
  else { items := new ++ k.items.drop new.length, shown := new.length }

end Kept

mutual

/-- The draft of a statement or an expression. -/
inductive EntryDraft where
  | null
  | node (info : EntryInfo)
      (left right target expression condition counter start stop collection : EntryDraft)
      (arguments thenStatements elseStatements statements : Kept EntryDraft)
      (clauses : Kept ClauseDraft)

/-- The draft of a further condition of a branching statement. -/
inductive ClauseDraft where
  | mk (condition : EntryDraft) (statements : Kept EntryDraft)

end

mutual

/-- The entry that a draft has become. -/
def EntryDraft.finish : EntryDraft → Entry
  | .null => .null
  | .node info left right target expression condition counter start stop collection arguments
      thenStatements elseStatements statements clauses =>
    .node info left.finish right.finish target.finish expression.finish condition.finish
      counter.finish start.finish stop.finish collection.finish
      (finishKept arguments) (finishKept thenStatements) (finishKept elseStatements)
      (finishKept statements) (finishKeptClauses clauses)

/-- The entries of a list that are shown. -/
def finishKept : Kept EntryDraft → List Entry
  | ⟨items, shown⟩ => (finishAll items).take shown

/-- The entries of a list. -/
def finishAll : List EntryDraft → List Entry
  | [] => []
  | e :: rest => e.finish :: finishAll rest

/-- The further condition that a draft has become. -/
def ClauseDraft.finish : ClauseDraft → Clause
  | .mk condition statements => .mk condition.finish (finishKept statements)

/-- The further conditions of a list that are shown. -/
def finishKeptClauses : Kept ClauseDraft → List Clause
  | ⟨items, shown⟩ => (finishClauses items).take shown

/-- The further conditions of a list. -/
def finishClauses : List ClauseDraft → List Clause
  | [] => []
  | c :: rest => c.finish :: finishClauses rest

end

/-- The draft of a function or a procedure. -/
structure RoutineDraft where
  name : String := ""
  exported : Bool := false
  range : Option Range := none
  parameters : Kept ParameterEntry := {}
  body : Kept EntryDraft := {}

/-- The routine that a draft has become. -/
def RoutineDraft.finish (r : RoutineDraft) : RoutineEntry :=
  { name := r.name
    exported := r.exported
    range := r.range
    parameters := r.parameters.visible
    body := finishKept r.body }

/-- The draft of a module. -/
structure ModuleDraft where
  name : String := ""
  range : Option Range := none
  declarations : Kept VariableEntry := {}
  functions : Kept RoutineDraft := {}
  procedures : Kept RoutineDraft := {}

/-- The module that a draft has become. -/
def ModuleDraft.finish (m : ModuleDraft) : ModuleEntry :=
  { name := m.name
    range := m.range
    declarations := m.declarations.visible
    functions := m.functions.visible.map RoutineDraft.finish
    procedures := m.procedures.visible.map RoutineDraft.finish }

/-- The draft of a document. -/
structure Draft where
  module? : Option ModuleDraft := none
  source? : Option String := none

/-- The document that a draft has become. -/
def Draft.finish (d : Draft) : Document :=
  { module? := d.module?.map ModuleDraft.finish, source? := d.source? }

end ModuleLint.Document
