import ModuleLint.Document.Draft
import ModuleLint.Json.Reader

/-!
# Reading documents

A JSON value is read into a draft field by field. Keys match without regard to case and unknown
keys are ignored. A key that occurs again is read into what is there already: a text, number or
flag is replaced, an object or list is filled in further. Null empties a slot or a list and leaves
texts, numbers and flags as they are. A value of a wrong type anywhere spoils the whole document.
-/

set_option autoImplicit false

namespace ModuleLint.Document

open ModuleLint.Json (Value Numeral)

/-- The characters that keys are compared by: letters in upper case, where the long s and the Kelvin
sign count as letters too. -/
def foldChar (c : Char) : Char :=
  if c.toNat == 0x17F then 'S' else if c.toNat == 0x212A then 'K' else c.toUpper

/-- Whether a key stands for a field. -/
def matchesKey (field key : String) : Bool :=
  key.toList.map foldChar == field.toList.map foldChar

/-- Reads a text over an old one. -/
def assignText (old : String) : Value → Option String
  | .null => some old
  | .text s => some s
  | _ => none

/-- Reads a flag over an old one. -/
def assignFlag (old : Bool) : Value → Option Bool
  | .null => some old
  | .bool b => some b
  | _ => none

/-- Reads a line or a column over an old one. -/
def assignWord (old : UInt64) : Value → Option UInt64
  | .null => some old
  | .number n => n.word?
  | _ => none

/-- Reads the members of an object over an old value, one after another. -/
def assignMembers {α : Type} (assign : α → String → Value → Option α) (old : α) :
    List (String × Value) → Option α
  | [] => some old
  | (key, value) :: rest => (assign old key value).bind fun new => assignMembers assign new rest

/-- Reads an object over an old value; null changes nothing. -/
def assignObject {α : Type} (assign : α → String → Value → Option α) (old : α) :
    Value → Option α
  | .null => some old
  | .object members => assignMembers assign old members
  | _ => none

/-- Reads an object into a slot that may be empty; null empties it. -/
def assignSlot {α : Type} (assign : α → String → Value → Option α) (fresh : α) (old : Option α) :
    Value → Option (Option α)
  | .null => some none
  | .object members => (assignMembers assign (old.getD fresh) members).map some
  | _ => none

/-- Reads items over the old items of a list. -/
def assignItems {α : Type} (assign : α → Value → Option α) (fresh : α) :
    List α → List Value → Option (List α)
  | _, [] => some []
  | old, v :: rest => do
    let item ← assign (old.headD fresh) v
    let items ← assignItems assign fresh old.tail rest
    return item :: items

/-- Reads a list over an old one; null empties it. -/
def assignList {α : Type} (assign : α → Value → Option α) (fresh : α) (old : Kept α) :
    Value → Option (Kept α)
  | .null => some {}
  | .list items => (assignItems assign fresh old.items items).map old.replace
  | _ => none

/-- Reads a member of a position. -/
def assignPosition (old : Position) (key : String) (v : Value) : Option Position :=
  if matchesKey "line" key then (assignWord old.line v).map fun n => { old with line := n }
  else if matchesKey "column" key then
    (assignWord old.column v).map fun n => { old with column := n }
  else some old

/-- Reads a member of a range. -/
def assignRange (old : Range) (key : String) (v : Value) : Option Range :=
  if matchesKey "start" key then
    (assignObject assignPosition old.start v).map fun p => { old with start := p }
  else if matchesKey "end" key then
    (assignObject assignPosition old.stop v).map fun p => { old with stop := p }
  else some old

/-- The range that nothing has been read into. -/
def freshRange : Range :=
  { start := { line := 0, column := 0 }, stop := { line := 0, column := 0 } }

/-- Reads a range into a slot. -/
def assignRangeSlot (old : Option Range) (v : Value) : Option (Option Range) :=
  assignSlot assignRange freshRange old v

/-- Puts a field of a record into its place by key; a field of the same key is replaced. -/
def insertField (key : String) (value : Constant) :
    List (String × Constant) → List (String × Constant)
  | [] => [(key, value)]
  | (k, v) :: rest =>
    if key == k then (key, value) :: rest
    else if key < k then (key, value) :: (k, v) :: rest
    else (k, v) :: insertField key value rest

mutual

/-- Reads a constant of any type; only a number that is too large for a double cannot be read. -/
def readConstant : Value → Option Constant
  | .null => some .null
  | .bool b => some (.bool b)
  | .number n => n.nearest?.map fun x => .number x.toBits
  | .text s => some (.text s)
  | .list items => (readConstants items).map .list
  | .object members => (readFields members).map .record

/-- Reads the items of a list of constants. -/
def readConstants : List Value → Option (List Constant)
  | [] => some []
  | v :: rest => do
    let c ← readConstant v
    let cs ← readConstants rest
    return c :: cs

/-- Reads the fields of a record; of fields with the same key the last one counts. -/
def readFields : List (String × Value) → Option (List (String × Constant))
  | [] => some []
  | (key, v) :: rest => do
    let c ← readConstant v
    let cs ← readFields rest
    return if cs.any (fun f => f.1 == key) then cs else insertField key c cs

end

/-- The parts of the draft of an entry by name. -/
structure EntryParts where
  info : EntryInfo := {}
  left : EntryDraft := .null
  right : EntryDraft := .null
  target : EntryDraft := .null
  expression : EntryDraft := .null
  condition : EntryDraft := .null
  counter : EntryDraft := .null
  start : EntryDraft := .null
  stop : EntryDraft := .null
  collection : EntryDraft := .null
  arguments : Kept EntryDraft := {}
  thenStatements : Kept EntryDraft := {}
  elseStatements : Kept EntryDraft := {}
  statements : Kept EntryDraft := {}
  clauses : Kept ClauseDraft := {}

/-- The parts of a draft; those of a null draft are all empty. -/
def EntryDraft.parts : EntryDraft → EntryParts
  | .null => {}
  | .node info left right target expression condition counter start stop collection arguments
      thenStatements elseStatements statements clauses =>
    { info := info, left := left, right := right, target := target, expression := expression,
      condition := condition, counter := counter, start := start, stop := stop,
      collection := collection, arguments := arguments, thenStatements := thenStatements,
      elseStatements := elseStatements, statements := statements, clauses := clauses }

/-- The draft made of parts. -/
def EntryParts.draft (p : EntryParts) : EntryDraft :=
  .node p.info p.left p.right p.target p.expression p.condition p.counter p.start p.stop p.collection
    p.arguments p.thenStatements p.elseStatements p.statements p.clauses

/-- Reads a member of an entry that is neither an entry nor a list of entries; unknown keys are
ignored. -/
def assignInfo (old : EntryInfo) (key : String) (v : Value) : Option EntryInfo :=
  if matchesKey "type" key then (assignText old.tag v).map fun s => { old with tag := s }
  else if matchesKey "name" key then (assignText old.name v).map fun s => { old with name := s }
  else if matchesKey "export" key then
    (assignFlag old.exported v).map fun b => { old with exported := b }
  else if matchesKey "range" key then
    (assignRangeSlot old.range v).map fun r => { old with range := r }
  else if matchesKey "value" key then (readConstant v).map fun c => { old with value := c }
  else if matchesKey "literalType" key then
    (assignText old.literalType v).map fun s => { old with literalType := s }
  else if matchesKey "operator" key then
    (assignText old.operator v).map fun s => { old with operator := s }
  else some old

mutual

/-- Reads an entry into a slot; null empties it. -/
def assignEntry (old : EntryDraft) : Value → Option EntryDraft
  | .null => some .null
  | .object members => (assignParts old.parts members).map EntryParts.draft
  | _ => none

/-- Reads the members of an entry. -/
def assignParts (old : EntryParts) : List (String × Value) → Option EntryParts
  | [] => some old
  | (key, v) :: rest => do
    let new ←
      if matchesKey "left" key then (assignEntry old.left v).map fun e => { old with left := e }
      else if matchesKey "right" key then
        (assignEntry old.right v).map fun e => { old with right := e }
      else if matchesKey "target" key then
        (assignEntry old.target v).map fun e => { old with target := e }
      else if matchesKey "expression" key then
        (assignEntry old.expression v).map fun e => { old with expression := e }
      else if matchesKey "condition" key then
        (assignEntry old.condition v).map fun e => { old with condition := e }
      else if matchesKey "counter" key then
        (assignEntry old.counter v).map fun e => { old with counter := e }
      else if matchesKey "start" key then
        (assignEntry old.start v).map fun e => { old with start := e }
      else if matchesKey "end" key then
        (assignEntry old.stop v).map fun e => { old with stop := e }
      else if matchesKey "collection" key then
        (assignEntry old.collection v).map fun e => { old with collection := e }
      else if matchesKey "arguments" key then
        (assignEntries old.arguments v).map fun es => { old with arguments := es }
      else if matchesKey "thenStatements" key then
        (assignEntries old.thenStatements v).map fun es => { old with thenStatements := es }
      else if matchesKey "elseIfClauses" key then
        (assignClauses old.clauses v).map fun cs => { old with clauses := cs }
      else if matchesKey "elseStatements" key then
        (assignEntries old.elseStatements v).map fun es => { old with elseStatements := es }
      else if matchesKey "statements" key then
        (assignEntries old.statements v).map fun es => { old with statements := es }
      else (assignInfo old.info key v).map fun i => { old with info := i }
    assignParts new rest

/-- Reads a list of entries over an old one; null empties it. -/
def assignEntries (old : Kept EntryDraft) : Value → Option (Kept EntryDraft)
  | .null => some {}
  | .list items => (assignEntryItems old.items items).map old.replace
  | _ => none

/-- Reads entries over old ones. -/
def assignEntryItems (old : List EntryDraft) : List Value → Option (List EntryDraft)
  | [] => some []
  | v :: rest => do
    let e ← assignEntry (old.headD .null) v
    let es ← assignEntryItems old.tail rest
    return e :: es

/-- Reads the further conditions of a branching statement; null empties the list. -/
def assignClauses (old : Kept ClauseDraft) : Value → Option (Kept ClauseDraft)
  | .null => some {}
  | .list items => (assignClauseItems old.items items).map old.replace
  | _ => none

/-- Reads further conditions over old ones. -/
def assignClauseItems (old : List ClauseDraft) : List Value → Option (List ClauseDraft)
  | [] => some []
  | v :: rest => do
    let c ← assignClause (old.headD (.mk .null {})) v
    let cs ← assignClauseItems old.tail rest
    return c :: cs

/-- Reads one further condition; null changes nothing. -/
def assignClause (old : ClauseDraft) : Value → Option ClauseDraft
  | .null => some old
  | .object members => assignClauseMembers old members
  | _ => none

/-- Reads the members of a further condition. -/
def assignClauseMembers (old : ClauseDraft) : List (String × Value) → Option ClauseDraft
  | [] => some old
  | (key, v) :: rest => do
    let new ← match old with
      | .mk condition statements =>
        if matchesKey "condition" key then
          (assignEntry condition v).map fun e => ClauseDraft.mk e statements
        else if matchesKey "statements" key then
          (assignEntries statements v).map fun es => ClauseDraft.mk condition es
        else some old
    assignClauseMembers new rest

end

/-- Reads a member of a declaration of a variable. -/
def assignVariable (old : VariableEntry) (key : String) (v : Value) : Option VariableEntry :=
  if matchesKey "name" key then (assignText old.name v).map fun s => { old with name := s }
  else if matchesKey "export" key then
    (assignFlag old.exported v).map fun b => { old with exported := b }
  else if matchesKey "range" key then
    (assignRangeSlot old.range v).map fun r => { old with range := r }
  else some old

/-- Reads a member of a parameter. -/
def assignParameter (old : ParameterEntry) (key : String) (v : Value) : Option ParameterEntry :=
  if matchesKey "name" key then (assignText old.name v).map fun s => { old with name := s }
  else if matchesKey "byValue" key then
    (assignFlag old.byValue v).map fun b => { old with byValue := b }
  else if matchesKey "hasDefault" key then
    (assignFlag old.hasDefault v).map fun b => { old with hasDefault := b }
  else if matchesKey "range" key then
    (assignRangeSlot old.range v).map fun r => { old with range := r }
  else some old

/-- Reads a member of a routine. -/
def assignRoutine (old : RoutineDraft) (key : String) (v : Value) : Option RoutineDraft :=
  if matchesKey "name" key then (assignText old.name v).map fun s => { old with name := s }
  else if matchesKey "export" key then
    (assignFlag old.exported v).map fun b => { old with exported := b }
  else if matchesKey "range" key then
    (assignRangeSlot old.range v).map fun r => { old with range := r }
  else if matchesKey "parameters" key then
    (assignList (assignObject assignParameter) {} old.parameters v).map fun ps =>
      { old with parameters := ps }
  else if matchesKey "body" key then
    (assignEntries old.body v).map fun es => { old with body := es }
  else some old

/-- Reads a member of a module. -/
def assignModule (old : ModuleDraft) (key : String) (v : Value) : Option ModuleDraft :=
  if matchesKey "name" key then (assignText old.name v).map fun s => { old with name := s }
  else if matchesKey "range" key then
    (assignRangeSlot old.range v).map fun r => { old with range := r }
  else if matchesKey "variables" key then
    (assignList (assignObject assignVariable) {} old.declarations v).map fun vs =>
      { old with declarations := vs }
  else if matchesKey "functions" key then
    (assignList (assignObject assignRoutine) {} old.functions v).map fun rs =>
      { old with functions := rs }
  else if matchesKey "procedures" key then
    (assignList (assignObject assignRoutine) {} old.procedures v).map fun rs =>
      { old with procedures := rs }
  else some old

/-- Reads a text into a slot that may be empty; null empties it. -/
def assignTextSlot : Value → Option (Option String)
  | .null => some none
  | .text s => some (some s)
  | _ => none

/-- Reads a member of a document. -/
def assignDocument (old : Draft) (key : String) (v : Value) : Option Draft :=
  if matchesKey "module" key then
    (assignSlot assignModule {} old.module? v).map fun m => { old with module? := m }
  else if matchesKey "source" key then
    (assignTextSlot v).map fun s => { old with source? := s }
  else some old

/-- The document that a value describes, if all of it has the right types. -/
def ofValue? (v : Value) : Option Document :=
  (assignObject assignDocument {} v).map Draft.finish

end ModuleLint.Document
