import Mathlib.Data.List.Forall2
import ModuleLint.Document.Decode

/-!
# What the entries of a document denote

Decoding is a function on entries. Here the same is said by relations, tag by tag: which trees an entry denotes where a
statement stands (`Content.DenotesStmt`) and where an expression stands (`Content.DenotesExpr`). A slot for one expression
stays empty if the document has nothing there and is filled else (`Slot`). A list has one tree for each entry that is not
null, in the same order. The slots of a variable are the third kind: whatever the entry is, it becomes a mention.

Main statements: each entry denotes what it is decoded to (`denotes_expr`, `denotes_stmt`, `ModuleEntry.denotes_module`).
-/

set_option autoImplicit false

namespace ModuleLint.Document

/-! ## Entries that are not null -/

/-- What an entry holds if it is not null. -/
structure Content where
  info : EntryInfo
  left : Entry
  right : Entry
  target : Entry
  expression : Entry
  condition : Entry
  counter : Entry
  start : Entry
  stop : Entry
  collection : Entry
  arguments : List Entry
  thenStatements : List Entry
  elseStatements : List Entry
  statements : List Entry
  clauses : List Clause

def Entry.content? : Entry → Option Content
  | .null => none
  | .node info left right target expression condition counter start stop collection arguments
      thenStatements elseStatements statements clauses =>
    some { info, left, right, target, expression, condition, counter, start, stop, collection, arguments,
           thenStatements, elseStatements, statements, clauses }

/-- The entries of a list that are not null. -/
def contents (es : List Entry) : List Content := es.filterMap Entry.content?

namespace Content

def tag (c : Content) : String := c.info.tag

/-- The place of an entry: its range, if that can be kept. -/
def span (c : Content) : Span := spanOf c.info.range

/-- An entry in the slot of a variable. -/
def mention (c : Content) : Reference := { span := c.span, name := c.info.name }

/-- An entry whose tag is unknown where it stands. -/
def generic (c : Content) : Generic := { span := c.span, tag := c.tag }

end Content

/-! ## Tags -/

/-- The tags that are known where a statement stands. -/
def statementTags : List String :=
  ["assignment", "callStatement", "ifStatement", "whileStatement", "forStatement", "forEachStatement",
    "returnStatement", "variableDeclaration"]

/-- The tags that are known where an expression stands. -/
def expressionTags : List String :=
  ["literal", "variable", "binaryOperation", "call", "callStatement"]

/-- The text of a tag. -/
def Tag.text : Tag → String
  | .assignment => "assignment"
  | .callStatement => "callStatement"
  | .ifStatement => "ifStatement"
  | .whileStatement => "whileStatement"
  | .forStatement => "forStatement"
  | .forEachStatement => "forEachStatement"
  | .returnStatement => "returnStatement"
  | .variableDeclaration => "variableDeclaration"
  | .literal => "literal"
  | .variable => "variable"
  | .binaryOperation => "binaryOperation"
  | .call => "call"
  | .unknown => ""

/-- A comparison with one text decides between two tags. -/
theorem Tag.of_ite {s x : String} {t u : Tag} {P : Tag → Prop} (ht : s = x → P t) (hu : P u) :
    P (if s == x then t else u) := by
  split
  · exact ht (eq_of_beq ‹_›)
  · exact hu

/-- A text is that of its tag unless the tag is unknown. -/
theorem Tag.eq_unknown_or_eq_text (s : String) : Tag.ofText s = .unknown ∨ s = (Tag.ofText s).text := by
  unfold Tag.ofText
  iterate 12 refine Tag.of_ite (P := fun t => t = .unknown ∨ s = t.text) .inr ?_
  exact .inl rfl

/-- A known tag is read from its own text only. -/
theorem Tag.eq_text_of_ofText {s : String} {t : Tag} (h : Tag.ofText s = t) (ht : t ≠ .unknown) :
    s = t.text := by
  subst h
  exact (Tag.eq_unknown_or_eq_text s).resolve_left ht

/-- The text of a known tag is read as the tag. -/
theorem Tag.ofText_text {t : Tag} (ht : t ≠ .unknown) : Tag.ofText t.text = t := by
  cases t with
  | unknown => exact absurd rfl ht
  | _ => decide

/-- The texts of known tags are just those that stand for them. -/
theorem Tag.mem_texts {tags : List Tag} {texts : List String} (htexts : tags.map Tag.text = texts)
    (htags : Tag.unknown ∉ tags) (s : String) : s ∈ texts ↔ Tag.ofText s ∈ tags := by
  rw [← htexts]
  constructor
  · intro h
    obtain ⟨t, ht, rfl⟩ := List.mem_map.mp h
    rwa [Tag.ofText_text (ne_of_mem_of_not_mem ht htags)]
  · intro h
    have htext := Tag.eq_text_of_ofText rfl (ne_of_mem_of_not_mem h htags)
    exact List.mem_map.mpr ⟨Tag.ofText s, h, htext.symm⟩

/-- The texts of the tags of statements. -/
theorem mem_statementTags {s : String} {t : Tag} (h : Tag.ofText s = t) : s ∈ statementTags ↔ t ∈
    [Tag.assignment, .callStatement, .ifStatement, .whileStatement, .forStatement, .forEachStatement,
      .returnStatement, .variableDeclaration] := by
  subst h
  apply Tag.mem_texts <;> decide

/-- The texts of the tags of expressions. -/
theorem mem_expressionTags {s : String} {t : Tag} (h : Tag.ofText s = t) : s ∈ expressionTags ↔ t ∈
    [Tag.literal, .variable, .binaryOperation, .call, .callStatement] := by
  subst h
  apply Tag.mem_texts <;> decide

/-! ## Expressions -/

/-- A slot for one expression: empty if the document has nothing there, and else filled with what the entry denotes. -/
inductive Slot (Denotes : Content → Expr → Prop) : Option Content → Expr → Prop
  | empty : Slot Denotes none (.hole none)
  | filled {c : Content} {x : Expr} (hpresent : x.isPresent = true) (h : Denotes c x) : Slot Denotes (some c) x

/-- The expression of a slot is present just if the slot is filled. -/
theorem Slot.isPresent_eq {Denotes : Content → Expr → Prop} {c : Option Content} {x : Expr}
    (h : Slot Denotes c x) : x.isPresent = c.isSome := by
  cases h with
  | empty => rfl
  | filled hpresent _ => exact hpresent

/-- What an entry denotes where an expression stands. -/
inductive Content.DenotesExpr : Content → Expr → Prop
  | literal {c : Content} (htag : c.tag = "literal") :
      DenotesExpr c (.literal
        { span := c.span, typeName := (LiteralType.ofName (Text.lower c.info.literalType)).name
          value := c.info.value })
  | variable {c : Content} (htag : c.tag = "variable") : DenotesExpr c (.reference c.mention)
  | binary {c : Content} {left right : Expr} (htag : c.tag = "binaryOperation")
      (hleft : Slot DenotesExpr c.left.content? left) (hright : Slot DenotesExpr c.right.content? right) :
      DenotesExpr c (.binary c.span c.info.operator left right)
  | call {c : Content} {arguments : List Expr} (htag : c.tag = "call" ∨ c.tag = "callStatement")
      (harguments : List.Forall₂ DenotesExpr (contents c.arguments) arguments) :
      DenotesExpr c (.call c.span c.info.name arguments)
  | generic {c : Content} (htag : c.tag ∉ expressionTags) : DenotesExpr c (.generic c.generic)

/-- What an object denotes is present. -/
theorem Content.DenotesExpr.isPresent {c : Content} {x : Expr} (h : c.DenotesExpr x) :
    x.isPresent = true := by
  cases h <;> rfl

/-- The expression of a slot is what its object denotes. -/
theorem slot_expr {e : Entry} (h : ∀ c, e.content? = some c → c.DenotesExpr e.expr) :
    Slot Content.DenotesExpr e.content? e.expr := by
  cases hcontent : e.content? with
  | none =>
    cases e with
    | null => exact .empty
    | node => cases hcontent
  | some c => exact .filled (h c hcontent).isPresent (h c hcontent)

mutual

/-- An entry denotes the expression it is decoded to. -/
theorem denotes_expr : ∀ (e : Entry) (c : Content), e.content? = some c → c.DenotesExpr e.expr
  | .null, c, h => by cases h
  | .node info left right _ _ _ _ _ _ _ arguments _ _ _ _, c, h => by
    cases h
    have hleft := slot_expr (denotes_expr left)
    have hright := slot_expr (denotes_expr right)
    have harguments := denotes_exprs arguments
    rw [Entry.expr]
    cases htag : Tag.ofText info.tag with
    | literal => exact .literal (Tag.eq_text_of_ofText htag (by decide))
    | «variable» => exact .variable (Tag.eq_text_of_ofText htag (by decide))
    | binaryOperation => exact .binary (Tag.eq_text_of_ofText htag (by decide)) hleft hright
    | call => exact .call (.inl (Tag.eq_text_of_ofText htag (by decide))) harguments
    | callStatement => exact .call (.inr (Tag.eq_text_of_ofText htag (by decide))) harguments
    | _ => exact .generic ((mem_expressionTags htag).not.mpr (by decide))

/-- The objects of a list denote its expressions one by one. -/
theorem denotes_exprs : ∀ es : List Entry,
    List.Forall₂ Content.DenotesExpr (contents es) (exprsOf es)
  | [] => .nil
  | .null :: rest => denotes_exprs rest
  | .node .. :: rest => .cons (denotes_expr _ _ rfl) (denotes_exprs rest)

end

/-! ## Statements -/

/-- The collection of a loop is never missing: where the document names none, a generic node stands in for it. -/
inductive CollectionSlot : Option Content → Expr → Prop
  | missing : CollectionSlot none (.generic { span := none, tag := "forEachStatement" })
  | given {c : Content} {x : Expr} (h : c.DenotesExpr x) : CollectionSlot (some c) x

/-- A loop over a collection always has one, be it a placeholder. -/
theorem CollectionSlot.isPresent {c : Option Content} {x : Expr} (h : CollectionSlot c x) :
    x.isPresent = true := by
  cases h with
  | missing => rfl
  | given h => exact h.isPresent

mutual

/-- What an entry denotes where a statement stands. -/
inductive Content.DenotesStmt : Content → Stmt → Prop
  | assign {c : Content} {value : Expr} (htag : c.tag = "assignment")
      (hvalue : Slot Content.DenotesExpr c.expression.content? value) :
      Content.DenotesStmt c
        (.assign { span := c.span, target := c.target.content?.map Content.mention, value := value })
  | call {c : Content} {arguments : List Expr} (htag : c.tag = "callStatement")
      (harguments : List.Forall₂ Content.DenotesExpr (contents c.arguments) arguments) :
      Content.DenotesStmt c (.call { span := c.span, name := c.info.name, arguments := arguments })
  | branch {c : Content} {condition : Expr} {body otherwise : List Stmt} {alternatives : List Alternative}
      (htag : c.tag = "ifStatement") (hcondition : Slot Content.DenotesExpr c.condition.content? condition)
      (hbody : List.Forall₂ Content.DenotesStmt (contents c.thenStatements) body)
      (halternatives : List.Forall₂ Clause.Denotes c.clauses alternatives)
      (hotherwise : List.Forall₂ Content.DenotesStmt (contents c.elseStatements) otherwise) :
      Content.DenotesStmt c (.branch c.span condition body alternatives otherwise)
  | loopWhile {c : Content} {condition : Expr} {body : List Stmt} (htag : c.tag = "whileStatement")
      (hcondition : Slot Content.DenotesExpr c.condition.content? condition)
      (hbody : List.Forall₂ Content.DenotesStmt (contents c.statements) body) :
      Content.DenotesStmt c (.loopWhile c.span condition body)
  | loopFor {c : Content} {first last : Expr} {body : List Stmt} (htag : c.tag = "forStatement")
      (hfirst : Slot Content.DenotesExpr c.start.content? first)
      (hlast : Slot Content.DenotesExpr c.stop.content? last)
      (hbody : List.Forall₂ Content.DenotesStmt (contents c.statements) body) :
      Content.DenotesStmt c
        (.loopFor c.span (c.counter.content?.map Content.mention) first last (.hole none) body)
  | loopEach {c : Content} {collection : Expr} {body : List Stmt} (htag : c.tag = "forEachStatement")
      (hcollection : CollectionSlot c.collection.content? collection)
      (hbody : List.Forall₂ Content.DenotesStmt (contents c.statements) body) :
      Content.DenotesStmt c
        (.loopFor c.span (c.counter.content?.map Content.mention) (.hole none) (.hole none) collection body)
  | leave {c : Content} {value : Expr} (htag : c.tag = "returnStatement")
      (hvalue : Slot Content.DenotesExpr c.expression.content? value) :
      Content.DenotesStmt c (.leave c.span value)
  | declare {c : Content} (htag : c.tag = "variableDeclaration") :
      Content.DenotesStmt c (.declare { span := c.span, name := c.info.name, exported := c.info.exported })
  | generic {c : Content} (htag : c.tag ∉ statementTags) : Content.DenotesStmt c (.generic c.generic)

/-- What a further condition denotes. -/
inductive Clause.Denotes : Clause → Alternative → Prop
  | mk {condition : Entry} {statements : List Entry} {x : Expr} {body : List Stmt}
      (hcondition : Slot Content.DenotesExpr condition.content? x)
      (hbody : List.Forall₂ Content.DenotesStmt (contents statements) body) :
      Clause.Denotes (.mk condition statements) (.mk x body)

end

/-- The mention in a slot is that of its object. -/
theorem reference?_eq (e : Entry) : e.reference? = e.content?.map Content.mention := by
  cases e <;> rfl

/-- A collection that is there is kept. -/
theorem collectionOf_of_isPresent {x : Expr} (h : x.isPresent = true) : collectionOf x = x := by
  cases x with
  | hole => cases h
  | _ => rfl

/-- A missing collection is replaced by a placeholder. -/
theorem collectionSlot_expr (e : Entry) : CollectionSlot e.content? (collectionOf e.expr) := by
  cases hcontent : e.content? with
  | none =>
    cases e with
    | null => exact .missing
    | node => cases hcontent
  | some c =>
    have h := denotes_expr e c hcontent
    rw [collectionOf_of_isPresent h.isPresent]
    exact .given h

mutual

/-- An entry denotes the statement it is decoded to. -/
theorem denotes_stmt : ∀ (e : Entry) (c : Content), e.content? = some c → c.DenotesStmt e.stmt
  | .null, c, h => by cases h
  | .node info _ _ target expression condition counter start stop collection arguments thenStatements
      elseStatements statements clauses, c, h => by
    cases h
    have hslot := fun e => slot_expr (denotes_expr e)
    have hthen := denotes_stmts thenStatements
    have helse := denotes_stmts elseStatements
    have hbody := denotes_stmts statements
    have hclauses := denotes_clauses clauses
    rw [Entry.stmt, reference?_eq target, reference?_eq counter]
    cases htag : Tag.ofText info.tag with
    | assignment => exact .assign (Tag.eq_text_of_ofText htag (by decide)) (hslot expression)
    | callStatement => exact .call (Tag.eq_text_of_ofText htag (by decide)) (denotes_exprs arguments)
    | ifStatement =>
      exact .branch (Tag.eq_text_of_ofText htag (by decide)) (hslot condition) hthen hclauses helse
    | whileStatement => exact .loopWhile (Tag.eq_text_of_ofText htag (by decide)) (hslot condition) hbody
    | forStatement =>
      exact .loopFor (Tag.eq_text_of_ofText htag (by decide)) (hslot start) (hslot stop) hbody
    | forEachStatement =>
      exact .loopEach (Tag.eq_text_of_ofText htag (by decide)) (collectionSlot_expr collection) hbody
    | returnStatement => exact .leave (Tag.eq_text_of_ofText htag (by decide)) (hslot expression)
    | variableDeclaration => exact .declare (Tag.eq_text_of_ofText htag (by decide))
    | _ => exact .generic ((mem_statementTags htag).not.mpr (by decide))

/-- The objects of a block denote its statements one by one, and null entries denote nothing. -/
theorem denotes_stmts : ∀ es : List Entry,
    List.Forall₂ Content.DenotesStmt (contents es) (stmtsOf es)
  | [] => .nil
  | .null :: rest => denotes_stmts rest
  | .node .. :: rest => .cons (denotes_stmt _ _ rfl) (denotes_stmts rest)

/-- A clause denotes a further condition with its block. -/
theorem denotes_clause : ∀ clause : Clause, clause.Denotes clause.alternative
  | .mk condition statements => .mk (slot_expr (denotes_expr condition)) (denotes_stmts statements)

/-- Clauses denote further conditions one by one. -/
theorem denotes_clauses : ∀ clauses : List Clause,
    List.Forall₂ Clause.Denotes clauses (alternativesOf clauses)
  | [] => .nil
  | clause :: rest => .cons (denotes_clause clause) (denotes_clauses rest)

end

/-! ## Routines and modules -/

/-- What the description of a routine denotes. -/
structure RoutineEntry.Denotes (r : RoutineEntry) (x : Routine) : Prop where
  span_eq : x.span = spanOf r.range
  name_eq : x.name = r.name
  exported_eq : x.exported = r.exported
  parameters : x.parameters = r.parameters.map fun p => some p.parameter
  body : List.Forall₂ Content.DenotesStmt (contents r.body) x.body

/-- The description of a routine denotes it, whatever its number. -/
theorem RoutineEntry.denotes_routine (r : RoutineEntry) (number : Nat) : r.Denotes (r.routine number) where
  span_eq := rfl
  name_eq := rfl
  exported_eq := rfl
  parameters := rfl
  body := denotes_stmts r.body

/-- What the description of a module denotes: its lists have one tree for each item, in the same order. -/
structure ModuleEntry.Denotes (m : ModuleEntry) (x : Module) : Prop where
  span_eq : x.span = spanOf m.range
  declarations : x.declarations = m.declarations.map fun v => some v.declaration
  functions : List.Forall₂ (fun r slot => ∃ y, slot = some y ∧ r.Denotes y) m.functions x.functions
  procedures : List.Forall₂ (fun r slot => ∃ y, slot = some y ∧ r.Denotes y) m.procedures x.procedures

/-- Whatever numbers are given to them, routines are decoded one by one. -/
theorem denotes_routines (rs : List RoutineEntry) (number : Nat → Nat) :
    List.Forall₂ (fun r slot => ∃ y, slot = some y ∧ r.Denotes y) rs
      (rs.mapIdx fun i r => some (r.routine (number i))) := by
  induction rs generalizing number with
  | nil => exact .nil
  | cons r rest ih =>
    rw [List.mapIdx_cons]
    exact .cons ⟨r.routine (number 0), rfl, r.denotes_routine _⟩ (ih fun i => number (i + 1))

/-- The description of a module denotes it. -/
theorem ModuleEntry.denotes_module (m : ModuleEntry) (source? : Option String) (fallback : String) :
    m.Denotes (m.module source? fallback) where
  span_eq := rfl
  declarations := rfl
  functions := denotes_routines m.functions id
  procedures := denotes_routines m.procedures id

end ModuleLint.Document
