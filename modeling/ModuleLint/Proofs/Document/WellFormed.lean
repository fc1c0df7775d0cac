import ModuleLint.Document.Loader
import ModuleLint.Proofs.Document.Origins

/-!
# Decoded trees are well formed

The invariants that later stages rely on are said of one node and the object it comes from (`Origin.Fits`): places start
on a line and do not run backwards, lists have no holes, an optional child is there just where the document fills its
slot, a loop has a collection just where its tag asks for one, an unknown tag gives a generic node, and literals have one of
the known types. They follow from what the object denotes (`Origin.Yields.fits`), and each node of a decoded tree comes from
an object (`ModuleEntry.accounts`).
-/

set_option autoImplicit false

namespace ModuleLint

def Alternative.condition : Alternative → Expr
  | .mk condition _ => condition

def Alternative.body : Alternative → List Stmt
  | .mk _ body => body

namespace Node

/-- The lists of statements of a node. -/
def blocks : Node → List (List Stmt)
  | function r => [r.body]
  | procedure r => [r.body]
  | ifStatement _ _ body alternatives otherwise => body :: otherwise :: alternatives.map Alternative.body
  | whileLoop _ _ body => [body]
  | forLoop _ _ _ _ _ body => [body]
  | _ => []

/-- The arguments of a node. -/
def arguments : Node → List Expr
  | call c => c.arguments
  | _ => []

/-- Which of the optional children of a node are there, in order. -/
def presence : Node → List Bool
  | assignment a => [a.target.isSome, a.value.isPresent]
  | ifStatement _ condition _ alternatives _ =>
    condition.isPresent :: alternatives.map fun a => a.condition.isPresent
  | whileLoop _ condition _ => [condition.isPresent]
  | forLoop _ counter first last collection _ =>
    [counter.isSome, first.isPresent, last.isPresent, collection.isPresent]
  | returnStatement _ value => [value.isPresent]
  | binaryOperation _ _ left right => [left.isPresent, right.isPresent]
  | _ => []

end Node

namespace Document

def Entry.isFilled (e : Entry) : Bool := e.content?.isSome

def Clause.condition : Clause → Entry
  | .mk condition _ => condition

/-- Which of the optional slots of its tag an entry fills where an expression stands. -/
def Content.exprPresence (c : Content) : List Bool :=
  if c.tag = "binaryOperation" then [c.left.isFilled, c.right.isFilled] else []

/-- Which of the optional slots of its tag an entry fills where a statement stands. A loop has the slots of both kinds
of loops; those of the other kind stay empty, and the slot for a collection counts as filled in any case. -/
def Content.stmtPresence (c : Content) : List Bool :=
  if c.tag = "assignment" then [c.target.isFilled, c.expression.isFilled]
  else if c.tag = "ifStatement" then
    c.condition.isFilled :: c.clauses.map fun clause => clause.condition.isFilled
  else if c.tag = "whileStatement" then [c.condition.isFilled]
  else if c.tag = "forStatement" then [c.counter.isFilled, c.start.isFilled, c.stop.isFilled, false]
  else if c.tag = "forEachStatement" then [c.counter.isFilled, false, false, true]
  else if c.tag = "returnStatement" then [c.expression.isFilled]
  else []

namespace Origin

def presence : Origin → List Bool
  | expression c => c.exprPresence
  | statement c => c.stmtPresence
  | _ => []

/-- What holds of a node of a decoded tree and the object it comes from. -/
structure Fits (o : Origin) (n : Node) : Prop where
  range : ∀ r, n.span = some r → 1 ≤ r.start.line ∧ r.stop.before r.start = false
  blocks : ∀ block ∈ n.blocks, ∀ s ∈ block, s.node?.isSome = true
  arguments : ∀ x ∈ n.arguments, x.node?.isSome = true
  presence : n.presence = o.presence
  each : ∀ span counter first last collection body, n = .forLoop span counter first last collection body →
    ∃ c, o = .statement c ∧ (collection.isPresent = true ↔ c.tag = "forEachStatement")
  unknown_statement : ∀ c, o = .statement c → c.tag ∉ statementTags →
    n = .expression { span := spanOf c.info.range, tag := c.tag }
  unknown_expression : ∀ c, o = .expression c → c.tag ∉ expressionTags →
    n = .expression { span := spanOf c.info.range, tag := c.tag }
  literal : ∀ l, n = .literal l → ∃ t : LiteralType, l.typeName = t.name

end Origin

/-! ## Places -/

/-- The node of an expression stands where its object does. -/
theorem Content.DenotesExpr.span_eq {c : Content} {x : Expr} {n : Node} (h : c.DenotesExpr x)
    (hnode : x.node? = some n) : n.span = c.span := by
  cases h <;> cases hnode <;> rfl

/-- The node of a statement stands where its object does. -/
theorem Content.DenotesStmt.span_eq {c : Content} {x : Stmt} {n : Node} (h : c.DenotesStmt x)
    (hnode : x.node? = some n) : n.span = c.span := by
  cases h <;> cases hnode <;> rfl

/-- A node has the range of its object, if this is sound. -/
theorem Origin.Yields.span_eq {o : Origin} {n : Node} (h : o.Yields n) : n.span = spanOf o.range := by
  cases h with
  | module hx => exact hx.span_eq
  | function hx => exact hx.span_eq
  | procedure hx => exact hx.span_eq
  | expression hx hnode => exact hx.span_eq hnode
  | statement hx hnode => exact hx.span_eq hnode
  | _ => rfl

/-- A range that is kept starts at line one or later and does not run backwards. -/
theorem sound_of_spanOf {range : Option Range} {r : Range} (h : spanOf range = some r) :
    1 ≤ r.start.line ∧ r.stop.before r.start = false := by
  have hsound : isSound r = true := (Option.filter_eq_some_iff.mp h).2
  rw [isSound, Bool.and_eq_true, bne_iff_ne, Range.isForward, Bool.not_eq_true'] at hsound
  refine ⟨?_, hsound.2⟩
  have hpos : r.start.line.toNat ≠ 0 := fun hzero => hsound.1 (UInt64.toNat_inj.mp hzero)
  rw [UInt64.le_iff_toNat_le]
  exact Nat.one_le_iff_ne_zero.mpr hpos

/-! ## Lists -/

/-- What holds of all partners holds of all entries. -/
theorem forall_mem_of_forall₂ {α β : Type} {R : α → β → Prop} {P : β → Prop} (hR : ∀ a b, R a b → P b)
    {as : List α} {bs : List β} (h : List.Forall₂ R as bs) : ∀ b ∈ bs, P b := by
  induction h with
  | nil => simp
  | cons hab _ ih => exact List.forall_mem_cons.mpr ⟨hR _ _ hab, ih⟩

/-- What an object denotes as an expression is no hole. -/
theorem Content.DenotesExpr.isSome_node? {c : Content} {x : Expr} (h : c.DenotesExpr x) :
    x.node?.isSome = true := by
  cases h <;> rfl

/-- What an object denotes as a statement is no hole. -/
theorem Content.DenotesStmt.isSome_node? {c : Content} {x : Stmt} (h : c.DenotesStmt x) :
    x.node?.isSome = true := by
  cases h <;> rfl

/-- Arguments have no holes. -/
theorem isSome_node?_of_arguments {cs : List Content} {xs : List Expr}
    (h : List.Forall₂ Content.DenotesExpr cs xs) : ∀ x ∈ xs, x.node?.isSome = true :=
  forall_mem_of_forall₂ (fun _ _ hx => hx.isSome_node?) h

/-- Blocks have no holes. -/
theorem isSome_node?_of_block {cs : List Content} {xs : List Stmt}
    (h : List.Forall₂ Content.DenotesStmt cs xs) : ∀ x ∈ xs, x.node?.isSome = true :=
  forall_mem_of_forall₂ (fun _ _ hx => hx.isSome_node?) h

/-- The block of a further condition has no holes. -/
theorem Clause.Denotes.isSome_node? {clause : Clause} {a : Alternative} (h : clause.Denotes a) :
    ∀ s ∈ a.body, s.node?.isSome = true := by
  cases h with
  | mk _ hbody => exact isSome_node?_of_block hbody

/-- The blocks of a statement have no holes. -/
theorem Content.DenotesStmt.blocks {c : Content} {x : Stmt} {n : Node} (h : c.DenotesStmt x)
    (hnode : x.node? = some n) : ∀ block ∈ n.blocks, ∀ s ∈ block, s.node?.isSome = true := by
  cases h with
  | branch _ _ hbody halternatives hotherwise =>
    cases hnode
    have hclauses := forall_mem_of_forall₂ (fun _ _ ha => ha.isSome_node?) halternatives
    simp only [Node.blocks, List.forall_mem_cons, List.forall_mem_map]
    exact ⟨isSome_node?_of_block hbody, isSome_node?_of_block hotherwise, hclauses⟩
  | loopWhile _ _ hbody | loopFor _ _ _ hbody | loopEach _ _ hbody =>
    cases hnode
    simpa [Node.blocks] using isSome_node?_of_block hbody
  | _ =>
    cases hnode
    simp [Node.blocks]

/-- The blocks of a node have no holes. -/
theorem Origin.Yields.blocks {o : Origin} {n : Node} (h : o.Yields n) :
    ∀ block ∈ n.blocks, ∀ s ∈ block, s.node?.isSome = true := by
  cases h with
  | function hx | procedure hx => simpa [Node.blocks] using isSome_node?_of_block hx.body
  | expression hx hnode => cases hx <;> cases hnode <;> simp [Node.blocks]
  | statement hx hnode => exact hx.blocks hnode
  | _ => simp [Node.blocks]

/-- The arguments of a node have no holes. -/
theorem Origin.Yields.arguments {o : Origin} {n : Node} (h : o.Yields n) :
    ∀ x ∈ n.arguments, x.node?.isSome = true := by
  cases h with
  | expression hx hnode =>
    cases hx with
    | call _ harguments =>
      cases hnode
      exact isSome_node?_of_arguments harguments
    | _ =>
      cases hnode
      simp [Node.arguments]
  | statement hx hnode =>
    cases hx with
    | call _ harguments =>
      cases hnode
      exact isSome_node?_of_arguments harguments
    | _ =>
      cases hnode
      simp [Node.arguments]
  | _ => simp [Node.arguments]

/-! ## Optional children -/

/-- A hole is not present. -/
@[simp] theorem isPresent_hole (missing : Option Kind) : (Expr.hole missing).isPresent = false := rfl

/-- A further condition has a condition just if its clause has one. -/
theorem Clause.Denotes.isPresent_eq {clause : Clause} {a : Alternative} (h : clause.Denotes a) :
    a.condition.isPresent = clause.condition.isFilled := by
  cases h with
  | mk hcondition _ => exact hcondition.isPresent_eq

/-- The same for all further conditions. -/
theorem map_isPresent_eq {clauses : List Clause} {alternatives : List Alternative}
    (h : List.Forall₂ Clause.Denotes clauses alternatives) :
    alternatives.map (fun a => a.condition.isPresent)
      = clauses.map fun clause => clause.condition.isFilled := by
  induction h with
  | nil => rfl
  | cons ha _ ih => rw [List.map_cons, List.map_cons, ha.isPresent_eq, ih]

/-- The slots of an expression are filled as those of its object are. -/
theorem Content.DenotesExpr.presence_eq {c : Content} {x : Expr} {n : Node} (h : c.DenotesExpr x)
    (hnode : x.node? = some n) : n.presence = c.exprPresence := by
  unfold Content.exprPresence
  cases h with
  | binary htag hleft hright =>
    cases hnode
    rw [if_pos htag, Node.presence, hleft.isPresent_eq, hright.isPresent_eq]
    rfl
  | call htag _ =>
    cases hnode
    rcases htag with htag | htag <;> simp [htag, Node.presence]
  | generic htag =>
    cases hnode
    simp only [expressionTags, List.mem_cons, not_or] at htag
    simp [htag, Node.presence]
  | literal htag | «variable» htag =>
    cases hnode
    simp [htag, Node.presence]

/-- The slots of a statement are filled as those of its object are. -/
theorem Content.DenotesStmt.presence_eq {c : Content} {x : Stmt} {n : Node} (h : c.DenotesStmt x)
    (hnode : x.node? = some n) : n.presence = c.stmtPresence := by
  unfold Content.stmtPresence
  cases h with
  | assign htag hvalue =>
    cases hnode
    simp [htag, Node.presence, hvalue.isPresent_eq, Entry.isFilled]
  | branch htag hcondition _ halternatives _ =>
    cases hnode
    simp [htag, Node.presence, hcondition.isPresent_eq, map_isPresent_eq halternatives, Entry.isFilled]
  | loopWhile htag hcondition _ =>
    cases hnode
    simp [htag, Node.presence, hcondition.isPresent_eq, Entry.isFilled]
  | loopFor htag hfirst hlast _ =>
    cases hnode
    simp [htag, Node.presence, hfirst.isPresent_eq, hlast.isPresent_eq, Entry.isFilled]
  | loopEach htag hcollection _ =>
    cases hnode
    simp [htag, Node.presence, hcollection.isPresent, Entry.isFilled]
  | leave htag hvalue =>
    cases hnode
    simp [htag, Node.presence, hvalue.isPresent_eq, Entry.isFilled]
  | generic htag =>
    cases hnode
    simp only [statementTags, List.mem_cons, not_or] at htag
    simp [htag, Node.presence]
  | call htag _ | declare htag =>
    cases hnode
    simp [htag, Node.presence]

/-- The slots of a node are filled as those of its object are. -/
theorem Origin.Yields.presence_eq {o : Origin} {n : Node} (h : o.Yields n) : n.presence = o.presence := by
  cases h with
  | expression hx hnode => exact hx.presence_eq hnode
  | statement hx hnode => exact hx.presence_eq hnode
  | _ => rfl

/-- A loop has a collection just if its object is one over a collection. -/
theorem Origin.Yields.each {o : Origin} {span : Span} {counter : Option Reference}
    {first last collection : Expr} {body : List Stmt}
    (h : o.Yields (.forLoop span counter first last collection body)) :
    ∃ c, o = .statement c ∧ (collection.isPresent = true ↔ c.tag = "forEachStatement") := by
  cases h with
  | expression hx hnode => cases hx <;> cases hnode
  | @statement c _ _ hx hnode =>
    refine ⟨c, rfl, ?_⟩
    cases hx with
    | loopFor htag _ _ _ =>
      cases hnode
      simp [htag]
    | loopEach htag hcollection _ =>
      cases hnode
      simp [htag, hcollection.isPresent]
    | _ => cases hnode

/-! ## Unknown tags and literals -/

/-- A statement of an unknown tag is generic. -/
theorem Content.DenotesStmt.eq_generic {c : Content} {x : Stmt} {n : Node} (h : c.DenotesStmt x)
    (hnode : x.node? = some n) (htag : c.tag ∉ statementTags) : n = .expression c.generic := by
  cases h with
  | generic _ =>
    cases hnode
    rfl
  | _ hknown => exact absurd (by rw [hknown]; decide) htag

/-- An expression of an unknown tag is generic. -/
theorem Content.DenotesExpr.eq_generic {c : Content} {x : Expr} {n : Node} (h : c.DenotesExpr x)
    (hnode : x.node? = some n) (htag : c.tag ∉ expressionTags) : n = .expression c.generic := by
  cases h with
  | generic _ =>
    cases hnode
    rfl
  | call hknown _ => rcases hknown with hknown | hknown <;> exact absurd (by rw [hknown]; decide) htag
  | _ hknown => exact absurd (by rw [hknown]; decide) htag

/-- A literal has one of the known types. -/
theorem Origin.Yields.literal {o : Origin} {l : Literal} (h : o.Yields (.literal l)) :
    ∃ t : LiteralType, l.typeName = t.name := by
  cases h with
  | expression hx hnode =>
    cases hx with
    | literal _ =>
      cases hnode
      exact ⟨_, rfl⟩
    | _ => cases hnode
  | statement hx hnode => cases hx <;> cases hnode

/-! ## Decoded modules -/

/-- A node fits its object in all respects. -/
theorem Origin.Yields.fits {o : Origin} {n : Node} (h : o.Yields n) : o.Fits n where
  range := fun _ hr => sound_of_spanOf (h.span_eq ▸ hr)
  blocks := h.blocks
  arguments := h.arguments
  presence := h.presence_eq
  each := fun _ _ _ _ _ _ hn => (hn ▸ h).each
  unknown_statement := by
    rintro c rfl htag
    cases h with
    | statement hx hnode => exact hx.eq_generic hnode htag
  unknown_expression := by
    rintro c rfl htag
    cases h with
    | expression hx hnode => exact hx.eq_generic hnode htag
  literal := fun _ hl => (hl ▸ h).literal

end Document

namespace Loader

/-- A text from which a module is made is decoded after at most a note about the schema. -/
theorem exists_eq_decodeText {options : LoaderOptions} {data source name : String}
    (h : (decode options data source name).error = none) :
    ∃ noted : List Telemetry.Record, (∀ r ∈ noted, r.message = "module tree violates schema")
      ∧ decode options data source name = decodeText data.toList source name noted := by
  unfold decode at h ⊢
  cases hread : Json.readFirst data.toList with
  | none => simp [hread, fail] at h
  | some read =>
    obtain ⟨value, rest⟩ := read
    simp only [hread] at h ⊢
    cases hviolations : Document.violationTexts value with
    | nil => exact ⟨[], by simp, rfl⟩
    | cons first more =>
      simp only [hviolations] at h ⊢
      -- a strict loader has failed here
      by_cases hstrict : options.strict = true
      · simp [hstrict, fail] at h
      · refine ⟨[schemaNote source (first :: more)], by simp [schemaNote], ?_⟩
        rw [if_neg hstrict]

/-- What loading a text yields if it is no failure. -/
theorem exists_entry_of_decode {options : LoaderOptions} {data source name : String}
    (h : (decode options data source name).error = none) :
    ∃ d entry noted, (Json.readWhole data.toList).bind Document.ofValue? = some d ∧ d.module? = some entry
      ∧ (∀ r ∈ noted, r.message = "module tree violates schema")
      ∧ (decode options data source name).module = entry.module d.source? name
      ∧ (decode options data source name).records
        = noted ++ [decodedNote (entry.module d.source? name) entry.tally] := by
  obtain ⟨noted, hnoted, heq⟩ := exists_eq_decodeText h
  rw [heq] at h ⊢
  unfold decodeText at h ⊢
  cases hdocument : (Json.readWhole data.toList).bind Document.ofValue? with
  | none => simp [hdocument, fail] at h
  | some d =>
    simp only [hdocument] at h ⊢
    cases hmodule : d.module? with
    | none => simp [hmodule, fail] at h
    | some entry => exact ⟨d, entry, noted, rfl, hmodule, hnoted, rfl, rfl⟩

/-- Whatever is decoded, the module denotes what the document describes, and each of its nodes comes from an object of
the document that it fits. -/
theorem decoded_tree_is_wellFormed (options : LoaderOptions) (data source name : String)
    (h : (decode options data source name).error = none) :
    ∃ d entry, (Json.readWhole data.toList).bind Document.ofValue? = some d ∧ d.module? = some entry
      ∧ entry.Denotes (decode options data source name).module
      ∧ List.Forall₂ (fun o n => o.Yields n ∧ o.Fits n) entry.origins
        (decode options data source name).module.outline.nodes := by
  obtain ⟨d, entry, noted, hdocument, hentry, -, hmodule, -⟩ := exists_entry_of_decode h
  refine ⟨d, entry, hdocument, hentry, ?_, ?_⟩
  · rw [hmodule]
    exact entry.denotes_module d.source? name
  · rw [hmodule]
    exact (entry.accounts d.source? name).yields.imp fun _ _ hyields => ⟨hyields, hyields.fits⟩

/-- A loader that is not strict makes a module of whatever describes one. -/
theorem error_eq_none_of_lax {options : LoaderOptions} {data source name : String} (hlax : options.strict = false)
    (h : (((Json.readWhole data.toList).bind Document.ofValue?).bind Document.module?).isSome = true) :
    (decode options data source name).error = none := by
  obtain ⟨entry, h⟩ := Option.isSome_iff_exists.mp h
  obtain ⟨d, hdocument, hentry⟩ := Option.bind_eq_some_iff.mp h
  have htext : ∀ noted, (decodeText data.toList source name noted).error = none := by
    intro noted
    simp only [decodeText, hdocument, hentry]
  obtain ⟨value, hwhole, -⟩ := Option.bind_eq_some_iff.mp hdocument
  obtain ⟨read, hread, -⟩ := Option.bind_eq_some_iff.mp hwhole
  simp only [decode, hread, hlax]
  -- with violations or without them the same text is decoded
  split <;> exact htext _

/-- A text with a range that runs backwards, a null entry, a loop that lacks its collection and an unknown tag. -/
def unevenText : String :=
  "\x7b\"module\":\x7b\"range\":\x7b\"start\":\x7b\"line\":3\x7d,\"end\":\x7b\"line\":2\x7d\x7d,\"procedures\":[\x7b\"body\":[null,\x7b\"type\":\"forEachStatement\"\x7d,\x7b\"type\":\"try\"\x7d]\x7d]\x7d\x7d"

/-- The text describes a module. -/
theorem describes_unevenText :
    (((Json.readWhole unevenText.toList).bind Document.ofValue?).bind Document.module?).isSome = true := by
  decide +kernel

/-- The module of the uneven text is well-formed. -/
theorem decoded_tree_is_wellFormed_uneven :
    (decode {} unevenText "" "m").error = none
      ∧ ∃ d entry, (Json.readWhole unevenText.toList).bind Document.ofValue? = some d ∧ d.module? = some entry
        ∧ entry.Denotes (decode {} unevenText "" "m").module
        ∧ List.Forall₂ (fun o n => o.Yields n ∧ o.Fits n) entry.origins
          (decode {} unevenText "" "m").module.outline.nodes := by
  have herror : (decode {} unevenText "" "m").error = none := error_eq_none_of_lax rfl describes_unevenText
  exact ⟨herror, decoded_tree_is_wellFormed {} unevenText "" "m" herror⟩

end Loader

end ModuleLint
