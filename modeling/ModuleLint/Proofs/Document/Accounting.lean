import ModuleLint.Proofs.Document.WellFormed
import ModuleLint.Proofs.Walk.Visits

/-!
# The note about a decoded module agrees with the tree

While a document is decoded, counters run along. They are compared with the nodes that a walk through the decoded tree
shows. What one object adds to the counters is compared with the one node that comes from it (`Origin.Yields.counted`);
the comparison for a module is the sum over all of its nodes (`Counts`). The node that stands in for a missing collection is
not counted, so each loop that lacks one accounts for a difference of one.
-/

set_option autoImplicit false

namespace ModuleLint

def Node.isModule : Node → Bool
  | .module _ => true
  | _ => false

def Node.isGeneric : Node → Bool
  | .expression _ => true
  | _ => false

/-- Whether a node is a loop over a collection. -/
def Node.isEach : Node → Bool
  | .forLoop _ _ _ _ collection _ => collection.isPresent
  | _ => false

/-- Among the nodes of a module the module itself is the only one. -/
theorem Module.countP_isModule (m : Module) : m.outline.nodes.countP Node.isModule = 1 := by
  obtain ⟨below, houtline, hbelow⟩ := m.exists_outline_eq
  have hnone : (nodesOfAll below).countP Node.isModule = 0 := by
    rw [List.countP_eq_zero]
    intro n hn hmodule
    refine hbelow n hn ?_
    cases n with
    | module => rfl
    | _ => cases hmodule
  rw [houtline, Outline.nodes, List.countP_cons, hnone]
  rfl

namespace Document

/-- Whether the document gives a range that the node does not have. -/
def rangeDropped (x : Origin × Node) : Bool := x.2.span.isNone && x.1.range.isSome

/-- Whether the node is a loop over a collection that the document does not name. -/
def collectionMissing (x : Origin × Node) : Bool := x.2.isEach && x.1.lacksCollection

/-! ## One node -/

/-- What an object adds to the counters, compared with the node that comes from it. -/
structure Origin.Counted (o : Origin) (n : Node) : Prop where
  nodes : o.tally.nodes + (if n.isModule then 1 else 0) + (if o.isPlaceholder then 1 else 0) = 1
  generic : o.tally.genericNodes + (if o.isPlaceholder then 1 else 0) = if n.isGeneric then 1 else 0
  dropped : o.tally.droppedRanges = if rangeDropped (o, n) then 1 else 0
  missing : collectionMissing (o, n) = o.lacksCollection

section Entries

variable (known : List String) (c : Content)

/-- An object counts as one node. -/
theorem Content.nodes_tally : (c.tally known).nodes = 1 := by
  unfold Content.tally
  split <;> rfl

/-- An object with an unknown tag counts as a generic node. -/
theorem Content.genericNodes_tally : (c.tally known).genericNodes = if c.tag ∈ known then 0 else 1 := by
  unfold Content.tally
  split <;> rfl

/-- The tag of an object has no part in whether its range is dropped. -/
theorem Content.droppedRanges_tally :
    (c.tally known).droppedRanges = (rangeTally c.info.range).droppedRanges := by
  unfold Content.tally
  split <;> rfl

end Entries

/-- A range is dropped if it is there and is not sound. -/
theorem Origin.droppedRanges_tally (o : Origin) :
    o.tally.droppedRanges = if o.range.any (fun r => !isSound r) then 1 else 0 := by
  cases o with
  | expression c | statement c => exact c.droppedRanges_tally _
  | _ => rfl

/-- A node has lost its range just if the range was not sound. -/
theorem isNone_spanOf (range : Option Range) :
    ((spanOf range).isNone && range.isSome) = range.any fun r => !isSound r := by
  cases range with
  | none => rfl
  | some r => cases hsound : isSound r <;> simp [spanOf, Option.filter, hsound]

/-- Whether a node has lost its range can be told from its object. -/
theorem Origin.Yields.rangeDropped_eq {o : Origin} {n : Node} (h : o.Yields n) :
    rangeDropped (o, n) = o.range.any fun r => !isSound r := by
  rw [rangeDropped, h.span_eq, isNone_spanOf]

/-- An expression is generic just if its tag is unknown. -/
theorem Content.DenotesExpr.isGeneric_iff {c : Content} {x : Expr} {n : Node} (h : c.DenotesExpr x)
    (hnode : x.node? = some n) : n.isGeneric = true ↔ c.tag ∉ expressionTags := by
  cases h with
  | generic htag =>
    cases hnode
    simp [Node.isGeneric, htag]
  | call htag _ =>
    cases hnode
    rcases htag with htag | htag <;> simp [Node.isGeneric, htag, expressionTags]
  | _ htag =>
    cases hnode
    simp [Node.isGeneric, htag, expressionTags]

/-- A statement is generic just if its tag is unknown. -/
theorem Content.DenotesStmt.isGeneric_iff {c : Content} {x : Stmt} {n : Node} (h : c.DenotesStmt x)
    (hnode : x.node? = some n) : n.isGeneric = true ↔ c.tag ∉ statementTags := by
  cases h with
  | generic htag =>
    cases hnode
    simp [Node.isGeneric, htag]
  | _ htag =>
    cases hnode
    simp [Node.isGeneric, htag, statementTags]

/-- A loop over a collection is seen to be one. -/
theorem Content.DenotesStmt.isEach {c : Content} {x : Stmt} {n : Node} (h : c.DenotesStmt x)
    (hnode : x.node? = some n) (hloop : c.tag = "forEachStatement") : n.isEach = true := by
  cases h with
  | loopEach _ hcollection _ =>
    cases hnode
    exact hcollection.isPresent
  | generic htag => exact absurd (by rw [hloop]; decide) htag
  | _ htag => simp [hloop] at htag

/-- No expression is a module. -/
theorem Content.DenotesExpr.isModule_eq {c : Content} {x : Expr} {n : Node} (h : c.DenotesExpr x)
    (hnode : x.node? = some n) : n.isModule = false := by
  cases h <;> cases hnode <;> rfl

/-- No statement is a module. -/
theorem Content.DenotesStmt.isModule_eq {c : Content} {x : Stmt} {n : Node} (h : c.DenotesStmt x)
    (hnode : x.node? = some n) : n.isModule = false := by
  cases h <;> cases hnode <;> rfl

/-- An object counts for a dropped range just if its node has lost one. -/
theorem Origin.Yields.droppedRanges_eq {o : Origin} {n : Node} (h : o.Yields n) :
    o.tally.droppedRanges = if rangeDropped (o, n) then 1 else 0 := by
  rw [Origin.droppedRanges_tally, h.rangeDropped_eq]

/-- What an object adds to the counters can be told from its node. -/
theorem Origin.Yields.counted {o : Origin} {n : Node} (h : o.Yields n) : o.Counted n := by
  have hdropped := h.droppedRanges_eq
  cases h with
  | expression hx hnode =>
    refine ⟨?_, ?_, hdropped, ?_⟩
    · simp [Origin.tally, Content.nodes_tally, hx.isModule_eq hnode, Origin.isPlaceholder]
    · simp [Origin.tally, Content.genericNodes_tally, hx.isGeneric_iff hnode, Origin.isPlaceholder]
    · simp [collectionMissing, Origin.lacksCollection]
  | @statement c _ _ hx hnode =>
    refine ⟨?_, ?_, hdropped, ?_⟩
    · simp [Origin.tally, Content.nodes_tally, hx.isModule_eq hnode, Origin.isPlaceholder]
    · simp [Origin.tally, Content.genericNodes_tally, hx.isGeneric_iff hnode, Origin.isPlaceholder]
    · by_cases hloop : c.tag = "forEachStatement"
      · simp [collectionMissing, hx.isEach hnode hloop]
      · simp [collectionMissing, lacksCollection_of_ne hloop]
  | _ => exact ⟨rfl, rfl, hdropped, rfl⟩

/-! ## All nodes -/

/-- What a list of objects adds to the counters, compared with the nodes that come from them. -/
structure Counts (os : List Origin) (ns : List Node) : Prop where
  nodes : (sumTally (os.map Origin.tally)).nodes + ns.countP Node.isModule + os.countP Origin.isPlaceholder
    = ns.length
  generic : (sumTally (os.map Origin.tally)).genericNodes + os.countP Origin.isPlaceholder
    = ns.countP Node.isGeneric
  dropped : (sumTally (os.map Origin.tally)).droppedRanges = (os.zip ns).countP rangeDropped
  missing : (os.zip ns).countP collectionMissing = os.countP Origin.lacksCollection

/-- Objects add to the counters what can be told from the nodes that come from them. -/
theorem counts_of_yields {os : List Origin} {ns : List Node} (h : List.Forall₂ Origin.Yields os ns) :
    Counts os ns := by
  induction h with
  | nil => exact ⟨rfl, rfl, rfl, rfl⟩
  | @cons o n os ns hyields _ ih =>
    have hcounted := hyields.counted
    have hsum : sumTally ((o :: os).map Origin.tally) = o.tally + sumTally (os.map Origin.tally) := rfl
    constructor
    · have hnode := hcounted.nodes
      have hnodes := ih.nodes
      simp only [hsum, Tally.nodes_add, List.countP_cons, List.length_cons]
      omega
    · have hnode := hcounted.generic
      have hnodes := ih.generic
      simp only [hsum, Tally.genericNodes_add, List.countP_cons]
      omega
    · rw [hsum, Tally.droppedRanges_add, List.zip_cons_cons, List.countP_cons, hcounted.dropped, ih.dropped]
      exact Nat.add_comm _ _
    · rw [List.zip_cons_cons, List.countP_cons, List.countP_cons, hcounted.missing, ih.missing]

/-- The tally of a module compared with its nodes. -/
theorem ModuleEntry.tally_eq (entry : ModuleEntry) (source? : Option String) (fallback : String) :
    let ns := (entry.module source? fallback).outline.nodes
    let missing := (entry.origins.zip ns).countP collectionMissing
    entry.tally.nodes + 1 + missing = ns.length
      ∧ entry.tally.genericNodes + missing = ns.countP Node.isGeneric
      ∧ entry.tally.droppedRanges = (entry.origins.zip ns).countP rangeDropped := by
  intro ns missing
  have haccounts := entry.accounts source? fallback
  have hcounts := counts_of_yields haccounts.yields
  -- placeholders are counted by the origins, loops that lack a collection by the nodes
  have hbalance : entry.origins.countP Origin.isPlaceholder = missing :=
    haccounts.balance.trans hcounts.missing.symm
  have hnodes := hcounts.nodes
  have hgeneric := hcounts.generic
  rw [← haccounts.tally_eq, Module.countP_isModule, hbalance] at hnodes
  rw [← haccounts.tally_eq, hbalance] at hgeneric
  refine ⟨hnodes, hgeneric, ?_⟩
  rw [haccounts.tally_eq]
  exact hcounts.dropped

end Document

/-! ## Notes -/

namespace Loader

open Document (Origin collectionMissing rangeDropped)

/-- The note about a decoded module agrees with the nodes that a walk through the module shows. -/
theorem decoded_note_agrees_with_tree (options : LoaderOptions) (data source name : String)
    (h : (decode options data source name).error = none) :
    let m := (decode options data source name).module
    let visited := (sightings .none m.outline ()).map Prod.fst
    ∃ d entry, (Json.readWhole data.toList).bind Document.ofValue? = some d ∧ d.module? = some entry
      ∧ List.Forall₂ Origin.Yields entry.origins visited
      ∧ ∃ nodes dropped generic : Nat,
        (decode options data source name).records.filter (fun r => r.message == "module decoded")
          = [{ level := .info
               message := "module decoded"
               attributes := [("module", .text m.name), ("variables", .number m.declarations.length),
                 ("functions", .number m.functions.length), ("procedures", .number m.procedures.length),
                 ("nodes", .number nodes), ("dropped_ranges", .number dropped),
                 ("generic_nodes", .number generic)] }]
        ∧ nodes + 1 + (entry.origins.zip visited).countP collectionMissing = visited.length
        ∧ generic + (entry.origins.zip visited).countP collectionMissing = visited.countP Node.isGeneric
        ∧ dropped = (entry.origins.zip visited).countP rangeDropped := by
  intro m visited
  obtain ⟨d, entry, noted, hdocument, hentry, hnoted, hmodule, hrecords⟩ := exists_entry_of_decode h
  have hvisited : visited = (entry.module d.source? name).outline.nodes := by
    rw [← hmodule]
    exact map_fst_sightings _ _ _
  obtain ⟨hnodes, hgeneric, hdropped⟩ := entry.tally_eq d.source? name
  rw [← hvisited] at hnodes hgeneric hdropped
  refine ⟨d, entry, hdocument, hentry, ?_, _, _, _, ?_, hnodes, hgeneric, hdropped⟩
  · rw [hvisited]
    exact (entry.accounts d.source? name).yields
  · have hother : noted.filter (fun r => r.message == "module decoded") = [] := by
      rw [List.filter_eq_nil_iff]
      intro r hr
      rw [hnoted r hr]
      decide
    rw [hrecords, List.filter_append, hother, ← hmodule]
    rfl

/-- The note about an uneven text counts the nodes that come from its objects. -/
theorem decoded_note_agrees_with_tree_uneven :
    let loaded := decode {} unevenText "" "m"
    let visited := (sightings .none loaded.module.outline ()).map Prod.fst
    loaded.error = none
      ∧ ∃ d entry, (Json.readWhole unevenText.toList).bind Document.ofValue? = some d ∧ d.module? = some entry
        ∧ List.Forall₂ Origin.Yields entry.origins visited
        ∧ ∃ nodes dropped generic : Nat,
          loaded.records.filter (fun r => r.message == "module decoded")
            = [decodedNote loaded.module { nodes := nodes, droppedRanges := dropped, genericNodes := generic }]
          ∧ nodes + 1 + (entry.origins.zip visited).countP collectionMissing = visited.length
          ∧ generic + (entry.origins.zip visited).countP collectionMissing = visited.countP Node.isGeneric
          ∧ dropped = (entry.origins.zip visited).countP rangeDropped := by
  have herror : (decode {} unevenText "" "m").error = none := error_eq_none_of_lax rfl describes_unevenText
  obtain ⟨d, entry, hdocument, hentry, hyields, nodes, dropped, generic, hrecords, hcounts⟩ :=
    decoded_note_agrees_with_tree {} unevenText "" "m" herror
  exact ⟨herror, d, entry, hdocument, hentry, hyields, nodes, dropped, generic, hrecords, hcounts⟩

end Loader

end ModuleLint
