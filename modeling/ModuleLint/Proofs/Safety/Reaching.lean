import ModuleLint.Proofs.Flow.ReachingUses
import ModuleLint.Proofs.Safety.Lowering

/-!
# Careful reaching definitions

The search for reachable blocks and for reaching definitions keeps several lists with one entry for each block, and a
table with the definitions of each variable. None of these is ever looked up outside of its bounds: a graph that comes
from a routine is well-formed, its definitions stand in its blocks, and a block that waits in a queue or on a stack is a
block of the graph. Definitions get their numbers in 32 bits as long as there are not more of them (`Fits`).
-/

set_option autoImplicit false

namespace ModuleLint.Careful

open ModuleLint.Flow

/-! ## Reachable blocks -/

def push (s : Graph.Search) (b : Nat) : Careful Graph.Search := do
  let known ← fetch s.seen b
  if known then return s
  let seen ← store s.seen b true
  return { stack := b :: s.stack, seen := seen }

def search (g : Graph) : Nat → Graph.Search → Careful Graph.Search
  | 0, s => .ok s
  | fuel + 1, s =>
    match s.stack with
    | [] => .ok s
    | b :: rest => do
      let block ← fetch g.blocks b
      let s ← block.succs.foldlM push { s with stack := rest }
      search g fuel s

def reachable (g : Graph) : Careful (List Bool) := do
  let s ← push { stack := [], seen := g.blocks.map fun _ => false } Graph.entry
  let s ← search g g.blocks.length s
  return s.seen

/-! ## Transfers -/

/-- The sets of definitions by the names of their variables; a variable without definitions has none. -/
abbrev Table := String → Option IdSet

/-- One more definition of a variable. -/
def Table.add (t : Table) (name : String) (id : Nat) : Table :=
  fun x => if x = name then some (((t name).getD IdSet.empty).insert id) else t x

def tableBelow (g : Graph) (bound : Nat) : Careful Table :=
  (List.range bound).foldlM (fun t i => do
    let d ← fetch g.definitions i
    let id ← definitionId i
    return Table.add t d.variableName id) fun _ => none

/-- The table of all definitions. -/
def table (g : Graph) : Careful Table := tableBelow g g.definitions.length

/-- One more event. A definition is looked up in the table, whether or not its variable is there. -/
def extend (t : Table) (effect : Transfer) (e : Event) : Careful Transfer :=
  match e.definition with
  | some d => do
    let all ← deref (t e.variableName)
    let id ← definitionId d
    return { gen := (effect.gen.diff all).insert id, kill := effect.kill.union all }
  | none => .ok effect

def transfer (g : Graph) (t : Table) (b : Nat) : Careful Transfer := do
  let block ← fetch g.blocks b
  let effect ← block.events.foldlM (extend t) Transfer.identity
  return { effect with kill := effect.kill.diff effect.gen }

def transfers (g : Graph) : Careful (List Transfer) := do
  let t ← table g
  map (transfer g t) (List.range g.blocks.length)

/-! ## The solver -/

def incoming (s : Solver) (reachable : List Bool) (block : Block) : Careful IdSet :=
  block.preds.foldlM (fun acc p => do
    let isReachable ← fetch reachable p
    if isReachable then
      let atEnd ← fetch s.ends p
      return acc.union atEnd
    else return acc) IdSet.empty

/-- Puts a reachable block into the queue unless it waits already. -/
def enqueue (reachable : List Bool) (s : Solver) (b : Nat) : Careful Solver := do
  let isReachable ← fetch reachable b
  if isReachable then
    let waits ← fetch s.queued b
    if waits then return s
    let queued ← store s.queued b true
    return { s with queue := s.queue ++ [b], queued := queued }
  else return s

def evaluate (g : Graph) (transfers : List Transfer) (reachable : List Bool) (s : Solver) (b : Nat)
    (rest : List Nat) : Careful Solver := do
  let block ← fetch g.blocks b
  let newStart ← incoming s reachable block
  let effect ← fetch transfers b
  let starts ← store s.starts b newStart
  let queued ← store s.queued b false
  let oldEnd ← fetch s.ends b
  let s := { s with starts := starts, queue := rest, queued := queued, evaluations := s.evaluations + 1 }
  if effect.apply newStart == oldEnd then return s
  let ends ← store s.ends b (effect.apply newStart)
  block.succs.foldlM (enqueue reachable) { s with ends := ends }

def run (g : Graph) (transfers : List Transfer) (reachable : List Bool) :
    Nat → Solver → Careful (Except Nat Solver)
  | budget, s =>
    match s.queue, budget with
    | [], _ => .ok (.ok s)
    | _ :: _, 0 => .ok (.error s.evaluations)
    | b :: rest, budget + 1 => do
      let s ← evaluate g transfers reachable s b rest
      run g transfers reachable budget s

def solve (g : Graph) (budget : Nat) : Careful (Except Nat Solver) := do
  let effects ← transfers g
  let flags ← reachable g
  let waiting ← filter (fetch flags) (List.range g.blocks.length)
  let queued ← waiting.foldlM (fun queued b => store queued b true) (g.blocks.map fun _ => false)
  run g effects flags budget { Solver.start g flags with queue := waiting, queued := queued }

/-! ## Uses and findings -/

/-- Goes past one event. A variable is looked up in the table only if it is there. -/
def replay (g : Graph) (t : Table) (b : Nat) (r : Replay) (e : Event) : Careful Replay :=
  match e.definition with
  | some d => do
    let live ← ifPresent (t e.variableName) r.live fun all => .ok (r.live.diff all)
    let id ← definitionId d
    return { r with live := live.insert id }
  | none => do
    let reaching ← ifPresent (t e.variableName) [] fun all =>
      .ok ((r.live.inter all).below g.definitions.length)
    return { r with uses := r.uses ++
      [{ variableName := e.variableName, line := e.line, column := e.column, block := b, reaching := reaching }] }

def usesInBlock (g : Graph) (t : Table) (s : Solver) (b : Nat) : Careful (List Use) := do
  let start ← fetch s.starts b
  let block ← fetch g.blocks b
  let r ← block.events.foldlM (replay g t b) { live := start, uses := [] }
  return r.uses

def usesOf (g : Graph) (s : Solver) : Careful (List Use) := do
  let t ← table g
  flatMap (usesInBlock g t s) (List.range g.blocks.length)

def analyzeRoutine (budget : Nat) (m? : Option Module) (kind : RoutineKind) (r : Routine) :
    Careful (Except BudgetError Result) := do
  let g ← ofRoutine m? r
  let solution ← solve g budget
  match solution with
  | .ok s =>
    let flags ← reachable g
    let uses ← usesOf g s
    return .ok { kind := kind, routine := r, graph := g, evaluations := s.evaluations, uses := uses
                 reachable := flags }
  | .error n => return .error { routine := r.name, evaluations := n }

/-- The assignments that nothing observes. Whether a block is reachable is asked only for assignments that do not
escape. -/
def deadDefinitions (r : Result) : Careful (List (Nat × Definition)) := do
  let used ← (r.uses.flatMap (·.reaching)).foldlM (fun used i => do
    let id ← definitionId i
    return used.insert id) IdSet.empty
  filter (fun x => do
    if x.2.origin != .assignment || x.2.escapes then return false
    let isReachable ← fetch r.reachable x.2.block
    if !isReachable then return false
    let id ← definitionId x.1
    return !used.contains id) r.numbered

def undefinedUses (r : Result) : Careful (List Use) :=
  filter (fun u => do
    if !u.reaching.isEmpty then return false
    let isReachable ← fetch r.reachable u.block
    return isReachable && r.graph.definitions.any fun d => d.variableName == u.variableName) r.uses

/-- The uses of a variable, which are kept by their indices. -/
def usesNamed (r : Result) (name : String) : Careful (List Use) :=
  map (fetch r.uses) ((List.range r.uses.length).filter fun i => r.uses[i]?.any fun u => u.variableName == name)

/-- The definitions that reach a use. -/
def reachingAt (r : Result) (u : Use) : Careful (List Definition) := map (fetch r.graph.definitions) u.reaching

/-! ## Graphs of routines -/

/-- What the analysis of a flow graph relies on. -/
structure Fits (g : Graph) : Prop where
  wellFormed : g.WellFormed
  block_lt : ∀ d ∈ g.definitions, d.block < g.blocks.length
  definitions_le : g.definitions.length ≤ Nat.pow 2 32

/-- Definitions are made in blocks that are there. -/
theorem block_lt_of_steps {names : Names} {inner : Nat → Prop} {b b' : Builder} {es : List Effect}
    (h : Builder.Steps names inner b es b') (hb : b.current < b.size)
    (hblocks : ∀ d ∈ b.graph.definitions, d.block < b.size) : ∀ d ∈ b'.graph.definitions, d.block < b'.size := by
  induction h with
  | refl => exact hblocks
  | effect e h ih =>
    intro d hd
    rw [Builder.definitions_perform, List.mem_append] at hd
    rw [Builder.size_perform]
    rcases hd with hd | hd
    · exact ih d hd
    · cases e with
      | define origin name span =>
        rw [List.mem_singleton.mp hd]
        exact h.current_lt hb
      | read r => cases hd
  | edge _ _ _ _ _ ih =>
    rw [Builder.size_addEdge]
    exact ih
  | block kind _ ih =>
    intro d hd
    rw [Builder.size_startBlock]
    exact Nat.lt_succ_of_lt (ih d hd)

/-- The graph of a routine fits if its definitions can be numbered. -/
theorem fits_ofRoutine (m? : Option Module) (r : Routine)
    (h : (Graph.ofRoutine m? r).definitions.length ≤ Nat.pow 2 32) : Fits (Graph.ofRoutine m? r) := by
  refine ⟨Graph.wellFormed_ofRoutine m? r, ?_, h⟩
  rw [ofRoutine_eq]
  exact block_lt_of_steps (steps_finalBuilder m? r) (by decide) fun d hd => nomatch hd

/-- A block is found under its number. -/
theorem exists_fetch_eq_ok {g : Graph} {b : Nat} (h : b < g.blocks.length) :
    ∃ block, fetch g.blocks b = .ok block ∧ block.succs = g.succs b ∧ block.preds = g.preds b
      ∧ block.events = g.events b := by
  refine ⟨g.blocks[b], fetch_eq_ok_iff.mpr (List.getElem?_eq_getElem h), ?_, ?_, ?_⟩
  · rw [Graph.succs, List.getElem?_eq_getElem h]
  · rw [Graph.preds, List.getElem?_eq_getElem h]
  · rw [Graph.events, List.getElem?_eq_getElem h]

/-! ## The search for reachable blocks -/

/-- Only blocks of the graph wait, and there is a mark for each block. -/
structure Searches (g : Graph) (s : Graph.Search) : Prop where
  length_seen : s.seen.length = g.blocks.length
  stack_lt : ∀ b ∈ s.stack, b < g.blocks.length

/-- A block of the graph can be pushed. -/
theorem push_eq_ok {g : Graph} {s : Graph.Search} (h : Searches g s) {b : Nat} (hb : b < g.blocks.length) :
    push s b = .ok (s.push b) ∧ Searches g (s.push b) := by
  have hlt : b < s.seen.length := by
    rw [h.length_seen]
    exact hb
  constructor
  · unfold push Graph.Search.push
    rw [fetch_eq_ok hlt true, ok_bind, store_eq_ok hlt, ok_bind]
    cases s.seen.getD b true with
    | true => rfl
    | false => rfl
  · refine ⟨(Graph.Search.length_push s b).trans h.length_seen, ?_⟩
    intro c hc
    rcases Graph.Search.mem_stack_push s b c hc with hc | rfl
    · exact h.stack_lt c hc
    · exact hb

/-- The search has no fault, whatever fuel it is given. -/
theorem search_eq_ok {g : Graph} (hg : g.WellFormed) (fuel : Nat) {s : Graph.Search} (h : Searches g s) :
    search g fuel s = .ok (Graph.Search.run g fuel s) ∧ Searches g (Graph.Search.run g fuel s) := by
  induction fuel generalizing s with
  | zero => exact ⟨rfl, h⟩
  | succ fuel ih =>
    unfold search Graph.Search.run
    cases hstack : s.stack with
    | nil => exact ⟨rfl, h⟩
    | cons b rest =>
      have hb : b < g.blocks.length := h.stack_lt b (by rw [hstack]; exact List.mem_cons_self)
      obtain ⟨block, hfetch, hsuccs, -⟩ := exists_fetch_eq_ok hb
      have hrest : Searches g { s with stack := rest } :=
        ⟨h.length_seen, fun c hc => h.stack_lt c (by rw [hstack]; exact List.mem_cons_of_mem b hc)⟩
      obtain ⟨hpushed, hnext⟩ := foldlM_eq_ok (Searches g) hrest
        fun t c (hc : c ∈ g.succs b) ht => push_eq_ok ht (hg.succs_lt b c hc)
      simp only [hfetch, ok_bind, hsuccs, hpushed]
      exact ih hnext

/-- A search begins with one mark for each block. -/
theorem searches_start {g : Graph} : Searches g { stack := [], seen := g.blocks.map fun _ => false } :=
  ⟨List.length_map _, fun _ hb => nomatch hb⟩

/-- The blocks that can be reached are found without a fault. -/
theorem reachable_eq_ok {g : Graph} (hg : g.WellFormed) :
    reachable g = .ok g.reachable ∧ g.reachable.length = g.blocks.length := by
  obtain ⟨hpush, hfirst⟩ := push_eq_ok searches_start hg.entry_lt
  obtain ⟨hsearch, hlast⟩ := search_eq_ok hg g.blocks.length hfirst
  unfold reachable
  rw [hpush, ok_bind, hsearch, ok_bind]
  exact ⟨rfl, hlast.length_seen⟩

/-! ## The table of definitions -/

/-- The definitions of a variable among those with numbers below a bound. -/
def definitionsBelow (g : Graph) (bound : Nat) (name : String) : List Nat :=
  (List.range bound).filter fun i => (g.definitions[i]?.map (·.variableName)) == some name

/-- The table that knows of all definitions below a bound. -/
def knownBelow (g : Graph) (bound : Nat) : Table := fun name =>
  match definitionsBelow g bound name with
  | [] => none
  | ids => some (IdSet.ofList ids)

/-- The next definition belongs to its own variable. -/
theorem definitionsBelow_succ (g : Graph) {k : Nat} {d : Definition} (hd : g.definitions[k]? = some d)
    (name : String) :
    definitionsBelow g (k + 1) name
      = if name = d.variableName then definitionsBelow g k name ++ [k] else definitionsBelow g k name := by
  unfold definitionsBelow
  rw [List.range_succ, List.filter_append]
  by_cases hname : name = d.variableName
  · simp [hd, hname]
  · simp [hd, hname, Ne.symm hname]

/-- Adding it to the table extends the table by one. -/
theorem add_knownBelow (g : Graph) {k : Nat} {d : Definition} (hd : g.definitions[k]? = some d) :
    (knownBelow g k).add d.variableName k = knownBelow g (k + 1) := by
  funext name
  unfold Table.add knownBelow
  rw [definitionsBelow_succ g hd]
  by_cases hname : name = d.variableName
  · subst hname
    simp only [if_true]
    cases definitionsBelow g k d.variableName with
    | nil => rfl
    | cons i rest => simp [IdSet.ofList]
  · simp only [if_neg hname]

/-- The table of definitions is built up one by one, as long as their numbers have 32 bits. -/
theorem tableBelow_eq_ok {g : Graph} (hle : g.definitions.length ≤ Nat.pow 2 32) {k : Nat}
    (hk : k ≤ g.definitions.length) : tableBelow g k = .ok (knownBelow g k) := by
  induction k with
  | zero => rfl
  | succ k ih =>
    have hlt : k < g.definitions.length := hk
    have hd := List.getElem?_eq_getElem hlt
    have hprefix := ih (Nat.le_of_succ_le hk)
    unfold tableBelow at hprefix ⊢
    rw [List.range_succ, List.foldlM_append, hprefix, ok_bind, List.foldlM_cons, fetch_eq_ok_iff.mpr hd, ok_bind,
      definitionId_eq_ok (Nat.lt_of_lt_of_le hlt hle), ok_bind, pure_eq_ok, ok_bind, add_knownBelow g hd]
    rfl

/-- The table of all definitions of a graph. -/
def known (g : Graph) : Table := knownBelow g g.definitions.length

/-- The whole table of definitions can be built up for a graph that fits. -/
theorem table_eq_ok {g : Graph} (hg : Fits g) : table g = .ok (known g) :=
  tableBelow_eq_ok hg.definitions_le (Nat.le_refl _)

/-- What is not in the table has no definitions. -/
theorem getD_known (g : Graph) (name : String) : (known g name).getD IdSet.empty = g.definitionsOf name := by
  unfold known knownBelow Graph.definitionsOf
  show (match definitionsBelow g g.definitions.length name with
    | [] => none
    | ids => some (IdSet.ofList ids)).getD IdSet.empty = IdSet.ofList (definitionsBelow g g.definitions.length name)
  cases definitionsBelow g g.definitions.length name with
  | nil => rfl
  | cons i rest => rfl

/-- The variable of a definition is in the table. -/
theorem known_eq_some {g : Graph} {d : Nat} {name : String} (h : g.Defines d name) :
    known g name = some (g.definitionsOf name) := by
  have hmem : d ∈ definitionsBelow g g.definitions.length name := by
    unfold definitionsBelow
    rw [List.mem_filter, List.mem_range]
    exact ⟨h.lt, beq_iff_eq.mpr h⟩
  have hknown := getD_known g name
  revert hknown
  unfold known knownBelow
  cases hids : definitionsBelow g g.definitions.length name with
  | nil =>
    rw [hids] at hmem
    cases hmem
  | cons i rest => exact fun hknown => congrArg some hknown

section Fitting

variable {g : Graph} (hg : Fits g)
include hg

/-- The definitions of a graph that fits can be numbered. -/
theorem definitionId_of_defines {d : Nat} {name : String} (h : g.Defines d name) : definitionId d = .ok d :=
  definitionId_eq_ok (Nat.lt_of_lt_of_le h.lt hg.definitions_le)

/-! ## Transfers -/

/-- An event of the graph extends a summary without a fault. -/
theorem extend_eq_ok {b : Nat} {e : Event} (he : e ∈ g.events b) (effect : Transfer) :
    extend (known g) effect e = .ok (effect.extend g e) := by
  unfold extend Transfer.extend
  cases hd : e.definition with
  | none => rfl
  | some d =>
    have hdefines := hg.wellFormed.defines_of_event he hd
    simp only [deref_eq_ok (known_eq_some hdefines), ok_bind, definitionId_of_defines hg hdefines]
    rfl

/-- The summary of each block can be found. -/
theorem transfer_eq_ok {b : Nat} (hb : b < g.blocks.length) :
    transfer g (known g) b = .ok (Transfer.ofBlock g b) := by
  obtain ⟨block, hfetch, -, -, hevents⟩ := exists_fetch_eq_ok hb
  have hloop := foldlM_eq_ok_of_forall Transfer.identity fun effect e he => extend_eq_ok hg (b := b) he effect
  unfold transfer
  rw [hfetch, ok_bind, hevents, hloop, ok_bind]
  rfl

/-- The summaries of all blocks can be found. -/
theorem transfers_eq_ok : transfers g = .ok (Solver.transfers g) := by
  unfold transfers
  rw [table_eq_ok hg, ok_bind]
  exact map_eq_ok fun b hb => transfer_eq_ok hg (List.mem_range.mp hb)

omit hg in
/-- Each block has its summary. -/
theorem length_transfers : (Solver.transfers g).length = g.blocks.length := by
  rw [Solver.transfers, List.length_map, List.length_range]

/-! ## The solver -/

omit hg in
/-- The flag of a block. -/
theorem fetch_reachable (hwf : g.WellFormed) {b : Nat} (hb : b < g.blocks.length) :
    fetch g.reachable b = .ok (g.reachable.getD b false) := by
  apply fetch_eq_ok
  rw [(reachable_eq_ok hwf).2]
  exact hb

/-- There is a set for the start and for the end of each block, the flags tell which blocks wait, and only blocks of the
graph wait. -/
structure Solves (g : Graph) (s : Solver) : Prop where
  flagged : Solver.Flagged g s
  length_starts : s.starts.length = g.blocks.length
  length_ends : s.ends.length = g.blocks.length
  queue_lt : ∀ b ∈ s.queue, b < g.blocks.length

/-- A block comes after another one only if both are there. -/
theorem pred_lt {b p : Nat} (hp : p ∈ g.preds b) : p < g.blocks.length := by
  have hsucc := (hg.wellFormed.mem_preds_iff p b).mp hp
  rcases Nat.lt_or_ge p g.blocks.length with hlt | hge
  · exact hlt
  · rw [Graph.succs, List.getElem?_eq_none hge] at hsucc
    cases hsucc

/-- The ends of all predecessors can be looked up. -/
theorem incoming_eq_ok {s : Solver} (h : Solves g s) {b : Nat} {block : Block} (hblock : block.preds = g.preds b) :
    incoming s g.reachable block = .ok (s.incoming g g.reachable b) := by
  unfold incoming Solver.incoming
  rw [hblock]
  apply foldlM_eq_ok_of_forall
  intro acc p hp
  have hlt := pred_lt hg hp
  have hend : p < s.ends.length := by
    rw [h.length_ends]
    exact hlt
  rw [fetch_reachable hg.wellFormed hlt, ok_bind]
  cases g.reachable.getD p false with
  | false => rfl
  | true =>
    simp only [if_true, fetch_eq_ok hend IdSet.empty, ok_bind]
    rfl

/-- Only the reachable ones of some blocks are put into the queue. -/
theorem enqueue_eq_ok {s : Solver} (h : s.queued.length = g.blocks.length) {bs : List Nat}
    (hbs : ∀ b ∈ bs, b < g.blocks.length) :
    bs.foldlM (enqueue g.reachable) s
      = .ok ((bs.filter fun b => g.reachable.getD b false).foldl Solver.enqueue s) := by
  rw [List.foldl_filter]
  refine (foldlM_eq_ok (fun s => s.queued.length = g.blocks.length) h fun s b hmem hs => ?_).1
  have hb := hbs b hmem
  have hflag : b < s.queued.length := by
    rw [hs]
    exact hb
  unfold enqueue Solver.enqueue
  simp only [fetch_reachable hg.wellFormed hb, ok_bind, fetch_eq_ok hflag false, store_eq_ok hflag]
  cases g.reachable.getD b false with
  | false => exact ⟨rfl, hs⟩
  | true =>
    cases s.queued.getD b false with
    | true => exact ⟨rfl, hs⟩
    | false => exact ⟨rfl, List.length_set.trans hs⟩

/-- An evaluation has no fault and keeps the lists at their length. -/
theorem evaluate_eq_ok {s : Solver} (h : Solves g s) {b : Nat} {rest : List Nat} (hqueue : s.queue = b :: rest) :
    evaluate g (Solver.transfers g) g.reachable s b rest = .ok (s.next g b rest) ∧ Solves g (s.next g b rest) := by
  have hb : b < g.blocks.length := h.queue_lt b (by rw [hqueue]; exact List.mem_cons_self)
  obtain ⟨block, hfetch, hsuccs, hpreds, -⟩ := exists_fetch_eq_ok hb
  have htransfer : b < (Solver.transfers g).length := by
    rw [length_transfers]
    exact hb
  have hstart : b < s.starts.length := by
    rw [h.length_starts]
    exact hb
  have hend : b < s.ends.length := by
    rw [h.length_ends]
    exact hb
  have hflag : b < s.queued.length := by
    rw [h.flagged.length_queued]
    exact hb
  have hflags : (s.queued.set b false).length = g.blocks.length := List.length_set.trans h.flagged.length_queued
  constructor
  · unfold evaluate Solver.next Solver.evaluate
    simp only [hfetch, ok_bind, incoming_eq_ok hg h hpreds, fetch_eq_ok htransfer Transfer.identity,
      store_eq_ok hstart, store_eq_ok hflag, fetch_eq_ok hend IdSet.empty, store_eq_ok hend, hsuccs]
    split
    · rfl
    · exact enqueue_eq_ok hg hflags (hg.wellFormed.succs_lt b)
  · obtain ⟨hstarts, hends⟩ := Solver.length_next s hb rest
    refine ⟨(h.flagged.next hg.wellFormed hqueue hb).1, hstarts.trans h.length_starts, hends.trans h.length_ends, ?_⟩
    intro c hc
    rcases h.flagged.mem_queue_next hg.wellFormed hqueue hb hc with hc | ⟨hc, -⟩
    · exact h.queue_lt c (by rw [hqueue]; exact List.mem_cons_of_mem b hc)
    · exact hg.wellFormed.succs_lt b c hc

/-- The search for reaching definitions has no fault, whatever the budget. -/
theorem run_eq_ok (budget : Nat) {s : Solver} (h : Solves g s) :
    run g (Solver.transfers g) g.reachable budget s
        = .ok (Solver.run g (Solver.transfers g) g.reachable budget s)
      ∧ ∀ t, Solver.run g (Solver.transfers g) g.reachable budget s = .ok t → Solves g t := by
  induction budget generalizing s with
  | zero =>
    unfold run Solver.run
    cases hqueue : s.queue with
    | nil => exact ⟨rfl, fun t ht => Except.ok.inj ht ▸ h⟩
    | cons b rest =>
      refine ⟨rfl, ?_⟩
      intro t ht
      cases ht
  | succ budget ih =>
    unfold run Solver.run
    cases hqueue : s.queue with
    | nil => exact ⟨rfl, fun t ht => Except.ok.inj ht ▸ h⟩
    | cons b rest =>
      obtain ⟨hevaluate, hnext⟩ := evaluate_eq_ok hg h hqueue
      simp only [hevaluate, ok_bind]
      exact ih hnext

/-- The search for reaching definitions has no fault from its start on, whatever the budget. -/
theorem solve_eq_ok (budget : Nat) :
    solve g budget = .ok (Flow.solve g budget) ∧ ∀ s, Flow.solve g budget = .ok s → Solves g s := by
  have hwaiting : filter (fetch g.reachable) (List.range g.blocks.length)
      = .ok (Solver.start g g.reachable).queue :=
    filter_eq_ok fun b hb => fetch_reachable hg.wellFormed (List.mem_range.mp hb)
  have hlt : ∀ b ∈ (Solver.start g g.reachable).queue, b < g.blocks.length :=
    fun b hb => List.mem_range.mp (List.mem_filter.mp hb).1
  have hstart : Solves g (Solver.start g g.reachable) :=
    ⟨Solver.flagged_start g, List.length_map _, List.length_map _, hlt⟩
  have hflags : (Solver.start g g.reachable).queue.foldlM (fun queued b => store queued b true)
      (g.blocks.map fun _ => false) = .ok (Solver.start g g.reachable).queued := by
    refine (foldlM_eq_ok (fun queued => queued.length = g.blocks.length) (List.length_map _) ?_).1
    intro queued b hb hlength
    exact ⟨store_eq_ok (by rw [hlength]; exact hlt b hb) true, List.length_set.trans hlength⟩
  obtain ⟨hrun, hsolves⟩ := run_eq_ok hg budget hstart
  refine ⟨?_, hsolves⟩
  unfold solve
  rw [transfers_eq_ok hg, ok_bind, (reachable_eq_ok hg.wellFormed).1, ok_bind, hwaiting, ok_bind, hflags, ok_bind]
  exact hrun

/-! ## Uses -/

omit hg in
/-- A set of definitions that is looked up only if it is there, or else taken to be empty. -/
theorem ifPresent_known {α : Type} (name : String) (f : IdSet → α) :
    ifPresent (known g name) (f IdSet.empty) (fun all => .ok (f all)) = .ok (f (g.definitionsOf name)) := by
  rw [← getD_known]
  cases known g name with
  | none => rfl
  | some all => rfl

/-- An event of the graph is replayed without a fault. -/
theorem replay_eq_ok {b : Nat} {e : Event} (he : e ∈ g.events b) (r : Replay) :
    replay g (known g) b r e = .ok (r.step g b e) := by
  have hkeep : r.live.diff IdSet.empty = r.live := IdSet.ext_contains fun i => by simp
  have hnone : (r.live.inter IdSet.empty).below g.definitions.length = [] := by
    simp [IdSet.below]
  have hlive := ifPresent_known (g := g) e.variableName fun all => r.live.diff all
  have hreaching := ifPresent_known (g := g) e.variableName fun all =>
    (r.live.inter all).below g.definitions.length
  simp only [hkeep] at hlive
  simp only [hnone] at hreaching
  unfold replay Replay.step
  cases hd : e.definition with
  | none =>
    simp only [hreaching, ok_bind]
    rfl
  | some d =>
    simp only [hlive, ok_bind, definitionId_of_defines hg (hg.wellFormed.defines_of_event he hd)]
    rfl

/-- The uses in a block can be found. -/
theorem usesInBlock_eq_ok {s : Solver} (h : Solves g s) {b : Nat} (hb : b < g.blocks.length) :
    usesInBlock g (known g) s b = .ok (Flow.usesInBlock g (s.starts.getD b IdSet.empty) b) := by
  obtain ⟨block, hfetch, -, -, hevents⟩ := exists_fetch_eq_ok hb
  have hstart : b < s.starts.length := by
    rw [h.length_starts]
    exact hb
  have hloop := foldlM_eq_ok_of_forall ({ live := s.starts.getD b IdSet.empty, uses := [] } : Replay)
    fun r e he => replay_eq_ok hg (b := b) he r
  unfold usesInBlock
  rw [fetch_eq_ok hstart IdSet.empty, ok_bind, hfetch, ok_bind, hevents, hloop, ok_bind]
  rfl

/-- The uses of a whole graph can be found. -/
theorem usesOf_eq_ok {s : Solver} (h : Solves g s) : usesOf g s = .ok (Flow.usesOf g s) := by
  unfold usesOf
  rw [table_eq_ok hg, ok_bind]
  exact flatMap_eq_ok fun b hb => usesInBlock_eq_ok hg h (List.mem_range.mp hb)

end Fitting

/-- The data flow of a routine is found without a fault. -/
theorem analyzeRoutine_eq_ok (budget : Nat) (m? : Option Module) (kind : RoutineKind) (r : Routine)
    (h : (Graph.ofRoutine m? r).definitions.length ≤ Nat.pow 2 32) :
    analyzeRoutine budget m? kind r = .ok (Flow.analyzeRoutine budget m? kind r) := by
  have hg := fits_ofRoutine m? r h
  obtain ⟨hsolve, hsolves⟩ := solve_eq_ok hg budget
  unfold analyzeRoutine Flow.analyzeRoutine
  rw [ofRoutine_eq_ok, ok_bind, hsolve, ok_bind]
  cases hsolution : Flow.solve (Graph.ofRoutine m? r) budget with
  | error n =>
    simp only [hsolution]
    rfl
  | ok s =>
    simp only [hsolution, (reachable_eq_ok hg.wellFormed).1, ok_bind, usesOf_eq_ok hg (hsolves s hsolution)]
    rfl

/-! ## Findings -/

/-- What the findings of a routine rely on. -/
structure Sound (r : Result) : Prop where
  fits : Fits r.graph
  length_reachable : r.reachable.length = r.graph.blocks.length
  block_lt : ∀ u ∈ r.uses, u.block < r.graph.blocks.length
  reaching_lt : ∀ u ∈ r.uses, ∀ i ∈ u.reaching, i < r.graph.definitions.length

/-- A result can be read without a fault if the definitions of its routine can be numbered. -/
theorem sound_of_analyzeRoutine {budget : Nat} {m? : Option Module} {kind : RoutineKind} {r : Routine}
    {result : Result} (hresult : Flow.analyzeRoutine budget m? kind r = .ok result)
    (h : (Graph.ofRoutine m? r).definitions.length ≤ Nat.pow 2 32) : Sound result := by
  obtain ⟨-, hgraph, hreachable, -⟩ := Flow.analyzeRoutine_eq_ok hresult
  obtain ⟨useOf, huses, hexact⟩ := exists_uses_eq_map hresult
  have hg := fits_ofRoutine m? r h
  refine ⟨by rw [hgraph]; exact hg, ?_, ?_, ?_⟩
  · rw [hreachable, hgraph]
    exact (reachable_eq_ok hg.wellFormed).2
  · intro u hu
    rw [huses] at hu
    obtain ⟨p, hp, rfl⟩ := List.mem_map.mp hu
    obtain ⟨-, -, -, hblock⟩ := (hexact p).stands_at
    rw [hblock, hgraph]
    exact (Graph.mem_usePoints.mp hp).1
  · intro u hu i hi
    rw [huses] at hu
    obtain ⟨p, -, rfl⟩ := List.mem_map.mp hu
    rw [hgraph]
    exact (hexact p).lt_length i hi

/-- The uses of a name are selected without a fault. -/
theorem usesNamed_eq_ok (r : Result) (name : String) : usesNamed r name = .ok (r.usesOf name) := by
  have hrange : (List.range r.uses.length).map (fun i => r.uses.getD i default) = r.uses := by
    apply List.ext_getElem?
    intro i
    by_cases hi : i < r.uses.length
    · simp [hi]
    · simp [hi]
  have hfetch : usesNamed r name = .ok (((List.range r.uses.length).filter fun i =>
      r.uses[i]?.any fun u => u.variableName == name).map fun i => r.uses.getD i default) := by
    apply map_eq_ok
    intro i hi
    exact fetch_eq_ok (List.mem_range.mp (List.mem_filter.mp hi).1) default
  rw [hfetch, Result.usesOf]
  conv_rhs => rw [← hrange, List.filter_map]
  congr 2
  apply List.filter_congr
  intro i hi
  have hlt := List.mem_range.mp hi
  simp [hlt]

section Findings

variable {r : Result} (h : Sound r)
include h

/-- The definitions of a sound result can be numbered. -/
theorem Sound.definitionId_eq_ok {i : Nat} (hi : i < r.graph.definitions.length) : definitionId i = .ok i :=
  Careful.definitionId_eq_ok (Nat.lt_of_lt_of_le hi h.fits.definitions_le)

/-- The mark of each block can be looked up. -/
theorem Sound.fetch_reachable {b : Nat} (hb : b < r.graph.blocks.length) :
    fetch r.reachable b = .ok (r.isReachable b) :=
  fetch_eq_ok (by rw [h.length_reachable]; exact hb) false

/-- The dead definitions are found without a fault. -/
theorem deadDefinitions_eq_ok : deadDefinitions r = .ok r.deadDefinitions := by
  have hused : (r.uses.flatMap (·.reaching)).foldlM (fun used i => do
      let id ← definitionId i
      return used.insert id) IdSet.empty = .ok r.usedDefinitions := by
    apply foldlM_eq_ok_of_forall
    intro used i hi
    obtain ⟨u, hu, hi⟩ := List.mem_flatMap.mp hi
    rw [h.definitionId_eq_ok (h.reaching_lt u hu i hi), ok_bind]
    rfl
  unfold deadDefinitions Result.deadDefinitions
  rw [hused, ok_bind]
  apply filter_eq_ok
  rintro ⟨i, d⟩ hmem
  have hi : i < r.graph.definitions.length := List.mem_range.mp (List.of_mem_zip hmem).1
  have hd : d ∈ r.graph.definitions := (List.of_mem_zip hmem).2
  simp only [h.fetch_reachable (h.fits.block_lt d hd), ok_bind, h.definitionId_eq_ok hi]
  cases d.origin <;> cases d.escapes <;> cases r.isReachable d.block <;> rfl

/-- The undefined uses are found without a fault. -/
theorem undefinedUses_eq_ok : undefinedUses r = .ok r.undefinedUses := by
  apply filter_eq_ok
  intro u hu
  rw [h.fetch_reachable (h.block_lt u hu), ok_bind]
  cases u.reaching.isEmpty with
  | true => rfl
  | false => rfl

/-- The definitions that reach a use can be looked up. -/
theorem reachingAt_isOk {u : Use} (hu : u ∈ r.uses) : (reachingAt r u).isOk = true := by
  unfold reachingAt
  rw [map_eq_ok fun i hi => fetch_eq_ok (h.reaching_lt u hu i hi) default]
  rfl

end Findings

end ModuleLint.Careful
