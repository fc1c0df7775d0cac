import Mathlib.Data.Bool.Count
import ModuleLint.Proofs.Flow.Paths

/-!
# Reachable blocks

The search along the edges of a flow graph finds exactly the blocks to which there is a path from the
block where it starts (`reachableFrom_iff`). Its invariant says that what has been seen can be reached,
and that the successors of a block that has been seen and is not waiting have been seen as well. Each
round takes one block off the stack, and a block is put there only when it is seen for the first time,
so the number of waiting blocks plus the number of unseen ones goes down by one (`pending_round`). For
this it is enough that the edges lead to blocks of the graph.
-/

set_option autoImplicit false

namespace ModuleLint.Flow.Graph

variable {g : Graph} {a b c : Nat} {path : List Nat}

/-- What the analysis relies on: the entry is there, edges lead to blocks and are known at both ends,
and a definition event names an entry in the list of definitions that agrees with it. -/
structure WellFormed (g : Graph) : Prop where
  entry_lt : Graph.entry < g.blocks.length
  succs_lt : ∀ i, ∀ c ∈ g.succs i, c < g.blocks.length
  mem_preds_iff : ∀ i c, i ∈ g.preds c ↔ c ∈ g.succs i
  definition_of_event : ∀ i, ∀ e ∈ g.events i, ∀ d, e.definition = some d →
    ∃ x, g.definitions[d]? = some x ∧ x.variableName = e.variableName ∧ x.block = i

/-- Every edge leads to a block of the graph. -/
def EdgesInside (g : Graph) : Prop := ∀ block ∈ g.blocks, ∀ c ∈ block.succs, c < g.blocks.length

instance (g : Graph) : Decidable g.EdgesInside :=
  inferInstanceAs (Decidable (∀ block ∈ g.blocks, ∀ c ∈ block.succs, c < g.blocks.length))

/-- The successors of any number are blocks. -/
theorem EdgesInside.succs_lt (h : g.EdgesInside) (i : Nat) : ∀ c ∈ g.succs i, c < g.blocks.length := by
  intro c hc
  unfold succs at hc
  cases hi : g.blocks[i]? with
  | none =>
    rw [hi] at hc
    cases hc
  | some block =>
    rw [hi] at hc
    exact h block (List.mem_of_getElem? hi) c hc

/-- In a well-formed graph no edge leads outside. -/
theorem WellFormed.edgesInside (h : g.WellFormed) : g.EdgesInside := by
  intro block hblock c hc
  obtain ⟨i, hi⟩ := List.mem_iff_getElem?.mp hblock
  apply h.succs_lt i
  unfold succs
  rw [hi]
  exact hc

/-- The graph of a routine is well-formed. -/
theorem wellFormed_ofRoutine (m : Option Module) (r : Routine) :
    (Graph.ofRoutine m r).WellFormed := by
  rw [ofRoutine_eq]
  have h := wellFormed_finalBuilder m r
  exact ⟨Nat.lt_of_succ_lt h.exit_lt, h.succs_lt, h.mem_preds_iff, h.definition_of_event⟩

/-! ## Paths grow at their end -/

/-- A path can be continued along an edge. -/
theorem Path.snoc (h : g.Path a path b) (edge : c ∈ g.succs b) : g.Path a (path ++ [c]) c := by
  induction h with
  | single a => exact .cons edge (.single c)
  | cons first _ ih => exact .cons first (ih edge)

/-- Paths can be joined. -/
theorem Path.append {path' : List Nat} (h : g.Path a path b) (h' : g.Path b path' c) :
    g.Path a (path.dropLast ++ path') c := by
  induction h with
  | single a => exact h'
  | @cons a d b rest first tail ih =>
    have hne : rest ≠ [] := by cases tail <;> simp
    rw [List.dropLast_cons_of_ne_nil hne]
    exact .cons first (ih h')

/-- A path ends in its last block. -/
theorem Path.eq_dropLast_append (h : g.Path a path b) : path = path.dropLast ++ [b] := by
  induction h with
  | single a => rfl
  | @cons a d b rest first tail ih =>
    have hne : rest ≠ [] := by cases tail <;> simp
    rw [List.dropLast_cons_of_ne_nil hne, List.cons_append, ← ih]

/-- What a path passes ends with its last block. -/
theorem Path.flatMap_eq_dropLast_append {α : Type} (h : g.Path a path b) (f : Nat → List α) :
    path.flatMap f = path.dropLast.flatMap f ++ f b := by
  conv_lhs => rw [h.eq_dropLast_append]
  rw [List.flatMap_append, List.flatMap_singleton]

/-- Every block reaches itself. -/
theorem Reaches.refl (g : Graph) (a : Nat) : g.Reaches a a := ⟨[a], .single a⟩

/-- One can go on along an edge. -/
theorem Reaches.tail (h : g.Reaches a b) (edge : c ∈ g.succs b) : g.Reaches a c := by
  obtain ⟨path, hpath⟩ := h
  exact ⟨_, hpath.snoc edge⟩

/-- One can go on along a path. -/
theorem Reaches.trans (h : g.Reaches a b) (h' : g.Reaches b c) : g.Reaches a c := by
  obtain ⟨path, hpath⟩ := h
  obtain ⟨path', hpath'⟩ := h'
  exact ⟨_, hpath.append hpath'⟩

/-! ## One push -/

namespace Search

variable {s : Search}

/-- Whether a block has been seen. -/
def Seen (s : Search) (b : Nat) : Prop := s.seen.getD b false = true

/-- The waiting blocks and those that have not been seen yet. -/
def pending (s : Search) : Nat := s.stack.length + s.seen.count false

/-- A block that has been seen is not pushed again. -/
theorem push_of_seen (h : s.Seen b) : s.push b = s := by
  unfold Seen at h
  have hget : s.seen.getD b true = true := by
    rw [List.getD_eq_getElem?_getD] at h ⊢
    cases hb : s.seen[b]? with
    | none => rw [hb] at h; cases h
    | some x => rw [hb] at h; exact h
  unfold push
  rw [if_pos hget]

/-- A new block is marked and waits. -/
theorem push_of_not_seen (h : ¬ s.Seen b) (hb : b < s.seen.length) :
    s.push b = { stack := b :: s.stack, seen := s.seen.set b true } := by
  unfold Seen at h
  have hget : s.seen.getD b true = s.seen.getD b false := by
    simp only [List.getD_eq_getElem?_getD, List.getElem?_eq_getElem hb, Option.getD_some]
  unfold push
  rw [hget, if_neg h]

/-- A push adds no mark for a further block. -/
theorem length_push (s : Search) (b : Nat) : (s.push b).seen.length = s.seen.length := by
  unfold push
  split
  · rfl
  · exact List.length_set

/-- Exactly the pushed block is seen in addition. -/
theorem seen_push (hb : b < s.seen.length) (c : Nat) : (s.push b).Seen c ↔ s.Seen c ∨ c = b := by
  by_cases h : s.Seen b
  · rw [push_of_seen h]
    constructor
    · exact .inl
    · rintro (hc | rfl)
      · exact hc
      · exact h
  · rw [push_of_not_seen h hb]
    unfold Seen
    simp only [List.getD_eq_getElem?_getD, List.getElem?_set]
    by_cases hc : c = b
    · subst hc
      simp [hb]
    · simp [hc, Ne.symm hc]

/-- At most the pushed block waits in addition. -/
theorem mem_stack_push (s : Search) (b c : Nat) (h : c ∈ (s.push b).stack) :
    c ∈ s.stack ∨ c = b := by
  unfold push at h
  split at h
  · exact .inl h
  · rcases List.mem_cons.mp h with rfl | h
    · exact .inr rfl
    · exact .inl h

/-- No waiting block is lost. -/
theorem subset_stack_push (s : Search) (b : Nat) : s.stack ⊆ (s.push b).stack := by
  unfold push
  split
  · exact List.Subset.refl _
  · exact List.subset_cons_self _ _

/-- A block that is seen for the first time has to wait. -/
theorem mem_stack_push_of_not_seen (h : ¬ s.Seen b) (hb : b < s.seen.length) :
    b ∈ (s.push b).stack := by
  rw [push_of_not_seen h hb]
  exact List.mem_cons_self

/-- Pushing a block makes it wait instead of being unseen. -/
theorem pending_push (hb : b < s.seen.length) : (s.push b).pending = s.pending := by
  by_cases h : s.Seen b
  · rw [push_of_seen h]
  · rw [push_of_not_seen h hb]
    have hfalse : s.seen[b] = false := by
      unfold Seen at h
      simpa [List.getD_eq_getElem?_getD, List.getElem?_eq_getElem hb] using h
    have hmem : 0 < s.seen.count false := List.count_pos_iff.mpr (hfalse ▸ List.getElem_mem hb)
    unfold pending
    rw [List.count_set hb, hfalse]
    simp only [List.length_cons, beq_self_eq_true, if_true]
    simp
    omega

/-! ## Pushing all successors of a block -/

/-- The push of a whole list of blocks: exactly these are seen in addition, those seen for the first
time wait, and nothing is lost. -/
structure Extends (s : Search) (targets : List Nat) (s' : Search) : Prop where
  length_eq : s'.seen.length = s.seen.length
  seen_iff : ∀ c, s'.Seen c ↔ s.Seen c ∨ c ∈ targets
  stack_subset : s.stack ⊆ s'.stack
  mem_stack : ∀ c ∈ s'.stack, c ∈ s.stack ∨ c ∈ targets
  new_mem_stack : ∀ c, s'.Seen c → ¬ s.Seen c → c ∈ s'.stack
  pending_eq : s'.pending = s.pending

/-- Pushing a list of blocks extends the search by them, by induction over the list. -/
theorem extends_foldl_push (s : Search) (targets : List Nat)
    (h : ∀ c ∈ targets, c < s.seen.length) : s.Extends targets (targets.foldl push s) := by
  induction targets generalizing s with
  | nil => exact ⟨rfl, by simp, List.Subset.refl _, fun c hc => .inl hc, fun c hc hn => absurd hc hn, rfl⟩
  | cons b rest ih =>
    have hb : b < s.seen.length := h b List.mem_cons_self
    have hrest : ∀ c ∈ rest, c < (s.push b).seen.length := by
      intro c hc
      rw [length_push]
      exact h c (List.mem_cons_of_mem _ hc)
    have hext := ih (s.push b) hrest
    refine ⟨hext.length_eq.trans (length_push s b), fun c => ?_, ?_, fun c hc => ?_,
      fun c hc hn => ?_, hext.pending_eq.trans (pending_push hb)⟩
    · rw [List.foldl_cons, hext.seen_iff, seen_push hb, List.mem_cons, or_assoc]
    · exact List.Subset.trans (subset_stack_push s b) hext.stack_subset
    · rcases hext.mem_stack c hc with hc | hc
      · rcases mem_stack_push s b c hc with hc | rfl
        · exact .inl hc
        · exact .inr List.mem_cons_self
      · exact .inr (List.mem_cons_of_mem _ hc)
    · by_cases hpushed : (s.push b).Seen c
      · rcases (seen_push hb c).mp hpushed with hold | rfl
        · exact absurd hold hn
        · exact hext.stack_subset (mem_stack_push_of_not_seen hn hb)
      · exact hext.new_mem_stack c hc hpushed

/-! ## The search -/

/-- What holds at every moment of a search from `start`. -/
structure Explored (g : Graph) (start : Nat) (s : Search) : Prop where
  length_eq : s.seen.length = g.blocks.length
  seen_start : s.Seen start
  seen_of_mem : ∀ b ∈ s.stack, s.Seen b
  reaches : ∀ b, s.Seen b → g.Reaches start b
  closed : ∀ b, s.Seen b → b ∉ s.stack → ∀ c ∈ g.succs b, s.Seen c

/-- Going on round by round, with one waiting block looked at in each, until no block waits. -/
inductive Ends (g : Graph) : Search → Nat → Search → Prop
  | done {s : Search} (hstack : s.stack = []) : Ends g s 0 s
  | round {s t : Search} {b n : Nat} {rest : List Nat} (hstack : s.stack = b :: rest)
      (tail : Ends g ((g.succs b).foldl push { s with stack := rest }) n t) : Ends g s (n + 1) t

variable {start n : Nat} {t : Search} {rest : List Nat}

/-- What pushing its successors does when a block is looked at. -/
theorem extends_round (hg : g.EdgesInside) (hlength : s.seen.length = g.blocks.length) (b : Nat)
    (rest : List Nat) :
    Extends { s with stack := rest } (g.succs b) ((g.succs b).foldl push { s with stack := rest }) := by
  apply extends_foldl_push
  intro c hc
  show c < s.seen.length
  rw [hlength]
  exact hg.succs_lt b c hc

/-- A round takes one block off, and the blocks that it makes wait were unseen before. -/
theorem pending_round (hg : g.EdgesInside) (hlength : s.seen.length = g.blocks.length)
    (hstack : s.stack = b :: rest) :
    ((g.succs b).foldl push { s with stack := rest }).pending + 1 = s.pending := by
  rw [(extends_round hg hlength b rest).pending_eq]
  unfold pending
  rw [hstack, List.length_cons]
  exact Nat.add_right_comm ..

/-- A round keeps what holds of a search. -/
theorem Explored.round (h : Explored g start s) (hg : g.EdgesInside) (hstack : s.stack = b :: rest) :
    Explored g start ((g.succs b).foldl push { s with stack := rest }) := by
  have hseen : s.Seen b := h.seen_of_mem b (by rw [hstack]; exact List.mem_cons_self)
  have hext := extends_round hg h.length_eq b rest
  refine ⟨hext.length_eq.trans h.length_eq, (hext.seen_iff start).mpr (.inl h.seen_start),
    fun c hc => ?_, fun c hc => ?_, fun x hx hn c hc => ?_⟩
  · rcases hext.mem_stack c hc with hc | hc
    · exact (hext.seen_iff c).mpr (.inl (h.seen_of_mem c (by
        rw [hstack]
        exact List.mem_cons_of_mem _ hc)))
    · exact (hext.seen_iff c).mpr (.inr hc)
  · rcases (hext.seen_iff c).mp hc with hc | hc
    · exact h.reaches c hc
    · exact (h.reaches b hseen).tail hc
  · -- a block that does not wait any more is the one just looked at, or it did not wait before
    by_cases hxb : x = b
    · subst hxb
      exact (hext.seen_iff c).mpr (.inr hc)
    · by_cases hold : s.Seen x
      · have hnot : x ∉ s.stack := by
          rw [hstack, List.mem_cons, not_or]
          exact ⟨hxb, fun hmem => hn (hext.stack_subset hmem)⟩
        exact (hext.seen_iff c).mpr (.inl (h.closed x hold hnot c hc))
      · exact absurd (hext.new_mem_stack x hx hold) hn

/-- The rounds come to an end, and their number is that of the blocks which are not pending any more. -/
theorem exists_ends (hg : g.EdgesInside) (hlength : s.seen.length = g.blocks.length) :
    ∃ n t, Ends g s n t ∧ n + t.pending = s.pending := by
  -- a round leaves one block less pending
  induction hpending : s.pending generalizing s with
  | zero =>
    have hnil : s.stack = [] := by
      unfold pending at hpending
      exact List.eq_nil_of_length_eq_zero (by omega)
    exact ⟨0, s, .done hnil, by omega⟩
  | succ k ih =>
    cases hstack : s.stack with
    | nil => exact ⟨0, s, .done hstack, by omega⟩
    | cons b rest =>
      have hless := pending_round hg hlength hstack
      have hnext := (extends_round hg hlength b rest).length_eq.trans hlength
      obtain ⟨n, t, hends, hcount⟩ := ih hnext (by omega)
      exact ⟨n + 1, t, .round hstack hends, by omega⟩

/-- At the end no block waits. -/
theorem Ends.stack_eq_nil (h : Ends g s n t) : t.stack = [] := by
  induction h with
  | done hstack => exact hstack
  | round _ _ ih => exact ih

/-- With a step for each round the search comes to its end, and further steps change nothing. -/
theorem Ends.run_eq (h : Ends g s n t) {fuel : Nat} (hfuel : n ≤ fuel) : Search.run g fuel s = t := by
  induction h generalizing fuel with
  | done hstack => cases fuel <;> simp [Search.run, hstack]
  | round hstack _ ih =>
    obtain ⟨k, rfl⟩ := Nat.exists_eq_add_of_lt hfuel
    rw [Search.run, hstack]
    exact ih (by omega)

/-- A whole search keeps what holds of it round by round. -/
theorem Explored.ends (h : Explored g start s) (hg : g.EdgesInside) (hends : Ends g s n t) :
    Explored g start t := by
  induction hends with
  | done _ => exact h
  | round hstack _ ih => exact ih (h.round hg hstack)

/-- The search begins with a push of its start. -/
theorem extends_start (hstart : start < g.blocks.length) :
    Extends { stack := [], seen := g.blocks.map fun _ => false } [start] (Search.start g start) :=
  extends_foldl_push _ [start] (by simpa using hstart)

/-- What holds of a search holds at its beginning. -/
theorem explored_start (hstart : start < g.blocks.length) : Explored g start (Search.start g start) := by
  have hfirst := extends_start hstart
  have hunseen : ∀ b, ¬ Seen { stack := [], seen := g.blocks.map fun _ => false } b := by
    intro b
    unfold Seen
    rw [List.getD_eq_getElem?_getD, List.getElem?_map]
    cases g.blocks[b]? <;> simp
  refine ⟨hfirst.length_eq.trans (List.length_map _), ?_, fun c hc => ?_, fun c hc => ?_, fun c hc hn => ?_⟩
  · exact (hfirst.seen_iff start).mpr (.inr List.mem_cons_self)
  · rcases hfirst.mem_stack c hc with hc | hc
    · cases hc
    · exact (hfirst.seen_iff c).mpr (.inr hc)
  · rcases (hfirst.seen_iff c).mp hc with hc | hc
    · exact absurd hc (hunseen c)
    · rw [List.mem_singleton.mp hc]
      exact .refl g _
  · exact absurd (hfirst.new_mem_stack c hc (hunseen c)) hn

/-- At the beginning every block is waiting or unseen. -/
theorem pending_start (hstart : start < g.blocks.length) :
    (Search.start g start).pending = g.blocks.length := by
  rw [(extends_start hstart).pending_eq]
  simp [pending, List.map_const', List.count_replicate_self]

end Search

variable {start : Nat}

/-- The search ends by itself, after one round for each block that it marks. -/
theorem exists_ends_reachableFrom (hg : g.EdgesInside) (hstart : start < g.blocks.length) :
    ∃ t, Search.Ends g (Search.start g start) ((g.reachableFrom start).count true) t
      ∧ t.seen = g.reachableFrom start ∧ Search.Explored g start t := by
  have hfirst := Search.explored_start hstart
  obtain ⟨n, t, hends, hcount⟩ := Search.exists_ends hg hfirst.length_eq
  rw [Search.pending_start hstart] at hcount
  have hseen : t.seen = g.reachableFrom start := by
    unfold reachableFrom
    rw [hends.run_eq (by omega)]
  have hlast := hfirst.ends hg hends
  have hsum : t.seen.count true + t.seen.count false = g.blocks.length := by
    rw [← hlast.length_eq]
    exact List.count_true_add_count_false t.seen
  have hrounds : n = (g.reachableFrom start).count true := by
    unfold Search.pending at hcount
    rw [hends.stack_eq_nil, List.length_nil] at hcount
    rw [← hseen]
    omega
  exact ⟨t, hrounds ▸ hends, hseen, hlast⟩

/-- A set of blocks that is closed under edges holds what can be reached from its members. -/
theorem Path.mem_of_closed {S : Nat → Prop} (hclosed : ∀ x, S x → ∀ y ∈ g.succs x, S y)
    (h : g.Path a path b) (ha : S a) : S b := by
  induction h with
  | single a => exact ha
  | cons edge _ ih => exact ih (hclosed _ ha _ edge)

/-- A block that can be reached is a block of the graph. -/
theorem WellFormed.lt_of_reaches (hg : g.WellFormed) (h : g.Reaches Graph.entry b) :
    b < g.blocks.length := by
  obtain ⟨path, hpath⟩ := h
  exact hpath.mem_of_closed (S := fun x => x < g.blocks.length)
    (fun x _ y hy => hg.succs_lt x y hy) hg.entry_lt

/-- The search marks the blocks that can be reached from its start, and no others. -/
theorem reachableFrom_iff (hg : g.EdgesInside) (hstart : start < g.blocks.length) (b : Nat) :
    (g.reachableFrom start).getD b false = true ↔ g.Reaches start b := by
  obtain ⟨t, hends, hseen, hlast⟩ := exists_ends_reachableFrom hg hstart
  rw [← hseen]
  constructor
  · exact hlast.reaches b
  · rintro ⟨path, hpath⟩
    refine hpath.mem_of_closed (S := t.Seen) (fun x hx => ?_) hlast.seen_start
    exact hlast.closed x hx (by rw [hends.stack_eq_nil]; exact List.not_mem_nil)

/-- The marked blocks of a graph are those that can be reached from its entry. -/
theorem reachable_iff (hg : g.WellFormed) (b : Nat) :
    g.reachable.getD b false = true ↔ g.Reaches Graph.entry b :=
  reachableFrom_iff hg.edgesInside hg.entry_lt b

end ModuleLint.Flow.Graph
