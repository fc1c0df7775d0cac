import Mathlib.Algebra.BigOperators.Ring.Finset
import Mathlib.Algebra.Order.BigOperators.Group.Finset
import Mathlib.Data.Set.Card
import ModuleLint.Proofs.Flow.ModuleFindings
import ModuleLint.Proofs.Flow.Solution

/-!
# The search for reaching definitions converges

Each evaluation of a block computes the set at its end from scratch, with what the block kills taken away. Still the
sets only grow (`Growing.grows`): as long as the ends of the predecessors grow, so does the incoming set, and a
transfer keeps the order. A set at an end therefore changes at most once for each definition, and when it does, only
the reachable successors of its block are queued again. So the number of waiting blocks, plus for each block the
number of definitions that its end may still gain times the number of its successors, goes down with every evaluation
(`potential_next_lt`).

A budget matters only for how far the search gets. With the number of evaluations that the search takes by itself it
ends, with any larger budget it ends in the same state, and with a smaller one it has used it up (`EndsIn`). So the
routines of a module have results that do not depend on the budget, and a budget only selects among them.
-/

set_option autoImplicit false

namespace ModuleLint.Flow

/-! ## Sets of definitions -/

namespace IdSet

variable {s t : IdSet}

/-- All members of the first set belong to the second. -/
def Within (s t : IdSet) : Prop := ∀ i, s.contains i = true → t.contains i = true

/-- The members below a bound. -/
def members (s : IdSet) (bound : Nat) : Finset Nat :=
  (Finset.range bound).filter fun i => s.contains i = true

/-- Inclusion is transitive. -/
theorem Within.trans {u : IdSet} (hst : s.Within t) (htu : t.Within u) : s.Within u :=
  fun i hi => htu i (hst i hi)

/-- There are no more members below a bound than numbers. -/
theorem card_members_le (s : IdSet) (bound : Nat) : (s.members bound).card ≤ bound := by
  calc (s.members bound).card ≤ (Finset.range bound).card := Finset.card_filter_le _ _
    _ = bound := Finset.card_range bound

/-- A set that has grown has more members. -/
theorem card_members_lt {bound : Nat} (hwithin : s.Within t) (hne : t ≠ s)
    (hbound : ∀ i, t.contains i = true → i < bound) :
    (s.members bound).card < (t.members bound).card := by
  obtain ⟨i, hit, his⟩ : ∃ i, t.contains i = true ∧ ¬ s.contains i = true := by
    by_contra hnone
    push Not at hnone
    apply hne
    apply ext_contains
    intro i
    rw [Bool.eq_iff_iff]
    exact ⟨hnone i, hwithin i⟩
  apply Finset.card_lt_card
  rw [Finset.ssubset_iff_of_subset]
  · refine ⟨i, ?_, ?_⟩
    · simp only [members, Finset.mem_filter, Finset.mem_range]
      exact ⟨hbound i hit, hit⟩
    · simp only [members, Finset.mem_filter, not_and]
      exact fun _ => his
  · intro j hj
    simp only [members, Finset.mem_filter] at hj ⊢
    exact ⟨hj.1, hwithin j hj.2⟩

end IdSet

/-- A transfer keeps inclusions. -/
theorem Transfer.apply_within {s t : IdSet} (h : s.Within t) (x : Transfer) :
    (x.apply s).Within (x.apply t) := by
  intro i hi
  simp only [apply, IdSet.contains_union, IdSet.contains_diff, Bool.or_eq_true,
    Bool.and_eq_true] at hi ⊢
  rcases hi with ⟨hs, hkill⟩ | hgen
  · exact .inl ⟨h i hs, hkill⟩
  · exact .inr hgen

/-! ## Numbers of blocks, edges and definitions -/

namespace Graph

/-- The number of blocks that can be reached from the entry. -/
noncomputable def reachedCount (g : Graph) : Nat := {b | g.Reaches entry b}.ncard

/-- The number of edges between blocks that can be reached from the entry. -/
noncomputable def edgeCount (g : Graph) : Nat :=
  {p : Nat × Nat | g.Reaches entry p.1 ∧ g.Reaches entry p.2 ∧ p.2 ∈ g.succs p.1}.ncard

/-- The blocks that the search along the edges finds. -/
def reached (g : Graph) : Finset Nat :=
  (Finset.range g.blocks.length).filter fun b => g.reachable.getD b false = true

/-- The reachable successors of a block. -/
def targets (g : Graph) (b : Nat) : Finset Nat := g.reached.filter fun c => c ∈ g.succs b

variable {g : Graph}

/-- The search finds the blocks that paths from the entry lead to. -/
theorem mem_reached (hg : g.WellFormed) (b : Nat) : b ∈ g.reached ↔ g.Reaches entry b := by
  simp only [reached, Finset.mem_filter, Finset.mem_range, reachable_iff hg]
  exact ⟨fun h => h.2, fun h => ⟨hg.lt_of_reaches h, h⟩⟩

/-- The search finds as many blocks as can be reached. -/
theorem card_reached (hg : g.WellFormed) : g.reached.card = g.reachedCount := by
  have hset : {b | g.Reaches entry b} = (g.reached : Set Nat) := by
    ext b
    simp only [Set.mem_ofPred_eq, Finset.mem_coe, mem_reached hg]
  rw [reachedCount, hset, Set.ncard_coe_finset]

/-- The edges that can be reached, counted by their sources. -/
theorem sum_card_targets (hg : g.WellFormed) : ∑ b ∈ g.reached, (g.targets b).card = g.edgeCount := by
  have hset : {p : Nat × Nat | g.Reaches entry p.1 ∧ g.Reaches entry p.2 ∧ p.2 ∈ g.succs p.1}
      = (((g.reached ×ˢ g.reached).filter fun p => p.2 ∈ g.succs p.1 : Finset (Nat × Nat)) :
        Set (Nat × Nat)) := by
    ext p
    simp only [Set.mem_ofPred_eq, Finset.coe_filter, Finset.mem_product, mem_reached hg, and_assoc]
  rw [edgeCount, hset, Set.ncard_coe_finset, Finset.card_filter, Finset.sum_product]
  simp only [targets, Finset.card_filter]

/-- The marked blocks, counted in a list. -/
theorem length_filter_reachable (g : Graph) :
    ((List.range g.blocks.length).filter fun b => g.reachable.getD b false).length
      = g.reached.card := by
  have hlist : g.reached
      = ((List.range g.blocks.length).filter fun b => g.reachable.getD b false).toFinset := by
    ext b
    simp only [reached, Finset.mem_filter, Finset.mem_range, List.mem_toFinset, List.mem_filter,
      List.mem_range]
  rw [hlist, List.toFinset_card_of_nodup (List.nodup_range.filter _)]

end Graph

/-- Inserting what is new repeats nothing. -/
theorem nodup_foldl_insertNew {xs : List Nat} (hxs : xs.Nodup) (ys : List Nat) :
    (ys.foldl insertNew xs).Nodup := by
  induction ys generalizing xs with
  | nil => exact hxs
  | cons y rest ih => exact ih (nodup_insertNew hxs y)

/-- Elements that are there already do not make a list longer. -/
theorem length_foldl_insertNew_le {xs ys : List Nat} {new : Finset Nat} (hxs : xs.Nodup)
    (hnew : ∀ y ∈ ys, y ∈ new) : (ys.foldl insertNew xs).length ≤ xs.length + new.card := by
  calc (ys.foldl insertNew xs).length
      = (ys.foldl insertNew xs).toFinset.card :=
        (List.toFinset_card_of_nodup (nodup_foldl_insertNew hxs ys)).symm
    _ ≤ (xs.toFinset ∪ new).card := by
        apply Finset.card_le_card
        intro y hy
        rw [List.mem_toFinset, mem_foldl_insertNew] at hy
        rw [Finset.mem_union, List.mem_toFinset]
        exact hy.imp id (hnew y)
    _ ≤ xs.toFinset.card + new.card := Finset.card_union_le _ _
    _ = xs.length + new.card := by rw [List.toFinset_card_of_nodup hxs]

/-- Inserting what is new removes nothing. -/
theorem length_le_foldl_insertNew (xs ys : List Nat) : xs.length ≤ (ys.foldl insertNew xs).length := by
  induction ys generalizing xs with
  | nil => exact Nat.le_refl _
  | cons y rest ih =>
    refine Nat.le_trans ?_ (ih (insertNew xs y))
    unfold insertNew
    split <;> simp

/-! ## Sets at the ends of blocks grow -/

/-- Live definitions have numbers below a bound when those before and those of the events do. -/
theorem lt_of_contains_liveAfter {g : Graph} {es : List Event} {live : IdSet} {bound : Nat}
    (hes : ∀ e ∈ es, ∀ d, e.definition = some d → d < bound)
    (hlive : ∀ i, live.contains i = true → i < bound) {i : Nat}
    (hi : (liveAfter g live es).contains i = true) : i < bound := by
  induction es generalizing live with
  | nil => exact hlive i hi
  | cons e rest ih =>
    refine ih (fun x hx => hes x (List.mem_cons_of_mem e hx)) ?_ hi
    intro j hj
    unfold liveStep at hj
    cases hdef : e.definition with
    | none =>
      rw [hdef] at hj
      exact hlive j hj
    | some d =>
      simp only [hdef, IdSet.contains_insert, IdSet.contains_diff, Bool.or_eq_true,
        Bool.and_eq_true, decide_eq_true_eq] at hj
      rcases hj with ⟨hj, -⟩ | rfl
      · exact hlive j hj
      · exact hes e List.mem_cons_self d hdef

/-- A block generates definitions of its graph only. -/
theorem lt_of_contains_gen {g : Graph} (hg : g.WellFormed) {b i : Nat}
    (hi : (Transfer.ofBlock g b).gen.contains i = true) : i < g.definitions.length := by
  have hgen : (Transfer.ofBlock g b).gen = liveAfter g IdSet.empty (g.events b) :=
    gen_foldl_extend (g.events b) Transfer.identity
  rw [hgen] at hi
  refine lt_of_contains_liveAfter ?_ (by simp) hi
  intro e he d hd
  obtain ⟨x, hx, -⟩ := hg.definition_of_event b e he d hd
  exact (List.getElem?_eq_some_iff.mp hx).1

namespace Solver

variable {g : Graph} {s : Solver} {b : Nat} {rest : List Nat}

/-- With larger ends of the predecessors the end of a block gets larger. -/
theorem newEnd_within {t : Solver} (h : ∀ p, (s.endOf p).Within (t.endOf p)) (c : Nat) :
    (s.newEnd g c).Within (t.newEnd g c) := by
  apply Transfer.apply_within
  intro i hi
  obtain ⟨p, hp, hr, hend⟩ := (contains_incoming s g g.reachable c i).mp hi
  exact (contains_incoming t g g.reachable c i).mpr ⟨p, hp, hr, h p i hend⟩

/-- The sets at the ends hold numbers of definitions only, and the next evaluation of a block takes nothing away from
the set at its end. -/
structure Growing (g : Graph) (s : Solver) : Prop where
  lt_of_contains : ∀ c i, (s.endOf c).contains i = true → i < g.definitions.length
  grows : ∀ c, (s.endOf c).Within (s.newEnd g c)

/-- No block waits twice. -/
theorem Flagged.nodup_rest (h : Flagged g s) (hqueue : s.queue = b :: rest) : rest.Nodup := by
  have hnodup := h.nodup_queue
  rw [hqueue] at hnodup
  exact (List.nodup_cons.mp hnodup).2

/-- The new end of a block has definitions of the graph only. -/
theorem Growing.lt_of_contains_newEnd (hg : g.WellFormed) (h : Growing g s) {c i : Nat}
    (hi : (s.newEnd g c).contains i = true) : i < g.definitions.length := by
  simp only [newEnd, Transfer.apply, IdSet.contains_union, IdSet.contains_diff, Bool.or_eq_true,
    Bool.and_eq_true] at hi
  rcases hi with ⟨hin, -⟩ | hgen
  · obtain ⟨p, -, -, hend⟩ := (contains_incoming s g g.reachable c i).mp hin
    exact h.lt_of_contains p i hend
  · exact lt_of_contains_gen hg hgen

/-- The block in front can be reached. -/
theorem reaches_of_queue (hinv : Invariant g s) (hqueue : s.queue = b :: rest) :
    g.Reaches Graph.entry b := by
  apply hinv.queue_reaches
  rw [hqueue]
  exact List.mem_cons_self

section Step

variable (hg : g.WellFormed) (hinv : Invariant g s) (hqueue : s.queue = b :: rest)
include hg hinv hqueue

/-- The block in front is one of the graph. -/
theorem lt_length_of_queue : b < g.blocks.length :=
  hg.lt_of_reaches (reaches_of_queue hinv hqueue)

/-- Each step is one evaluation. -/
theorem evaluations_next : (s.next g b rest).evaluations = s.evaluations + 1 :=
  (frame_next s g (lt_length_of_queue hg hinv hqueue) rest).2.2

/-- What waits goes on waiting. -/
theorem length_le_queue_next : rest.length ≤ (s.next g b rest).queue.length := by
  have hb := lt_length_of_queue hg hinv hqueue
  by_cases hsame : s.newEnd g b = s.endOf b
  · rw [hinv.flagged.queue_next_of_eq hg hqueue hb hsame]
  · rw [hinv.flagged.queue_next_of_ne hg hqueue hb hsame]
    exact length_le_foldl_insertNew ..

/-- No end loses a definition in a step. -/
theorem Growing.endOf_within_next (h : Growing g s) (c : Nat) :
    (s.endOf c).Within ((s.next g b rest).endOf c) := by
  rw [endOf_next (lt_length_of_queue hg hinv hqueue) hinv.length_ends]
  split
  · rename_i hc
    rw [hc]
    exact h.grows b
  · exact fun i hi => hi

/-- A step keeps what is needed for ends to grow. -/
theorem Growing.next (h : Growing g s) : Growing g (s.next g b rest) := by
  have hb := lt_length_of_queue hg hinv hqueue
  have hmono : ∀ c, (s.newEnd g c).Within ((s.next g b rest).newEnd g c) :=
    newEnd_within (h.endOf_within_next hg hinv hqueue)
  refine ⟨fun c i hi => ?_, fun c => ?_⟩
  · rw [endOf_next hb hinv.length_ends] at hi
    split at hi
    · exact h.lt_of_contains_newEnd hg hi
    · exact h.lt_of_contains c i hi
  · rw [endOf_next hb hinv.length_ends]
    split
    · rename_i hc
      rw [hc]
      exact hmono b
    · exact (h.grows c).trans (hmono c)

end Step

/-! ## The potential -/

/-- How many definitions the set at the end of a block may still gain. -/
def room (g : Graph) (s : Solver) (b : Nat) : Nat :=
  g.definitions.length - ((s.endOf b).members g.definitions.length).card

/-- A bound for the number of evaluations that are left. -/
def potential (g : Graph) (s : Solver) : Nat :=
  s.queue.length + ∑ b ∈ g.reached, s.room g b * (g.targets b).card

section Step

variable (hg : g.WellFormed) (hinv : Invariant g s) (hqueue : s.queue = b :: rest)
include hg hinv hqueue

/-- The room of all other blocks stays the same. -/
theorem room_next_of_ne {c : Nat} (hc : c ≠ b) : (s.next g b rest).room g c = s.room g c := by
  unfold room
  rw [endOf_next (lt_length_of_queue hg hinv hqueue) hinv.length_ends, if_neg hc]

/-- A block whose end changes has less room afterwards. -/
theorem room_next_lt (h : Growing g s) (hne : s.newEnd g b ≠ s.endOf b) :
    (s.next g b rest).room g b < s.room g b := by
  have hgrown : ((s.endOf b).members g.definitions.length).card
      < ((s.newEnd g b).members g.definitions.length).card :=
    IdSet.card_members_lt (h.grows b) hne fun _ hi => h.lt_of_contains_newEnd hg hi
  have hle := IdSet.card_members_le (s.newEnd g b) g.definitions.length
  unfold room
  rw [endOf_next (lt_length_of_queue hg hinv hqueue) hinv.length_ends, if_pos rfl]
  omega

/-- If the end does not change, no room does. -/
theorem sum_room_next_of_eq (hsame : s.newEnd g b = s.endOf b) :
    ∑ c ∈ g.reached, (s.next g b rest).room g c * (g.targets c).card
      = ∑ c ∈ g.reached, s.room g c * (g.targets c).card := by
  apply Finset.sum_congr rfl
  intro c _
  unfold room
  rw [endOf_next (lt_length_of_queue hg hinv hqueue) hinv.length_ends]
  split
  · rename_i hc
    rw [hsame, hc]
  · rfl

/-- A change at the end of a block pays for all the successors that it queues. -/
theorem sum_room_next_of_ne (h : Growing g s) (hne : s.newEnd g b ≠ s.endOf b) :
    (∑ c ∈ g.reached, (s.next g b rest).room g c * (g.targets c).card) + (g.targets b).card
      ≤ ∑ c ∈ g.reached, s.room g c * (g.targets c).card := by
  have hb : b ∈ g.reached := (Graph.mem_reached hg b).mpr (reaches_of_queue hinv hqueue)
  calc (∑ c ∈ g.reached, (s.next g b rest).room g c * (g.targets c).card) + (g.targets b).card
      = ∑ c ∈ g.reached, ((s.next g b rest).room g c * (g.targets c).card
          + if c = b then (g.targets c).card else 0) := by
        rw [Finset.sum_add_distrib, Finset.sum_ite_eq', if_pos hb]
    _ ≤ ∑ c ∈ g.reached, s.room g c * (g.targets c).card := by
        apply Finset.sum_le_sum
        intro c _
        by_cases hc : c = b
        · subst hc
          rw [if_pos rfl, ← Nat.succ_mul]
          exact Nat.mul_le_mul_right _ (room_next_lt hg hinv hqueue h hne)
        · rw [if_neg hc, room_next_of_ne hg hinv hqueue hc, Nat.add_zero]

/-- Every evaluation lowers the potential: either the queue gets shorter, or the room of the block pays for the
successors that are queued again. -/
theorem potential_next_lt (h : Growing g s) : (s.next g b rest).potential g < s.potential g := by
  have hb := lt_length_of_queue hg hinv hqueue
  have hlength : s.queue.length = rest.length + 1 := by rw [hqueue, List.length_cons]
  unfold potential
  by_cases hsame : s.newEnd g b = s.endOf b
  · rw [hinv.flagged.queue_next_of_eq hg hqueue hb hsame, sum_room_next_of_eq hg hinv hqueue hsame, hlength]
    omega
  · have hqueued : (s.next g b rest).queue.length ≤ rest.length + (g.targets b).card := by
      rw [hinv.flagged.queue_next_of_ne hg hqueue hb hsame]
      apply length_foldl_insertNew_le (hinv.flagged.nodup_rest hqueue)
      intro c hc
      obtain ⟨hsucc, hreach⟩ := List.mem_filter.mp hc
      rw [Graph.targets, Finset.mem_filter, Graph.mem_reached hg, ← Graph.reachable_iff hg]
      exact ⟨hreach, hsucc⟩
    have hpaid := sum_room_next_of_ne hg hinv hqueue h hsame
    rw [hlength]
    omega

end Step

/-! ## Whole searches -/

/-- From the first state the search ends in the second one if the budget suffices, and otherwise uses it up. -/
def EndsIn (g : Graph) (s t : Solver) : Prop :=
  ∀ budget, run g (transfers g) g.reachable budget s
    = if t.evaluations ≤ s.evaluations + budget then .ok t else .error (s.evaluations + budget)

/-- With an empty queue the search has ended. -/
theorem endsIn_self (h : s.queue = []) : EndsIn g s s := by
  intro budget
  rw [if_pos (Nat.le_add_right _ _)]
  unfold run
  cases budget <;> simp only [h]

/-- Where a search ends after a step, there it ends before it. -/
theorem EndsIn.of_next {t : Solver} (hg : g.WellFormed) (hinv : Invariant g s) (hqueue : s.queue = b :: rest)
    (h : EndsIn g (s.next g b rest) t) (hlt : s.evaluations < t.evaluations) : EndsIn g s t := by
  intro budget
  cases budget with
  | zero =>
    rw [if_neg (by omega)]
    unfold run
    simp only [hqueue, Nat.add_zero]
  | succ budget =>
    have hrun : run g (transfers g) g.reachable (budget + 1) s
        = run g (transfers g) g.reachable budget (s.next g b rest) := by
      rw [run.eq_def]
      simp only [hqueue]
      rfl
    rw [hrun, h budget, evaluations_next hg hinv hqueue, Nat.add_assoc, Nat.add_comm 1 budget]

/-- Each block that waits is evaluated, and the potential bounds the evaluations that are left. -/
theorem exists_endsIn (hg : g.WellFormed) (hinv : Invariant g s) (h : Growing g s) :
    ∃ t, EndsIn g s t ∧ s.evaluations + s.queue.length ≤ t.evaluations
      ∧ t.evaluations ≤ s.evaluations + s.potential g := by
  induction hpotential : s.potential g using Nat.strong_induction_on generalizing s with
  | _ n ih =>
    subst hpotential
    cases hqueue : s.queue with
    | nil =>
      refine ⟨s, endsIn_self hqueue, ?_, Nat.le_add_right _ _⟩
      rw [List.length_nil, Nat.add_zero]
    | cons b rest =>
      have hdown := potential_next_lt hg hinv hqueue h
      obtain ⟨t, hends, hlow, hhigh⟩ :=
        ih _ hdown (hinv.next hg hqueue) (h.next hg hinv hqueue) rfl
      have hqueued := length_le_queue_next hg hinv hqueue
      rw [evaluations_next hg hinv hqueue] at hlow hhigh
      refine ⟨t, hends.of_next hg hinv hqueue (by omega), ?_, by omega⟩
      rw [List.length_cons]
      omega

/-- At first no definition reaches the end of a block. -/
theorem endOf_start (g : Graph) (b : Nat) : (Solver.start g g.reachable).endOf b = IdSet.empty := by
  unfold endOf Solver.start
  rw [List.getD_eq_getElem?_getD, List.getElem?_map]
  cases g.blocks[b]? <;> rfl

/-- The sets at the ends start empty, so they can only grow. -/
theorem growing_start (g : Graph) : Growing g (Solver.start g g.reachable) where
  lt_of_contains b i hi := by
    rw [endOf_start] at hi
    simp at hi
  grows b i hi := by
    rw [endOf_start] at hi
    simp at hi

/-- At first all blocks that can be reached wait. -/
theorem length_queue_start (hg : g.WellFormed) :
    (Solver.start g g.reachable).queue.length = g.reachedCount := by
  rw [← Graph.card_reached hg, ← Graph.length_filter_reachable]
  rfl

/-- The potential at first is the bound for the number of evaluations. -/
theorem potential_start (hg : g.WellFormed) :
    (Solver.start g g.reachable).potential g
      = g.reachedCount + g.definitions.length * g.edgeCount := by
  have hroom : ∀ b, (Solver.start g g.reachable).room g b = g.definitions.length := by
    intro b
    have hnone : IdSet.empty.members g.definitions.length = ∅ := by
      simp [IdSet.members]
    rw [room, endOf_start, hnone, Finset.card_empty, Nat.sub_zero]
  simp only [potential, hroom]
  rw [length_queue_start hg, ← Finset.mul_sum, Graph.sum_card_targets hg]

end Solver

/-- The search on a graph takes a fixed number of evaluations and leads to fixed sets at the starts of blocks,
whatever the budget. -/
structure Graph.ConvergesAfter (g : Graph) (count : Nat) (starts : List IdSet) : Prop where
  reachedCount_le : g.reachedCount ≤ count
  le_bound : count ≤ g.reachedCount + g.definitions.length * g.edgeCount
  succeeds_iff : ∀ budget, (∃ s, solve g budget = .ok s) ↔ count ≤ budget
  of_ok : ∀ budget s, solve g budget = .ok s → s.evaluations = count ∧ s.starts = starts
  of_lt : ∀ budget, budget < count → solve g budget = .error budget

/-- The search ends in one state, for all budgets. -/
theorem exists_solve_eq {g : Graph} (hg : g.WellFormed) :
    ∃ t : Solver, g.reachedCount ≤ t.evaluations
      ∧ t.evaluations ≤ g.reachedCount + g.definitions.length * g.edgeCount
      ∧ ∀ budget, solve g budget = if t.evaluations ≤ budget then .ok t else .error budget := by
  obtain ⟨t, hends, hlow, hhigh⟩ :=
    Solver.exists_endsIn hg (Solver.invariant_start hg) (Solver.growing_start g)
  have hzero : (Solver.start g g.reachable).evaluations = 0 := rfl
  rw [hzero, Nat.zero_add] at hlow hhigh
  rw [Solver.length_queue_start hg] at hlow
  rw [Solver.potential_start hg] at hhigh
  refine ⟨t, hlow, hhigh, fun budget => ?_⟩
  have hrun := hends budget
  rw [hzero, Nat.zero_add] at hrun
  exact hrun

/-- A search that any large enough budget takes to one state, and any smaller one uses up, converges there. -/
theorem Graph.convergesAfter_of_solve_eq {g : Graph} {t : Solver} (hlow : g.reachedCount ≤ t.evaluations)
    (hhigh : t.evaluations ≤ g.reachedCount + g.definitions.length * g.edgeCount)
    (hsolve : ∀ budget, solve g budget = if t.evaluations ≤ budget then .ok t else .error budget) :
    g.ConvergesAfter t.evaluations t.starts where
  reachedCount_le := hlow
  le_bound := hhigh
  succeeds_iff budget := by
    rw [hsolve budget]
    split <;> simp_all
  of_ok budget s hs := by
    rw [hsolve budget] at hs
    split at hs
    · cases hs
      exact ⟨rfl, rfl⟩
    · cases hs
  of_lt budget hlt := by
    rw [hsolve budget, if_neg (Nat.not_le.mpr hlt)]

/-! ## The routines of a module -/

/-- The result of a routine that a budget admits, or the failure of the others. -/
def Result.within (budget : Nat) (x : Result) : Except BudgetError Result :=
  if x.evaluations ≤ budget then .ok x else .error { routine := x.routine.name, evaluations := budget }

/-- A budget that is large enough does not change a result. -/
theorem Result.within_of_le {budget : Nat} {x : Result} (h : x.evaluations ≤ budget) :
    x.within budget = .ok x := if_pos h

/-- A budget that is too small turns a result into an error that names the routine. -/
theorem Result.within_of_lt {budget : Nat} {x : Result} (h : budget < x.evaluations) :
    x.within budget = .error { routine := x.routine.name, evaluations := budget } :=
  if_neg (Nat.not_le.mpr h)

/-- A budget fails a result only by saying which routine needs more than how much. -/
theorem Result.eq_of_within_eq_error {budget : Nat} {x : Result} {e : BudgetError}
    (h : x.within budget = .error e) : { routine := x.routine.name, evaluations := budget } = e := by
  by_cases hle : x.evaluations ≤ budget
  · rw [within_of_le hle] at h
    cases h
  · rw [within_of_lt (Nat.lt_of_not_le hle)] at h
    exact Except.error.inj h

/-- The text of an error with a budget names the routine and the budget. -/
theorem BudgetError.message_eq (e : BudgetError) :
    e.message = "routine " ++ e.routine ++ ": " ++ "reaching definitions did not converge"
      ++ " after " ++ toString e.evaluations ++ " iterations" := by
  unfold message budgetMessage
  rw [← String.append_assoc, ← String.append_assoc, ← String.append_assoc]

/-- What is known of the result of a routine before any budget is fixed. -/
structure Result.Describes (m : Option Module) (kind : RoutineKind) (r : Routine) (x : Result) : Prop where
  kind_eq : x.kind = kind
  routine_eq : x.routine = r
  graph_eq : x.graph = Graph.ofRoutine m r
  converges : ∃ starts, x.graph.ConvergesAfter x.evaluations starts
  analyzeRoutine_eq : ∀ budget, analyzeRoutine budget m kind r = x.within budget

/-- Every routine has a result that does not depend on the budget. -/
theorem exists_describes (m : Option Module) (kind : RoutineKind) (r : Routine) :
    ∃ x : Result, x.Describes m kind r := by
  obtain ⟨t, hlow, hhigh, hsolve⟩ := exists_solve_eq (Graph.wellFormed_ofRoutine m r)
  refine ⟨{ kind := kind, routine := r, graph := Graph.ofRoutine m r, evaluations := t.evaluations,
            uses := usesOf (Graph.ofRoutine m r) t, reachable := (Graph.ofRoutine m r).reachable },
    rfl, rfl, rfl, ⟨t.starts, Graph.convergesAfter_of_solve_eq hlow hhigh hsolve⟩, fun budget => ?_⟩
  unfold analyzeRoutine Result.within
  simp only [hsolve budget]
  by_cases hle : t.evaluations ≤ budget
  · simp only [if_pos hle]
  · simp only [if_neg hle]

/-- A budget selects the results that need no more than it. -/
theorem filterMap_toOption_within (budget : Nat) (xs : List Result) :
    (xs.map (Result.within budget)).filterMap Except.toOption
      = xs.filter fun x => x.evaluations ≤ budget := by
  induction xs with
  | nil => rfl
  | cons x rest ih =>
    rw [List.map_cons]
    by_cases hle : x.evaluations ≤ budget
    · have hsome : (Except.ok x : Except BudgetError Result).toOption = some x := rfl
      rw [Result.within_of_le hle, List.filterMap_cons_some hsome, ih,
        List.filter_cons_of_pos (by simpa using hle)]
    · rw [Result.within_of_lt (Nat.lt_of_not_le hle), List.filterMap_cons_none rfl, ih,
        List.filter_cons_of_neg (by simpa using hle)]

/-- A budget turns the results that need more than it into errors, in their order. -/
theorem filterMap_failure_within (budget : Nat) (xs : List Result) :
    (xs.map (Result.within budget)).filterMap failure?
      = (xs.filter fun x => budget < x.evaluations).map fun x =>
          { routine := x.routine.name, evaluations := budget } := by
  induction xs with
  | nil => rfl
  | cons x rest ih =>
    rw [List.map_cons]
    by_cases hle : x.evaluations ≤ budget
    · rw [Result.within_of_le hle, List.filterMap_cons_none rfl, ih,
        List.filter_cons_of_neg (by simpa using hle)]
    · have hsome : ∀ e : BudgetError, failure? (.error e) = some e := fun _ => rfl
      rw [Result.within_of_lt (Nat.lt_of_not_le hle), List.filterMap_cons_some (hsome _), ih,
        List.filter_cons_of_pos (by simpa using hle), List.map_cons]

/-- For each routine there is a number of evaluations, at least the number of reachable blocks and at most that number
plus the number of definitions times the number of edges between reachable blocks, that decides for every budget: with
this number or more the search succeeds, after exactly so many evaluations and with the same sets, and with less it
has used up its budget. A failure names the routine and the budget. The results of the routines of a module are
thereby fixed before any budget: a budget selects those that it admits, unchanged and in order, and names the others
as failures. -/
theorem converges_independently_of_budget :
    (∀ (m : Option Module) (r : Routine), ∃ count starts,
        (Graph.ofRoutine m r).ConvergesAfter count starts)
      ∧ (∀ (m : Option Module) (kind : RoutineKind) (r : Routine) (budget : Nat) (e : BudgetError),
          analyzeRoutine budget m kind r = .error e →
            e.routine = r.name ∧ e.evaluations = budget
              ∧ e.message = "routine " ++ r.name ++ ": " ++ "reaching definitions did not converge"
                ++ " after " ++ toString budget ++ " iterations")
      ∧ ∀ m : Module, ∃ functions procedures : List Result,
          List.Forall₂ (Result.Describes (some m) .function) (m.functions.filterMap id) functions
            ∧ List.Forall₂ (Result.Describes (some m) .procedure) (m.procedures.filterMap id) procedures
            ∧ ∀ budget,
                (analyze budget m).results
                    = (functions ++ procedures).filter (fun x => x.evaluations ≤ budget)
                  ∧ (analyze budget m).errors
                    = ((functions ++ procedures).filter fun x => budget < x.evaluations).map fun x =>
                        { routine := x.routine.name, evaluations := budget } := by
  refine ⟨fun m r => ?_, fun m kind r budget e he => ?_, fun m => ?_⟩
  · obtain ⟨x, hx⟩ := exists_describes m .function r
    obtain ⟨starts, hconverges⟩ := hx.converges
    rw [hx.graph_eq] at hconverges
    exact ⟨x.evaluations, starts, hconverges⟩
  · obtain ⟨x, hx⟩ := exists_describes m kind r
    rw [hx.analyzeRoutine_eq] at he
    obtain rfl := Result.eq_of_within_eq_error he
    rw [BudgetError.message_eq, hx.routine_eq]
    exact ⟨rfl, rfl, rfl⟩
  · choose result hresult using exists_describes (some m)
    refine ⟨(m.functions.filterMap id).map (result .function),
      (m.procedures.filterMap id).map (result .procedure), ?_, ?_, fun budget => ?_⟩
    · rw [List.forall₂_map_right_iff, List.forall₂_same]
      exact fun r _ => hresult .function r
    · rw [List.forall₂_map_right_iff, List.forall₂_same]
      exact fun r _ => hresult .procedure r
    · have houtcomes : outcomes budget m
          = ((m.functions.filterMap id).map (result .function)
              ++ (m.procedures.filterMap id).map (result .procedure)).map (Result.within budget) := by
        rw [outcomes, List.map_append, List.map_map, List.map_map]
        congr 1
        · exact List.map_congr_left fun r _ => (hresult .function r).analyzeRoutine_eq budget
        · exact List.map_congr_left fun r _ => (hresult .procedure r).analyzeRoutine_eq budget
      rw [results_analyze_outcomes, errors_analyze_outcomes, houtcomes]
      exact ⟨filterMap_toOption_within budget _, filterMap_failure_within budget _⟩

end ModuleLint.Flow
