import Mathlib.Algebra.BigOperators.Ring.Finset
import ModuleLint.Proofs.Facts.CallPairs
import ModuleLint.Proofs.StableSort

/-!
# The most called routines

The ranking of a call graph is told by the calls alone (`mostCalled_ranks_callees`). Every callee stands in it once,
with the number of its callers (`Refines.inDegree_eq_length`). The ranking goes down by that number, and callees with
as many callers stand in the order in which they are first called, since the graph lists its callees in that order
(`pairwise_idxOf_eraseDups`) and sorting keeps it. The numbers add up to that of the calls: each call is counted once
at its callee and once at its caller.
-/

set_option autoImplicit false

namespace ModuleLint

/-- First occurrences come in the order in which they occur. -/
theorem pairwise_idxOf_eraseDups {α : Type} [BEq α] [LawfulBEq α] (xs : List α) :
    xs.eraseDups.Pairwise fun x y => xs.idxOf x < xs.idxOf y := by
  induction xs using List.reverseRecOn with
  | nil => exact List.Pairwise.nil
  | append_singleton xs x ih =>
    have hold : xs.eraseDups.Pairwise fun y z => (xs ++ [x]).idxOf y < (xs ++ [x]).idxOf z := by
      refine List.Pairwise.imp_of_mem ?_ ih
      intro y z hy hz hlt
      rwa [List.idxOf_append_of_mem (List.mem_eraseDups.mp hy), List.idxOf_append_of_mem (List.mem_eraseDups.mp hz)]
    rw [eraseDups_concat]
    by_cases hx : x ∈ xs
    · rwa [insertNew_of_mem (List.mem_eraseDups.mpr hx)]
    · rw [insertNew_of_not_mem (mt List.mem_eraseDups.mp hx), List.pairwise_append]
      refine ⟨hold, List.pairwise_singleton _ x, ?_⟩
      intro y hy z hz
      rw [List.mem_singleton.mp hz, List.idxOf_append_of_mem (List.mem_eraseDups.mp hy), List.idxOf_append_of_notMem hx]
      have hlt := List.idxOf_lt_length_of_mem (List.mem_eraseDups.mp hy)
      omega

namespace CallGraph

/-- The distinct callers of a routine among some calls. -/
def callersAmong (calls : List (String × String)) (callee : String) : List String :=
  ((calls.filter fun call => call.2 == callee).map Prod.fst).eraseDups

/-- The callers of a name are the first halves of its pairs. -/
theorem mem_callersAmong {calls : List (String × String)} {caller callee : String} :
    caller ∈ callersAmong calls callee ↔ (caller, callee) ∈ calls := by
  unfold callersAmong
  rw [List.mem_eraseDups, List.mem_map]
  constructor
  · rintro ⟨⟨c, x⟩, hmem, rfl⟩
    obtain ⟨hmem, hcallee⟩ := List.mem_filter.mp hmem
    rwa [← beq_iff_eq.mp hcallee]
  · intro h
    exact ⟨(caller, callee), List.mem_filter.mpr ⟨h, beq_self_eq_true callee⟩, rfl⟩

/-- Whether an entry of a ranking of callees stands before another: it has more callers, or as many and was called
first. -/
def RanksBefore (calls : List (String × String)) (a b : CallCount) : Prop :=
  b.count < a.count
    ∨ a.count = b.count ∧ (calls.map Prod.snd).idxOf a.name < (calls.map Prod.snd).idxOf b.name

/-- The ranking has one entry for each callee, with the number of its callers. -/
theorem ranking_perm (g : CallGraph) :
    g.ranking.Perm (g.calleeList.map fun callee => { name := callee, count := g.inDegree callee }) :=
  List.mergeSort_perm ..

/-- The names of the ranking are the callees. -/
theorem name_ranking_perm (g : CallGraph) : (g.ranking.map CallCount.name).Perm g.calleeList := by
  have hperm := g.ranking_perm.map CallCount.name
  rw [List.map_map] at hperm
  exact hperm.trans (List.Perm.of_eq (List.map_id _))

/-- The counts of the ranking are the numbers of callers. -/
theorem count_ranking_perm (g : CallGraph) : (g.ranking.map CallCount.count).Perm (g.calleeList.map g.inDegree) := by
  have hperm := g.ranking_perm.map CallCount.count
  rwa [List.map_map] at hperm

/-- Each entry of the ranking has the count of its own name. -/
theorem count_of_mem_ranking {g : CallGraph} {entry : CallCount} (hentry : entry ∈ g.ranking) :
    entry.count = g.inDegree entry.name := by
  obtain ⟨callee, -, rfl⟩ := List.mem_map.mp (g.ranking_perm.subset hentry)
  rfl

section Refines

variable {g : CallGraph} {calls : List (String × String)} (h : Refines g calls)
include h

/-- The callers that see a callee are those that call it. -/
theorem Refines.inDegree_eq_length (callee : String) : g.inDegree callee = (callersAmong calls callee).length := by
  have hseeing : (g.callerList.filter fun c => g.sees c callee).Perm (callersAmong calls callee) := by
    have hnodup : (callersAmong calls callee).Nodup := nodup_eraseDups _
    refine (List.perm_ext_iff_of_nodup (h.nodup_callerList.filter _) hnodup).mpr ?_
    intro c
    rw [mem_callersAmong, List.mem_filter, h.sees_iff, h.callerList, List.mem_eraseDups]
    exact ⟨fun hc => hc.2, fun hcall => ⟨List.mem_map.mpr ⟨_, hcall, rfl⟩, hcall⟩⟩
  unfold inDegree
  rw [List.countP_eq_length_filter]
  exact hseeing.length_eq

/-- Sharing out the calls among the callees gives all of them. -/
theorem Refines.sum_inDegree : (g.calleeList.map g.inDegree).sum = g.edges := by
  have hcalled : g.calleeList.Perm (calls.eraseDups.map Prod.snd).dedup := by
    rw [h.calleeList]
    refine (List.perm_ext_iff_of_nodup (nodup_eraseDups _) (List.nodup_dedup _)).mpr ?_
    intro callee
    simp only [List.mem_eraseDups, List.mem_dedup, List.mem_map]
  have hcount : ∀ callee, g.inDegree callee = (calls.eraseDups.map Prod.snd).count callee := by
    intro callee
    rw [h.inDegree_eq, List.count, List.countP_map]
    rfl
  calc (g.calleeList.map g.inDegree).sum
      = ((calls.eraseDups.map Prod.snd).dedup.map g.inDegree).sum := (hcalled.map _).sum_eq
    _ = ((calls.eraseDups.map Prod.snd).dedup.map fun x => (calls.eraseDups.map Prod.snd).count x).sum := by
        rw [List.map_congr_left fun callee _ => hcount callee]
    _ = (calls.eraseDups.map Prod.snd).length := List.sum_map_count_dedup_eq_length _
    _ = g.edges := by rw [List.length_map, h.edges_eq]

/-- The ranking is in order, by counts and then by the first calls. -/
theorem Refines.pairwise_ranking : g.ranking.Pairwise (RanksBefore calls) := by
  have hfirst : (g.calleeList.map fun callee => ({ name := callee, count := g.inDegree callee } : CallCount)).Pairwise
      fun a b => (calls.map Prod.snd).idxOf a.name < (calls.map Prod.snd).idxOf b.name := by
    rw [h.calleeList, List.pairwise_map]
    exact pairwise_idxOf_eraseDups _
  have hsorted : g.ranking.Pairwise fun a b => decide (a.count ≥ b.count) = true
      ∧ (decide (b.count ≥ a.count) = true
        → (calls.map Prod.snd).idxOf a.name < (calls.map Prod.snd).idxOf b.name) := by
    apply pairwise_mergeSort_ties _ _ hfirst
    · intro a b c hab hbc
      simp only [decide_eq_true_eq] at hab hbc ⊢
      omega
    · intro a b
      simp only [Bool.or_eq_true, decide_eq_true_eq]
      omega
  refine hsorted.imp ?_
  intro a b hab
  simp only [decide_eq_true_eq] at hab
  unfold RanksBefore
  rcases Nat.lt_or_ge b.count a.count with hlt | hge
  · exact .inl hlt
  · exact .inr ⟨Nat.le_antisymm hge hab.1, hab.2 hge⟩

end Refines

/-- A positive limit cuts the ranking off. -/
theorem mostCalled_of_pos (g : CallGraph) {limit : Int} (hlimit : 0 < limit) :
    g.mostCalled limit = g.ranking.take limit.toNat := if_pos hlimit

/-- A limit that is not positive cuts off nothing. -/
theorem mostCalled_of_nonpos (g : CallGraph) {limit : Int} (hlimit : limit ≤ 0) : g.mostCalled limit = g.ranking :=
  if_neg (by omega)

/-- After any calls, the ranking without a limit names every callee once, with the number of its callers. It goes down
by that number, with ties in the order of their first calls, and its numbers add up to that of the calls. A limit cuts
it off after so many callees, or leaves it as it is if it is not positive. -/
theorem mostCalled_ranks_callees (calls : List (String × String)) (limit : Int) :
    ((((ofCalls calls).mostCalled 0).map CallCount.name).Nodup
      ∧ ∀ callee, callee ∈ ((ofCalls calls).mostCalled 0).map CallCount.name ↔ ∃ caller, (caller, callee) ∈ calls)
    ∧ (∀ entry ∈ (ofCalls calls).mostCalled 0, entry.count = (callersAmong calls entry.name).length)
    ∧ ((ofCalls calls).mostCalled 0).Pairwise (RanksBefore calls)
    ∧ (((ofCalls calls).mostCalled 0).map CallCount.count).sum = (ofCalls calls).edges
    ∧ (0 < limit → (ofCalls calls).mostCalled limit <+: (ofCalls calls).mostCalled 0
        ∧ ((ofCalls calls).mostCalled limit).length = min limit.toNat (calls.map Prod.snd).eraseDups.length)
    ∧ (limit ≤ 0 → (ofCalls calls).mostCalled limit = (ofCalls calls).mostCalled 0) := by
  have h := refines_ofCalls calls
  have hnames := (ofCalls calls).name_ranking_perm
  rw [mostCalled_of_nonpos _ (Int.le_refl 0)]
  refine ⟨⟨?_, ?_⟩, ?_, h.pairwise_ranking, ?_, ?_, mostCalled_of_nonpos _⟩
  · rw [hnames.nodup_iff, h.calleeList]
    exact nodup_eraseDups _
  · intro callee
    rw [hnames.mem_iff, h.calleeList, List.mem_eraseDups, List.mem_map]
    simp
  · intro entry hentry
    rw [count_of_mem_ranking hentry, h.inDegree_eq_length]
  · rw [(count_ranking_perm _).sum_eq, h.sum_inDegree]
  · intro hlimit
    have hlength : (ofCalls calls).ranking.length = (calls.map Prod.snd).eraseDups.length := by
      rw [← h.calleeList, ← hnames.length_eq, List.length_map]
    rw [mostCalled_of_pos _ hlimit, List.length_take, hlength]
    exact ⟨List.take_prefix _ _, rfl⟩

/-- Calls of three routines, the first of which has one caller and the others two, with one call repeated. -/
def repeatedCalls : List (String × String) :=
  [("Main", "Open"), ("Main", "Print"), ("Main", "Load"), ("Load", "Print"), ("Main", "Print"), ("Print", "Load")]

/-- Of the three callees two are kept, and a limit below zero keeps all. -/
theorem mostCalled_ranks_callees_repeated :
    (0 : Int) < 2 ∧ (-1 : Int) ≤ 0
    ∧ { name := "Print", count := 2 } ∈ (ofCalls repeatedCalls).mostCalled 0
    ∧ (callersAmong repeatedCalls "Print").length = 2
    ∧ (ofCalls repeatedCalls).mostCalled 2 <+: (ofCalls repeatedCalls).mostCalled 0
    ∧ ((ofCalls repeatedCalls).mostCalled 2).length = 2
    ∧ (ofCalls repeatedCalls).mostCalled (-1) = (ofCalls repeatedCalls).mostCalled 0 := by
  have hmem : { name := "Print", count := 2 } ∈ (ofCalls repeatedCalls).mostCalled 0 := by
    apply (ofCalls repeatedCalls).ranking_perm.symm.subset
    decide +kernel
  obtain ⟨-, hcount, -, -, hcut, -⟩ := mostCalled_ranks_callees repeatedCalls 2
  obtain ⟨-, -, -, -, -, hall⟩ := mostCalled_ranks_callees repeatedCalls (-1)
  have hthree : (repeatedCalls.map Prod.snd).eraseDups.length = 3 := by decide +kernel
  have hlength := (hcut (by decide)).2
  rw [hthree] at hlength
  exact ⟨by decide, by decide, hmem, (hcount _ hmem).symm, (hcut (by decide)).1, hlength, hall (by decide)⟩

end CallGraph

end ModuleLint
