import Mathlib.Algebra.BigOperators.Ring.Finset
import Mathlib.Data.String.Basic
import ModuleLint.Telemetry.Metrics

/-!
# Counters add

The counts of a counter stand in the order of the label values, each value once (`Increasing`). Adding to a label
value therefore changes the count of this value and no other one (`value_addCount`).

To record a module is to make a list of single additions (`record_eq_foldl_add`). After any number of additions a
count is the sum of the amounts that were added to it (`valueOf_foldl_add`), so it does not matter in which order
they were made, nor what was measured between them.
-/

set_option autoImplicit false

namespace ModuleLint.Telemetry

/-! ## Counts -/

namespace Counts

/-- The count of a label value, which is zero as long as nothing was added to it. -/
def value (counts : Counts) (key : String) : Int := (counts.lookup key).getD 0

def Increasing (counts : Counts) : Prop := counts.Pairwise fun a b => a.1 < b.1

/-- What has never been counted is zero. -/
theorem value_nil (key : String) : value [] key = 0 := rfl

/-- The first entry of a key counts. -/
theorem value_cons (k key : String) (n : Int) (rest : Counts) :
    value ((k, n) :: rest) key = if key = k then n else value rest key := by
  unfold value
  rw [List.lookup_cons]
  by_cases hkey : key = k
  · simp [hkey]
  · simp [hkey, beq_eq_false_iff_ne.mpr hkey]

/-- A key below all others has not been counted. -/
theorem value_eq_zero_of_lt {counts : Counts} {key : String} (h : ∀ p ∈ counts, key < p.1) :
    value counts key = 0 := by
  induction counts with
  | nil => rfl
  | cons p rest ih =>
    rw [List.forall_mem_cons] at h
    rw [value_cons, if_neg (ne_of_lt h.1), ih h.2]

/-- Adding to a key above a bound keeps all keys above it. -/
theorem lt_of_mem_addCount {key bound : String} {n : Int} {counts : Counts} (hkey : bound < key)
    (h : ∀ p ∈ counts, bound < p.1) : ∀ p ∈ addCount key n counts, bound < p.1 := by
  induction counts with
  | nil => exact List.forall_mem_singleton.mpr hkey
  | cons q rest ih =>
    rw [List.forall_mem_cons] at h
    unfold addCount
    split
    · exact List.forall_mem_cons.mpr ⟨hkey, List.forall_mem_cons.mpr h⟩
    · split
      · exact List.forall_mem_cons.mpr h
      · exact List.forall_mem_cons.mpr ⟨h.1, ih h.2⟩

/-- Adding keeps the keys in order. -/
theorem Increasing.addCount {counts : Counts} (h : counts.Increasing) (key : String) (n : Int) :
    Increasing (addCount key n counts) := by
  induction counts with
  | nil => exact List.pairwise_singleton _ _
  | cons p rest ih =>
    obtain ⟨hfirst, hrest⟩ := List.pairwise_cons.mp h
    unfold Telemetry.addCount
    split
    next hlt =>
      refine List.pairwise_cons.mpr ⟨?_, h⟩
      rw [List.forall_mem_cons]
      exact ⟨hlt, fun q hq => hlt.trans (hfirst q hq)⟩
    next hnot =>
      split
      next => exact List.pairwise_cons.mpr ⟨hfirst, hrest⟩
      next hne =>
        have hlt : p.1 < key := lt_of_le_of_ne (not_lt.mp hnot) fun heq => hne (by simp [heq])
        exact List.pairwise_cons.mpr ⟨lt_of_mem_addCount hlt hfirst, ih hrest⟩

/-- Adding to a key changes its value by the amount, and no other value. -/
theorem value_addCount {counts : Counts} (h : counts.Increasing) (key other : String) (n : Int) :
    value (addCount key n counts) other = value counts other + if key = other then n else 0 := by
  induction counts with
  | nil =>
    rw [addCount, value_cons, value_nil, zero_add]
    simp only [eq_comm]
  | cons p rest ih =>
    obtain ⟨hfirst, hrest⟩ := List.pairwise_cons.mp h
    obtain ⟨k, m⟩ := p
    unfold addCount
    split
    next hlt =>
      rw [value_cons]
      by_cases hother : key = other
      · have hzero : value ((k, m) :: rest) other = 0 := by
          apply value_eq_zero_of_lt
          rw [← hother, List.forall_mem_cons]
          exact ⟨hlt, fun q hq => hlt.trans (hfirst q hq)⟩
        rw [if_pos hother.symm, if_pos hother, hzero, zero_add]
      · rw [if_neg (Ne.symm hother), if_neg hother, add_zero]
    next =>
      split
      next heq =>
        obtain rfl : key = k := by simpa using heq
        rw [value_cons, value_cons]
        by_cases hother : key = other
        · rw [if_pos hother.symm, if_pos hother.symm, if_pos hother]
        · rw [if_neg (Ne.symm hother), if_neg (Ne.symm hother), if_neg hother, add_zero]
      next hne =>
        rw [value_cons, value_cons, ih hrest]
        by_cases hother : other = k
        · have hkey : key ≠ other := fun heq => hne (by simp [heq, hother])
          rw [if_pos hother, if_pos hother, if_neg hkey, add_zero]
        · rw [if_neg hother, if_neg hother]

end Counts

/-! ## Single additions -/

/-- What is added to one instrument at once. -/
inductive Addition where
  | module (status : String)
  | duration (status : String) (time : Duration)
  | violations (severity : String) (n : Int)
  | ruleError (code : String)

/-- A counter with the value of its label. -/
inductive Label where
  | status (name : String)
  | severity (name : String)
  | rule (code : String)
deriving DecidableEq

/-- How much is added to a counter. -/
def Addition.amount (label : Label) : Addition → Int
  | .module status => if Label.status status = label then 1 else 0
  | .duration _ _ => 0
  | .violations severity n => if Label.severity severity = label then n else 0
  | .ruleError code => if Label.rule code = label then 1 else 0

/-- How much several additions add to a counter. -/
def total (label : Label) (additions : List Addition) : Int :=
  (additions.map (Addition.amount label)).sum

/-- Amounts are added up one by one. -/
theorem total_cons (label : Label) (a : Addition) (rest : List Addition) :
    total label (a :: rest) = a.amount label + total label rest := by
  unfold total
  rw [List.map_cons, List.sum_cons]

/-- Amounts are added up part by part. -/
theorem total_append (label : Label) (front back : List Addition) :
    total label (front ++ back) = total label front + total label back := by
  unfold total
  rw [List.map_append, List.sum_append]

/-- The additions that record a module. -/
def ModuleStats.additions (s : ModuleStats) : List Addition :=
  [.module s.status, .duration s.status s.duration]
    ++ s.violations.map (fun v => .violations v.1 v.2) ++ s.ruleErrors.map .ruleError

namespace Metrics

def add (m : Metrics) : Addition → Metrics
  | .module status => { m with modules := addCount status 1 m.modules }
  | .duration status time => { m with durations := Histogram.observeAt status time.seconds m.durations }
  | .violations severity n => { m with violations := addCount severity n m.violations }
  | .ruleError code => { m with ruleErrors := addCount code 1 m.ruleErrors }

def valueOf (m : Metrics) : Label → Int
  | .status name => m.modules.value name
  | .severity name => m.violations.value name
  | .rule code => m.ruleErrors.value code

/-- Each counter has its label values in order. -/
structure Increasing (m : Metrics) : Prop where
  modules : m.modules.Increasing
  violations : m.violations.Increasing
  ruleErrors : m.ruleErrors.Increasing

/-- Recording a module is adding its numbers one after another. -/
theorem record_eq_foldl_add (m : Metrics) (s : ModuleStats) : m.record s = s.additions.foldl add m := by
  have hviolations : ∀ (vs : List (String × Int)) (m : Metrics),
      (vs.map fun v => Addition.violations v.1 v.2).foldl add m
        = { m with violations := vs.foldl (fun counts v => addCount v.1 v.2 counts) m.violations } := by
    intro vs
    induction vs with
    | nil => exact fun m => rfl
    | cons v rest ih => exact fun m => ih _
  have hruleErrors : ∀ (codes : List String) (m : Metrics),
      (codes.map Addition.ruleError).foldl add m
        = { m with ruleErrors := codes.foldl (fun counts code => addCount code 1 counts) m.ruleErrors } := by
    intro codes
    induction codes with
    | nil => exact fun m => rfl
    | cons code rest ih => exact fun m => ih _
  rw [ModuleStats.additions, List.foldl_append, List.foldl_append, hviolations, hruleErrors]
  rfl

/-- No keys are in order. -/
theorem increasing_empty : empty.Increasing :=
  { modules := .nil, violations := .nil, ruleErrors := .nil }

/-- An addition keeps all counters in order. -/
theorem Increasing.add {m : Metrics} (h : m.Increasing) (a : Addition) : (m.add a).Increasing := by
  cases a with
  | module status => exact { h with modules := h.modules.addCount status 1 }
  | duration status time => exact { h with }
  | violations severity n => exact { h with violations := h.violations.addCount severity n }
  | ruleError code => exact { h with ruleErrors := h.ruleErrors.addCount code 1 }

/-- An addition changes the counter it is made to. -/
theorem valueOf_add {m : Metrics} (h : m.Increasing) (a : Addition) (label : Label) :
    (m.add a).valueOf label = m.valueOf label + a.amount label := by
  cases a <;> cases label
    <;> simp [add, valueOf, Addition.amount, Counts.value_addCount, h.modules, h.violations, h.ruleErrors]

/-- A counter has grown by all that was added to it. -/
theorem valueOf_foldl_add {m : Metrics} (h : m.Increasing) (additions : List Addition) (label : Label) :
    (additions.foldl add m).valueOf label = m.valueOf label + total label additions := by
  induction additions generalizing m with
  | nil => exact (Int.add_zero _).symm
  | cons a rest ih =>
    rw [List.foldl_cons, ih (h.add a), valueOf_add h, total_cons]
    omega

/-- Additions do not change what is in flight. -/
@[simp] theorem inflight_add (m : Metrics) (a : Addition) : (m.add a).inflight = m.inflight := by
  cases a <;> rfl

end Metrics

end ModuleLint.Telemetry
