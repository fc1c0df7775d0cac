import ModuleLint.Proofs.Flow.ModuleFindings
import ModuleLint.Proofs.Rule.Looks

/-!
# No failure is lost or invented

Failures are joined twice and more before an analysis ends. What a join loses is that of parts that did not fail
(`join_eq_none_iff`), and the failures of single rules come out of it in the order of its parts
(`ruleErrorsIn_join`). So the failures of the rules are those of the calls that failed, in the order in which
the calls were made, whatever the rules answer.
-/

set_option autoImplicit false

namespace ModuleLint

namespace Failure

/-- Joining fails when one of the parts does. -/
theorem join_eq_none_iff {parts : List (Option Failure)} : join parts = none ↔ ∀ p ∈ parts, p = none := by
  have hempty : join parts = none ↔ parts.filterMap id = [] := by
    unfold join
    cases parts.filterMap id with
    | nil => simp
    | cons f rest => simp
  rw [hempty, List.filterMap_eq_nil_iff]
  simp only [id_eq]

/-- Parts that are missing have no failures of rules. -/
theorem ruleErrorsOfAll_filterMap (parts : List (Option Failure)) :
    ruleErrorsOfAll (parts.filterMap id) = parts.flatMap ruleErrorsIn := by
  induction parts with
  | nil => rfl
  | cons p rest ih =>
    rw [List.flatMap_cons, ← ih]
    cases p with
    | none => rfl
    | some f => rfl

/-- The failures of rules in a join are those of its parts, in their order. -/
theorem ruleErrorsIn_join (parts : List (Option Failure)) :
    ruleErrorsIn (join parts) = parts.flatMap ruleErrorsIn := by
  rw [← ruleErrorsOfAll_filterMap]
  unfold join
  cases parts.filterMap id with
  | nil => rfl
  | cons f rest => rfl

/-- In a join of two, those of the first come first. -/
theorem ruleErrorsIn_join_pair (p q : Option Failure) :
    ruleErrorsIn (join [p, q]) = ruleErrorsIn p ++ ruleErrorsIn q := by
  rw [ruleErrorsIn_join, List.flatMap_cons, List.flatMap_singleton]

/-- A join of two fails when one of them does. -/
theorem join_pair_eq_none_iff {p q : Option Failure} : join [p, q] = none ↔ p = none ∧ q = none := by
  simp only [join_eq_none_iff, List.forall_mem_cons, List.not_mem_nil, false_implies, implies_true,
    and_true]

/-- A join of failures fails when there are any. -/
theorem join_map_eq_none_iff {α : Type} {es : List α} {wrap : α → Failure} :
    join (es.map (some ∘ wrap)) = none ↔ es = [] := by
  rw [join_eq_none_iff]
  cases es with
  | nil => simp
  | cons e rest => simp

/-- A join of failures that are not of rules has no failures of rules. -/
theorem ruleErrorsIn_join_map {α : Type} (es : List α) {wrap : α → Failure}
    (h : ∀ e, (wrap e).ruleErrors = []) : ruleErrorsIn (join (es.map (some ∘ wrap))) = [] := by
  rw [ruleErrorsIn_join, List.flatMap_eq_nil_iff]
  intro p hp
  obtain ⟨e, -, rfl⟩ := List.mem_map.mp hp
  exact h e

/-- A join of failures of rules gives them back. -/
theorem ruleErrorsIn_join_rule (es : List RuleError) :
    ruleErrorsIn (join (es.map (some ∘ Failure.rule))) = es := by
  have hrule : ∀ e : RuleError, ruleErrorsIn ((some ∘ Failure.rule) e) = [e] := fun _ => rfl
  rw [ruleErrorsIn_join, List.flatMap_map]
  simp only [hrule]
  exact List.flatMap_singleton' es

end Failure

namespace Analysis

/-- When walk and observers have not failed, the failures of rules are those of the checker. -/
theorem ruleErrors_eq (a : Analysis) (hwalk : a.walkError = none) (hobservers : a.observerErrors = []) :
    a.ruleErrors = a.checkerErrors := by
  have hbudget : Failure.ruleErrorsIn
      (Failure.join (a.facts.flow.errors.map (some ∘ Failure.budget))) = [] :=
    Failure.ruleErrorsIn_join_map a.facts.flow.errors fun _ => rfl
  unfold ruleErrors failed observersFailure
  rw [hwalk, hobservers, List.map_nil, List.nil_append, Failure.ruleErrorsIn_join_pair,
    Failure.ruleErrorsIn_join_pair, hbudget, Failure.ruleErrorsIn_join_rule]
  rfl

/-- An analysis has not failed when neither a rule nor the flow analysis has. -/
theorem failed_eq_none_iff (a : Analysis) (hwalk : a.walkError = none) (hobservers : a.observerErrors = []) :
    a.failed = none ↔ a.checkerErrors = [] ∧ a.facts.flow.errors = [] := by
  unfold failed observersFailure
  rw [hwalk, hobservers, List.map_nil, List.nil_append, Failure.join_pair_eq_none_iff,
    Failure.join_pair_eq_none_iff, Failure.join_map_eq_none_iff, Failure.join_map_eq_none_iff,
    Option.map_none, eq_self, true_and, and_comm]

end Analysis

/-- No call has failed when no verdict is one of failure. -/
theorem failedCalls_eq_nil_iff {said : List (Rule × Verdict)} :
    failedCalls said = [] ↔ ∀ x ∈ said, x.2.failure? = none := by
  unfold failedCalls
  simp only [List.filterMap_eq_nil_iff, Option.map_eq_none_iff]

/-- The looks at a module begin with the module and end with the facts; between them come those at the nodes that
the walk visits, in its order. -/
theorem exists_looks_eq (options : EngineOptions) (m : Module) :
    ∃ (c : Context) (below : List (Node × Context)),
      sightings Context.surroundings m.outline (Context.ofModule m.name) = (.module m, c) :: below
        ∧ .module m :: below.map Prod.fst = m.outline.nodes
        ∧ looks options m
          = .module m :: (below.filterMap (lookAt? (some m)) ++ [.facts (factsOf options m)]) := by
  obtain ⟨c, below, hsightings, -⟩ := exists_sightings_eq m (Context.ofModule m.name)
  have hnodes := map_fst_sightings Context.surroundings m.outline (Context.ofModule m.name)
  refine ⟨c, below, hsightings, ?_, ?_⟩
  · rw [← hnodes, hsightings, List.map_cons]
  · rw [looks, hsightings, List.filterMap_cons]
    rfl

/-- Whatever the rules answer, the walk of an analysis does not fail, the rules that take part are called for each
look in turn, the last one being that at the facts, the failures of rules are those of the calls that failed,
and the violations those of all calls. Nothing has failed exactly if no call has and no routine used up its
budget. -/
theorem analysis_failures_exact (answers : Answers) (rules : List Rule) (options : EngineOptions)
    (m : Option Module) :
    let n := m.getD (Module.empty "")
    let a := analyzeWith (Observers.standard options) answers rules options m
    let budget := Flow.budgetOf options.maxIterations
    ∃ (c : Context) (below : List (Node × Context)),
      sightings Context.surroundings n.outline (Context.ofModule n.name) = (.module n, c) :: below
      ∧ .module n :: below.map Prod.fst = n.outline.nodes
      ∧ let said := transcript answers 0
          (calls rules (.module n :: (below.filterMap (lookAt? (some n)) ++ [.facts a.facts])))
        a.walkError = none
        ∧ a.ruleErrors = failedCalls said
        ∧ a.violations = Violation.sort (said.flatMap fun x => x.2.violations)
        ∧ (a.failed = none ↔ (∀ x ∈ said, x.2.failure? = none)
          ∧ (∀ r, some r ∈ n.functions →
            (Flow.analyzeRoutine budget (some n) .function r).isOk = true)
          ∧ ∀ r, some r ∈ n.procedures →
            (Flow.analyzeRoutine budget (some n) .procedure r).isOk = true) := by
  intro n a budget
  obtain ⟨c, below, hsightings, hnodes, hlooks⟩ := exists_looks_eq options n
  obtain ⟨hviolations, hchecker⟩ := checked_analyzeWith answers rules options n
  have hwalk : a.walkError = none := walkError_analyzeWith answers rules options n
  have hobservers : a.observerErrors = [] := Engine.errors_walked answers rules options n
  have hfacts : a.facts = factsOf options n := facts_analyzeWith answers rules options n
  have hflow : a.facts.flow = Flow.analyze budget n :=
    (congrArg Facts.flow hfacts).trans (Flow.flow_analyzeModule [] options n)
  rw [hlooks, ← hfacts] at hviolations hchecker
  refine ⟨c, below, hsightings, hnodes, hwalk, ?_, hviolations, ?_⟩
  · exact (a.ruleErrors_eq hwalk hobservers).trans hchecker
  · rw [a.failed_eq_none_iff hwalk hobservers, hflow, Flow.errors_analyze_eq_nil_iff,
      ← failedCalls_eq_nil_iff]
    exact and_congr_left fun _ => by rw [← hchecker]; rfl

end ModuleLint
