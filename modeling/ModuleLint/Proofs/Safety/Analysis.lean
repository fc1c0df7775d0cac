import ModuleLint.Proofs.Flow.ModuleFindings
import ModuleLint.Proofs.Rule.Failures
import ModuleLint.Proofs.Safety.Walk

/-!
# Careful analyses

A careful analysis walks the module with careful observers and checks the careful rules of the catalog. It comes to the
same as the running analysis (`analyzeWith_eq`), in which no observer and no rule fails. So no step of it is faulty, and
all that can be reported as a failure are routines that used up their budget (`catalog_never_faults`).
-/

set_option autoImplicit false

namespace ModuleLint

/-- A failure that joins used up budgets and nothing else. -/
inductive Failure.OnlyBudgets : Failure → Prop where
  | budget (e : Flow.BudgetError) : OnlyBudgets (.budget e)
  | joined {parts : List Failure} (h : ∀ f ∈ parts, OnlyBudgets f) : OnlyBudgets (.joined parts)

namespace Failure

/-- A join of failures that are only about budgets is one of them. -/
theorem onlyBudgets_of_join {parts : List (Option Failure)} (h : ∀ f, some f ∈ parts → f.OnlyBudgets) {f : Failure}
    (hf : join parts = some f) : f.OnlyBudgets := by
  have hparts : ∀ g ∈ parts.filterMap id, g.OnlyBudgets := by
    intro g hg
    obtain ⟨p, hp, rfl⟩ := List.mem_filterMap.mp hg
    exact h g hp
  unfold join at hf
  split at hf
  · cases hf
  · cases hf
    exact .joined hparts

/-- If no rule, no observer and no walk has failed, what has failed are budgets. -/
theorem onlyBudgets_of_failed {a : Analysis} (hwalk : a.walkError = none) (hobservers : a.observerErrors = [])
    (hchecker : a.checkerErrors = []) {f : Failure} (hf : a.failed = some f) : f.OnlyBudgets := by
  have hflow : ∀ g, join (a.facts.flow.errors.map (some ∘ Failure.budget)) = some g → g.OnlyBudgets := by
    intro g hg
    apply onlyBudgets_of_join _ hg
    intro b hb
    obtain ⟨e, -, he⟩ := List.mem_map.mp hb
    cases he
    exact .budget e
  have hobserved : ∀ g, a.observersFailure = some g → g.OnlyBudgets := by
    intro g hg
    unfold Analysis.observersFailure at hg
    rw [hobservers, hchecker] at hg
    apply onlyBudgets_of_join _ hg
    intro b hb
    simp only [List.map_nil, List.nil_append, List.mem_cons, List.not_mem_nil, or_false] at hb
    rcases hb with hb | hb
    · exact hflow b hb.symm
    · cases hb
  unfold Analysis.failed at hf
  rw [hwalk] at hf
  apply onlyBudgets_of_join _ hf
  intro b hb
  simp only [Option.map_none, List.mem_cons, List.not_mem_nil, or_false] at hb
  rcases hb with hb | hb
  · cases hb
  · exact hobserved b hb.symm

end Failure

/-! ## The rules of the catalog -/

/-- No rule of the catalog fails on any look, whatever the settings are. -/
theorem Catalog.failure?_of_mem_active {s : RuleSettings} {r : Rule} (hr : r ∈ Catalog.active s) {l : Look}
    {v : Verdict} (h : r.verdictAt? l = some v) : v.failure? = none := by
  unfold Catalog.active at hr
  rw [Catalog.foldl_applySeverity] at hr
  obtain ⟨r', hr', rfl⟩ := List.mem_map.mp (List.mem_filter.mp hr).1
  have hbehaviour := (Catalog.behaviour_foldl_regradeBy (Catalog.sortedSeverities s) r').1
  apply Careful.failure?_eq_none_of_mem_all hr'
  rw [← hbehaviour]
  exact h

/-- The rules of the catalog do not fail. -/
theorem checkerErrors_active (s : RuleSettings) (options : EngineOptions) (m : Module) :
    (analyzeModule (Catalog.active s) options (some m)).checkerErrors = [] := by
  obtain ⟨-, hchecker⟩ := checked_analyzeWith Answers.own (Catalog.active s) options m
  unfold analyzeModule
  rw [hchecker, failedCalls_eq_nil_iff]
  intro x hx
  obtain ⟨i, hi, rfl⟩ := List.mem_mapIdx.mp hx
  obtain ⟨hr, -, hpart⟩ := mem_calls.mp (List.getElem_mem hi)
  rw [← Rule.isSome_verdictAt?, Option.isSome_iff_exists] at hpart
  obtain ⟨v, hv⟩ := hpart
  have hsaid : Answers.own (0 + i) (calls (Catalog.active s) (looks options m))[i].1
      (calls (Catalog.active s) (looks options m))[i].2 = v := by
    unfold Answers.own
    rw [hv, Option.getD_some]
  rw [hsaid]
  exact Catalog.failure?_of_mem_active hr hv

namespace Careful

open ModuleLint.Flow

/-- The results for a module that fits can be read without a fault. -/
theorem sound_of_mem_analyze {m : Module} (h : Fitting m) {budget : Nat} {result : Result}
    (hresult : result ∈ (analyze budget m).results) : Sound result := by
  have hone : ∀ (kind : RoutineKind) (r : Routine), some r ∈ m.functions ∨ some r ∈ m.procedures →
      (Flow.analyzeRoutine budget (some m) kind r).toOption = some result → Sound result := by
    intro kind r hr hresult
    cases hanalysis : Flow.analyzeRoutine budget (some m) kind r with
    | error e =>
      rw [hanalysis] at hresult
      cases hresult
    | ok found =>
      rw [hanalysis] at hresult
      cases hresult
      exact sound_of_analyzeRoutine hanalysis (h r hr)
  rw [results_analyze, List.mem_append, List.mem_filterMap, List.mem_filterMap] at hresult
  simp only [List.mem_filterMap, id_eq, exists_eq_right] at hresult
  obtain ⟨r, hr, hresult⟩ | ⟨r, hr, hresult⟩ := hresult
  · exact hone .function r (.inl hr) hresult
  · exact hone .procedure r (.inr hr) hresult

/-- A careful analysis of a module that fits is the analysis. -/
theorem analyzeWith_eq {m : Module} (h : Fitting m) (s : RuleSettings) (options : EngineOptions) :
    analyzeWith (observers options) Answers.own (active s) options (some m)
      = analyzeModule (Catalog.active s) options (some m) := by
  have hflow := flow_analyzeModule (Catalog.active s) options m
  have hfacts : ∀ state, Checker.checkFacts Answers.own (active s)
        (analyzeModule (Catalog.active s) options (some m)).facts state
      = Checker.checkFacts Answers.own (Catalog.active s)
        (analyzeModule (Catalog.active s) options (some m)).facts state := by
    intro state
    apply runAll_eq_of_agreesAt
    apply agreesAt_active
    intro result hresult
    rw [hflow] at hresult
    exact sound_of_mem_analyze h hresult
  have hwalk := walk_eq h s options (Context.ofModule m.name) { state := Engine.start, errors := [] }
  unfold analyzeModule analyzeWith at hfacts ⊢
  simp only [Option.getD_some] at hfacts ⊢
  rw [hwalk]
  simp only [hfacts]

/-- Under accepted settings, a careful analysis of any module with careful observers and careful rules is the running
one. No observer and no rule panics in it, and if anything is reported as a failure then it is used up budgets. The walk
passes over all holes and loses no context, and what was gathered can be asked for the most called routines, the uses of
a variable and the definitions that reach a use. -/
theorem catalog_never_faults {s : RuleSettings} {rules : List Rule} (hselect : Catalog.select s = .ok rules)
    (options : EngineOptions) (m : Option Module) (hfitting : Fitting (m.getD (Module.empty ""))) :
    let n := m.getD (Module.empty "")
    let a := analyzeWith (observers options) Answers.own (active s) options m
    a = analyzeModule rules options m
      ∧ outlineOfModule n = .ok n.outline
      ∧ walk surroundings (watch (FanOut.hook (Engine.constituents (observers options) Answers.own (active s))))
          (some n.outline) (.ok (Context.ofModule n.name)) { state := Engine.start, errors := [] }
        = certain (Engine.walked Answers.own rules options n)
      ∧ a.walkError = none
      ∧ a.observerErrors = []
      ∧ a.ruleErrors = []
      ∧ (∀ f, a.failed = some f → f.OnlyBudgets)
      ∧ (∀ limit, mostCalled a.facts.routines.graph limit = .ok (a.facts.routines.graph.mostCalled limit))
      ∧ ∀ result ∈ a.facts.flow.results,
        (∀ name, usesNamed result name = .ok (result.usesOf name))
        ∧ ∀ u ∈ result.uses, (reachingAt result u).isOk = true := by
  intro n a
  obtain ⟨-, rfl⟩ := Catalog.select_eq_ok_iff.mp hselect
  have ha : a = analyzeModule (Catalog.active s) options (some n) := analyzeWith_eq hfitting s options
  have hwalk : a.walkError = none := by
    rw [ha]
    exact walkError_analyzeWith Answers.own (Catalog.active s) options n
  have hobservers : a.observerErrors = [] := by
    rw [ha]
    exact Engine.errors_walked Answers.own (Catalog.active s) options n
  have hchecker : a.checkerErrors = [] := by
    rw [ha]
    exact checkerErrors_active s options n
  have hrules : a.ruleErrors = [] := (a.ruleErrors_eq hwalk hobservers).trans hchecker
  refine ⟨ha, outlineOfModule_eq_ok n, ?_, hwalk, hobservers, hrules, ?_, mostCalled_eq_ok _, ?_⟩
  · rw [walk, walkOutline_certain]
    exact congrArg certain (walk_eq hfitting s options (Context.ofModule n.name) _)
  · intro f hf
    exact Failure.onlyBudgets_of_failed hwalk hobservers hchecker hf
  · intro result hresult
    rw [ha, flow_analyzeModule] at hresult
    refine ⟨usesNamed_eq_ok result, ?_⟩
    intro u hu
    exact reachingAt_isOk (sound_of_mem_analyze hfitting hresult) hu

/-- A module with nothing in many places, empty names, a range that ends before it starts and lines that the source does
not have. -/
def ragged : Module :=
  { Module.empty "" with
    source := [""]
    declarations := [none, some { span := some (Range.ofLines 18446744073709551615 0), name := "", exported := true }]
    functions := [none]
    procedures :=
      [ some
          { span := some (Range.ofLines 7 2), name := "", exported := false
            parameters := [none, some { span := none, name := "", byValue := true, hasDefault := true }]
            body :=
              [ .hole (some .assignment),
                .loopWhile none (.hole (some .call))
                  [.assign { span := none, target := some { span := none, name := "x" }, value := .hole }],
                .branch none (.reference { span := none, name := "x" }) [.hole] [.mk .hole []]
                  [.leave none .hole] ] } ] }

/-- On this module the loop uses up a budget of one evaluation, and that is all that fails. -/
theorem catalog_never_faults_ragged :
    Catalog.select tuned = .ok (Catalog.active tuned) ∧ Fitting ragged
    ∧ let a := analyzeWith (observers { maxIterations := 1 }) Answers.own (active tuned) { maxIterations := 1 }
        (some ragged)
      a = analyzeModule (Catalog.active tuned) { maxIterations := 1 } (some ragged)
      ∧ a.walkError = none ∧ a.observerErrors = [] ∧ a.ruleErrors = []
      ∧ ∃ f, a.failed = some f ∧ f.OnlyBudgets := by
  have hselect : Catalog.select tuned = .ok (Catalog.active tuned) :=
    Catalog.select_eq_ok_iff.mpr ⟨faults_tuned, rfl⟩
  have hfitting : Fitting ragged := by
    intro r hr
    simp only [ragged, Module.empty, List.mem_cons, List.not_mem_nil, or_false, reduceCtorEq, false_or,
      Option.some.injEq] at hr
    subst hr
    decide +kernel
  obtain ⟨ha, -, -, hwalk, hobservers, hrules, hfailed, -, -⟩ :=
    catalog_never_faults hselect { maxIterations := 1 } (some ragged) hfitting
  refine ⟨hselect, hfitting, ha, hwalk, hobservers, hrules, ?_⟩
  have herrors : (analyze 1 ragged).errors.length = 1 := by decide +kernel
  have hflow := flow_analyzeModule (Catalog.active tuned) { maxIterations := 1 } ragged
  rw [← ha] at hflow
  rcases hf : Analysis.failed _ with - | f
  · have hnone := ((Analysis.failed_eq_none_iff _ hwalk hobservers).mp hf).2
    rw [hflow] at hnone
    have hempty : (analyze 1 ragged).errors = [] := hnone
    rw [hempty] at herrors
    cases herrors
  · exact ⟨f, rfl, hfailed f hf⟩

end Careful

end ModuleLint
