import ModuleLint.Proofs.Flow.Occurrences
import ModuleLint.Proofs.Walk.Observing
import ModuleLint.Rule.Engine

/-!
# The data flow of a module

While a module is walked the data flow of its routines is gathered. It consists of the results of
those routines whose analysis converges (`flow_analyzeModule`, `flatMap_results_analyze`). What a rule
reports about entries of these results is told by places of the text, if the entries of each result
stand for places of its routine (`reports_analyzeModule`).
-/

set_option autoImplicit false

namespace ModuleLint

open ModuleLint.Flow

/-- What is reported about a place of a routine: the message for the variable there. -/
def Routine.reportAt (r : Routine) (info : RuleInfo) (m : Module) (message : String → String)
    (place : Nat) : Option Violation :=
  (r.script (some m))[place]?.map fun e => info.violation (some m) e.span (message e.name)

namespace Flow

/-! ## The routines of a module -/

/-- The routines of a module whose analysis stays within the budget, functions first. -/
def converging (budget : Nat) (m : Module) : List Routine :=
  (m.functions.filterMap id ++ m.procedures.filterMap id).filter fun r =>
    (solve (Graph.ofRoutine (some m) r) budget).isOk

/-- Analysing routines one after another collects the results that there are. -/
theorem results_foldl_add (budget : Nat) (kind : RoutineKind) (rs : List Routine) (f : Findings) :
    (rs.foldl (fun f r => f.add budget kind r) f).module? = f.module?
      ∧ (rs.foldl (fun f r => f.add budget kind r) f).results
        = f.results
          ++ rs.filterMap fun r => (analyzeRoutine budget f.module? kind r).toOption := by
  induction rs generalizing f with
  | nil => simp
  | cons r rest ih =>
    obtain ⟨hmodule, hresults⟩ := ih (f.add budget kind r)
    rw [List.foldl_cons, hmodule, hresults]
    unfold Findings.add
    cases hr : analyzeRoutine budget f.module? kind r with
    | ok result => simp [hr, Except.toOption]
    | error e => simp [hr, Except.toOption]

/-- There are no errors when each routine has a result. -/
theorem errors_foldl_add (budget : Nat) (kind : RoutineKind) (rs : List Routine) (f : Findings) :
    (rs.foldl (fun f r => f.add budget kind r) f).errors = []
      ↔ f.errors = [] ∧ ∀ r ∈ rs, (analyzeRoutine budget f.module? kind r).isOk = true := by
  induction rs generalizing f with
  | nil => simp
  | cons r rest ih =>
    obtain ⟨hmodule, -⟩ := results_foldl_add budget kind [r] f
    simp only [List.foldl_cons, List.foldl_nil] at hmodule
    rw [List.foldl_cons, ih, hmodule, List.forall_mem_cons, ← and_assoc]
    refine and_congr ?_ Iff.rfl
    unfold Findings.add
    cases analyzeRoutine budget f.module? kind r with
    | ok result => simp [Except.isOk, Except.toBool]
    | error e => simp [Except.isOk, Except.toBool]

/-- No budget is used up exactly if the analysis of each routine converges. -/
theorem errors_analyze_eq_nil_iff (budget : Nat) (m : Module) :
    (analyze budget m).errors = []
      ↔ (∀ r, some r ∈ m.functions → (analyzeRoutine budget (some m) .function r).isOk = true)
        ∧ ∀ r, some r ∈ m.procedures → (analyzeRoutine budget (some m) .procedure r).isOk = true := by
  obtain ⟨hmodule, -⟩ := results_foldl_add budget .function (m.functions.filterMap id)
    (.start m)
  unfold analyze
  rw [errors_foldl_add, errors_foldl_add, hmodule]
  simp only [Findings.module?_start, Findings.errors_start, List.mem_filterMap, id_eq, exists_eq_right,
    true_and]

/-- The results of a module: those of its functions, then those of its procedures. -/
theorem results_analyze (budget : Nat) (m : Module) :
    (analyze budget m).results
      = ((m.functions.filterMap id).filterMap fun r =>
          (analyzeRoutine budget (some m) .function r).toOption)
        ++ (m.procedures.filterMap id).filterMap fun r =>
          (analyzeRoutine budget (some m) .procedure r).toOption := by
  obtain ⟨hmodule, hresults⟩ := results_foldl_add budget .function (m.functions.filterMap id)
    (.start m)
  obtain ⟨-, hall⟩ := results_foldl_add budget .procedure (m.procedures.filterMap id)
    ((m.functions.filterMap id).foldl (fun f r => f.add budget .function r) (.start m))
  unfold analyze
  simp only [hall, hmodule, hresults, Findings.module?_start, Findings.results_start, List.nil_append]

/-! ## Routine by routine -/

/-- What the analysis of each routine of a module comes to, functions first. -/
def outcomes (budget : Nat) (m : Module) : List (Except BudgetError Result) :=
  (m.functions.filterMap id).map (analyzeRoutine budget (some m) .function)
    ++ (m.procedures.filterMap id).map (analyzeRoutine budget (some m) .procedure)

def failure? : Except BudgetError Result → Option BudgetError
  | .ok _ => none
  | .error e => some e

/-- Analysing routines one after another collects the errors that there are. -/
theorem errors_foldl_add_eq (budget : Nat) (kind : RoutineKind) (rs : List Routine) (f : Findings) :
    (rs.foldl (fun f r => f.add budget kind r) f).errors
      = f.errors ++ rs.filterMap fun r => failure? (analyzeRoutine budget f.module? kind r) := by
  induction rs generalizing f with
  | nil => simp
  | cons r rest ih =>
    have hmodule : (f.add budget kind r).module? = f.module? := (results_foldl_add budget kind [r] f).1
    rw [List.foldl_cons, ih, hmodule]
    unfold Findings.add
    cases hr : analyzeRoutine budget f.module? kind r with
    | ok result => simp [hr, failure?]
    | error e => simp [hr, failure?]

/-- The results of a module are those among the outcomes of its routines. -/
theorem results_analyze_outcomes (budget : Nat) (m : Module) :
    (analyze budget m).results = (outcomes budget m).filterMap Except.toOption := by
  rw [results_analyze, outcomes, List.filterMap_append, List.filterMap_map, List.filterMap_map]
  rfl

/-- The errors of a module are those among the outcomes of its routines. -/
theorem errors_analyze_outcomes (budget : Nat) (m : Module) :
    (analyze budget m).errors = (outcomes budget m).filterMap failure? := by
  obtain ⟨hmodule, -⟩ := results_foldl_add budget .function (m.functions.filterMap id)
    (.start m)
  unfold analyze
  rw [errors_foldl_add_eq, errors_foldl_add_eq, hmodule, outcomes, List.filterMap_append,
    List.filterMap_map, List.filterMap_map]
  rfl

/-- What the results of the routines of a module add up to is told by the routines whose analysis
converges, if each result is told by its routine. -/
theorem flatMap_results_analyze {α : Type} {budget : Nat} {m : Module} {ofResult : Result → List α}
    {ofRoutine : Routine → List α}
    (h : ∀ kind r result, analyzeRoutine budget (some m) kind r = .ok result →
      ofResult result = ofRoutine r) :
    (analyze budget m).results.flatMap ofResult = (converging budget m).flatMap ofRoutine := by
  have hone : ∀ (kind : RoutineKind) (rs : List Routine),
      (rs.filterMap fun r => (analyzeRoutine budget (some m) kind r).toOption).flatMap ofResult
        = (rs.filter fun r => (solve (Graph.ofRoutine (some m) r) budget).isOk).flatMap
            ofRoutine := by
    intro kind rs
    induction rs with
    | nil => rfl
    | cons r rest ih =>
      cases hsolve : solve (Graph.ofRoutine (some m) r) budget with
      | error n =>
        have hr : (analyzeRoutine budget (some m) kind r).toOption = none := by
          simp [analyzeRoutine, hsolve, Except.toOption]
        have hno : (solve (Graph.ofRoutine (some m) r) budget).isOk = false := by rw [hsolve]; rfl
        simp only [List.filterMap_cons, List.filter_cons, hr, hno, Bool.false_eq_true, if_false, ih]
      | ok s =>
        obtain ⟨result, hr⟩ : ∃ result, analyzeRoutine budget (some m) kind r = .ok result := by
          simp [analyzeRoutine, hsolve]
        have hsome : (analyzeRoutine budget (some m) kind r).toOption = some result := by rw [hr]; rfl
        have hyes : (solve (Graph.ofRoutine (some m) r) budget).isOk = true := by rw [hsolve]; rfl
        simp only [List.filterMap_cons, List.filter_cons, hsome, hyes, if_true, List.flatMap_cons,
          ih, h kind r result hr]
  rw [results_analyze, List.flatMap_append, hone, hone, converging, List.filter_append,
    List.flatMap_append]

/-! ## What a walk gathers -/

/-- Only the heads of routines and of the module are looked at. -/
theorem Findings.observe_of_not_isHead (budget : Nat) {n : Node} (hn : n.isHead = false) (f : Findings) :
    Findings.observe budget n f = f := by
  cases n with
  | module m => cases hn
  | function r => cases hn
  | procedure r => cases hn
  | _ => rfl

/-- The node of a module starts afresh, so what was there before does not matter. -/
theorem foldl_observe_module (budget : Nat) (m : Module) (f : Findings) :
    m.outline.nodes.foldl (fun f n => Findings.observe budget n f) f = analyze budget m :=
  foldl_nodes_module (fun _ f hn => Findings.observe_of_not_isHead budget hn f) m f

/-- A walk of a module gathers the data flow of its routines, whatever rules are checked on it. -/
theorem flow_analyzeModule (rules : List Rule) (options : EngineOptions) (m : Module) :
    (analyzeModule rules options (some m)).facts.flow
      = analyze (budgetOf options.maxIterations) m := by
  have hobserves : Observes
      (FanOut.hook (Engine.constituents (Observers.standard options) Answers.own rules))
      (fun s => s.state.flow) (Findings.observe (budgetOf options.maxIterations)) :=
    { panic_eq_none := fun _ _ _ => rfl, view_state := fun _ _ _ => rfl }
  have hwalk := (walkOutline_observes Context.surroundings hobserves m.outline
    (Context.ofModule m.name) { state := Engine.start, errors := [] }).2
  rw [foldl_observe_module] at hwalk
  exact hwalk

/-- What is selected on one side is told on the other when all pairs agree. -/
theorem filterMap_eq_map_of_forall₂ {α β γ : Type} {R : α → β → Prop} {f : α → Option γ} {g : β → γ}
    {xs : List α} {ys : List β} (h : List.Forall₂ R xs ys)
    (hfg : ∀ x y, R x y → f x = some (g y)) : xs.filterMap f = ys.map g := by
  induction h with
  | nil => rfl
  | cons hxy _ ih => rw [List.filterMap_cons, hfg _ _ hxy, List.map_cons, ih]

/-- If the entries of each result stand for places of its routine, then what is reported about the
entries is what is reported about the places. -/
theorem reports_analyzeModule {α : Type} {R : Routine → Nat → α → Prop} {m : Module}
    {places : Routine → List Nat} {entries : Result → List α} {info : RuleInfo}
    {message : Routine → String → String} {violation : Result → α → Violation}
    (hentries : ∀ budget kind r result, analyzeRoutine budget (some m) kind r = .ok result →
      List.Forall₂ (R r) (places r) (entries result))
    (hviolation : ∀ result p x, R result.routine p x →
      result.routine.reportAt info m (message result.routine) p = some (violation result x))
    (rules : List Rule) (options : EngineOptions) :
    ((analyzeModule rules options (some m)).facts.flow.results.flatMap fun result =>
        (entries result).map (violation result))
      = (converging (budgetOf options.maxIterations) m).flatMap fun r =>
          (places r).filterMap (r.reportAt info m (message r)) := by
  rw [flow_analyzeModule]
  apply flatMap_results_analyze
  intro kind r result h
  obtain ⟨rfl, -⟩ := analyzeRoutine_eq_ok h
  exact (filterMap_eq_map_of_forall₂ (hentries _ kind _ result h) (hviolation result)).symm

end Flow

end ModuleLint
