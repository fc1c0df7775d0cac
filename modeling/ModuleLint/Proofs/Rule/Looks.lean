import ModuleLint.Proofs.Walk.Visits
import ModuleLint.Rule.Engine

/-!
# The looks of an analysis

An analysis lets its rules look at the module as a whole, then at functions, procedures and declarations in the
order of the walk, and in the end at the facts. These looks do not depend on the rules (`looks`), nor on what they
answer: neither the walk nor the facts do, since none of the observers of a walk panics or enters a scope. The
checker calls the rules look by look and, within a look, rule by rule (`calls`), and keeps what is said at each
call (`transcript`, `checked_analyzeWith`). Where every rule answers for itself this is what the rules find,
sorted (`violations_analyzeModule`).
-/

set_option autoImplicit false

namespace ModuleLint

def Verdict.violations : Verdict → List Violation
  | .findings vs _ => vs
  | .panicked _ => []

/-- Why a call failed, if it did. -/
def Verdict.failure? : Verdict → Option RuleFailure
  | .findings _ error => error.map RuleFailure.error
  | .panicked cause => some (.panic cause)

/-- What a rule finds at a look. A panic finds nothing, and an error takes nothing away. -/
def Rule.findingsAt (r : Rule) (l : Look) : List Violation :=
  match r.verdictAt? l with
  | some v => v.violations
  | none => []

/-- What rules find together, look by look and within a look rule by rule. -/
def findings (rules : List Rule) (ls : List Look) : List Violation :=
  ls.flatMap fun l => rules.flatMap fun r => r.findingsAt l

/-- The facts about a module, which are gathered without any rules. -/
def factsOf (options : EngineOptions) (m : Module) : Facts :=
  (analyzeModule [] options (some m)).facts

/-- All looks at a module, in order. -/
def looks (options : EngineOptions) (m : Module) : List Look :=
  (sightings Context.surroundings m.outline (Context.ofModule m.name)).filterMap (lookAt? (some m))
    ++ [.facts (factsOf options m)]

/-! ## Calls -/

/-- The calls for one look, in the order of registration. -/
def callsAt (rules : List Rule) (l : Look) : List (Rule × Look) :=
  (rules.filter fun r => r.takesPart l).map fun r => (r, l)

/-- A rule has something to look at: a routine, a variable or the facts if it has a hook for them, and the module as a
whole if it has no hook at all. -/
inductive Rule.LooksAt (r : Rule) : Look → Prop
  | module {m : Module} (hfunction : r.behaviour.onFunction = none) (hprocedure : r.behaviour.onProcedure = none)
      (hvariable : r.behaviour.onVariable = none) (hfacts : r.behaviour.onFacts = none) : LooksAt r (.module m)
  | function {f : Routine} {site : Site} {look : RuleInfo → Routine → Site → Verdict}
      (h : r.behaviour.onFunction = some look) : LooksAt r (.function f site)
  | procedure {p : Routine} {site : Site} {look : RuleInfo → Routine → Site → Verdict}
      (h : r.behaviour.onProcedure = some look) : LooksAt r (.procedure p site)
  | declaration {d : Declaration} {site : Site} {look : RuleInfo → Declaration → Site → Verdict}
      (h : r.behaviour.onVariable = some look) : LooksAt r (.declaration d site)
  | facts {f : Facts} {look : RuleInfo → Facts → Verdict} (h : r.behaviour.onFacts = some look) :
      LooksAt r (.facts f)

/-- A rule takes part in a look exactly if it has something to look at. -/
theorem Rule.takesPart_iff (r : Rule) (l : Look) : r.takesPart l = true ↔ r.LooksAt l := by
  cases l with
  | module m =>
    have hnone : r.takesPart (.module m) = true
        ↔ ((r.behaviour.onFunction = none ∧ r.behaviour.onProcedure = none) ∧ r.behaviour.onVariable = none)
          ∧ r.behaviour.onFacts = none := by
      simp [takesPart, Behaviour.isHooked]
    rw [hnone]
    constructor
    · rintro ⟨⟨⟨hfunction, hprocedure⟩, hvariable⟩, hfacts⟩
      exact .module hfunction hprocedure hvariable hfacts
    · rintro ⟨hfunction, hprocedure, hvariable, hfacts⟩
      exact ⟨⟨⟨hfunction, hprocedure⟩, hvariable⟩, hfacts⟩
  | function f site =>
    rw [takesPart, Option.isSome_iff_exists]
    exact ⟨fun ⟨_, h⟩ => .function h, fun | .function h => ⟨_, h⟩⟩
  | procedure p site =>
    rw [takesPart, Option.isSome_iff_exists]
    exact ⟨fun ⟨_, h⟩ => .procedure h, fun | .procedure h => ⟨_, h⟩⟩
  | declaration d site =>
    rw [takesPart, Option.isSome_iff_exists]
    exact ⟨fun ⟨_, h⟩ => .declaration h, fun | .declaration h => ⟨_, h⟩⟩
  | facts f =>
    rw [takesPart, Option.isSome_iff_exists]
    exact ⟨fun ⟨_, h⟩ => .facts h, fun | .facts h => ⟨_, h⟩⟩

/-- At a look just the rules are called that have something to look at there. -/
theorem mem_callsAt {rules : List Rule} {l : Look} {x : Rule × Look} :
    x ∈ callsAt rules l ↔ x.1 ∈ rules ∧ x.1.LooksAt l ∧ x.2 = l := by
  obtain ⟨r, l'⟩ := x
  simp only [callsAt, List.mem_map, List.mem_filter, Prod.mk.injEq, Rule.takesPart_iff]
  constructor
  · rintro ⟨r, ⟨hr, hlooks⟩, rfl, rfl⟩
    exact ⟨hr, hlooks, rfl⟩
  · rintro ⟨hr, hlooks, rfl⟩
    exact ⟨r, ⟨hr, hlooks⟩, rfl, rfl⟩

/-- The calls for several looks, in order. -/
def calls (rules : List Rule) (ls : List Look) : List (Rule × Look) := ls.flatMap (callsAt rules)

/-- What is said at calls, of which the first comes after as many others. -/
def transcript (answers : Answers) (before : Nat) (xs : List (Rule × Look)) : List (Rule × Verdict) :=
  xs.mapIdx fun i x => (x.1, answers (before + i) x.1 x.2)

/-- The failures among what was said, each under the code of its rule. -/
def failedCalls (said : List (Rule × Verdict)) : List RuleError :=
  said.filterMap fun x => x.2.failure?.map (RuleError.mk x.1.info.code)

/-- The first call is answered first. -/
theorem transcript_cons (answers : Answers) (before : Nat) (x : Rule × Look) (rest : List (Rule × Look)) :
    transcript answers before (x :: rest)
      = (x.1, answers before x.1 x.2) :: transcript answers (before + 1) rest := by
  have hshift : (fun i (x : Rule × Look) => (x.1, answers (before + (i + 1)) x.1 x.2))
      = fun i x => (x.1, answers (before + 1 + i) x.1 x.2) := by
    funext i x
    rw [Nat.add_assoc, Nat.add_comm 1 i]
  unfold transcript
  rw [List.mapIdx_cons, hshift]
  rfl

/-- A call is made of a rule at a look in which it takes part. -/
theorem mem_calls {rules : List Rule} {ls : List Look} {x : Rule × Look} :
    x ∈ calls rules ls ↔ x.1 ∈ rules ∧ x.2 ∈ ls ∧ x.1.takesPart x.2 = true := by
  obtain ⟨r, l⟩ := x
  simp only [calls, callsAt, List.mem_flatMap, List.mem_map, List.mem_filter, Prod.mk.injEq]
  constructor
  · rintro ⟨l, hl, r, ⟨hr, hpart⟩, rfl, rfl⟩
    exact ⟨hr, hl, hpart⟩
  · rintro ⟨hr, hl, hpart⟩
    exact ⟨l, hl, r, ⟨hr, hpart⟩, rfl, rfl⟩

/-! ## The checker -/

namespace Checker

/-- What is written down after a call: its violations, and its failure if there is one. -/
theorem record_eq (s : CheckerState) (code : String) (v : Verdict) :
    record s code v
      = { s with
          violations := s.violations ++ v.violations
          errors := s.errors ++ (v.failure?.map (RuleError.mk code)).toList } := by
  cases v with
  | panicked p => simp [record, Verdict.violations, Verdict.failure?]
  | findings vs error =>
    cases error with
    | none => simp [record, Verdict.violations, Verdict.failure?]
    | some e => simp [record, Verdict.violations, Verdict.failure?]

/-- Calls one after another: the checker keeps what is found and what fails, in order. -/
theorem foldl_ask (answers : Answers) (xs : List (Rule × Look)) (s : CheckerState) :
    xs.foldl (fun s x => ask answers s x.1 x.2) s
      = { s with
          calls := s.calls + xs.length
          violations := s.violations
            ++ (transcript answers s.calls xs).flatMap fun x => x.2.violations
          errors := s.errors ++ failedCalls (transcript answers s.calls xs) } := by
  induction xs generalizing s with
  | nil => simp [transcript, failedCalls]
  | cons x rest ih =>
    have hlength : s.calls + 1 + rest.length = s.calls + (rest.length + 1) := by omega
    rw [List.foldl_cons, ih, ask, record_eq, transcript_cons]
    simp only [List.length_cons, hlength, List.flatMap_cons, failedCalls, List.filterMap_cons,
      List.append_assoc]
    cases (answers s.calls x.1 x.2).failure? with
    | none => rfl
    | some e => rfl

/-- Calls do not change the module. -/
theorem module?_foldl_ask (answers : Answers) (xs : List (Rule × Look)) (s : CheckerState) :
    (xs.foldl (fun s x => ask answers s x.1 x.2) s).module? = s.module? := by
  rw [foldl_ask]

/-- Running all rules at a look is making the calls at the look. -/
theorem runAll_eq (answers : Answers) (rules : List Rule) (l : Look) (s : CheckerState) :
    runAll answers rules l s = (callsAt rules l).foldl (fun s x => ask answers s x.1 x.2) s := by
  unfold runAll callsAt
  rw [List.foldl_map, List.foldl_filter]

/-- The module itself starts the checker afresh. -/
theorem observe_module (answers : Answers) (rules : List Rule) (m : Module) (c : Context)
    (s : CheckerState) :
    observe answers rules (.module m) c s
      = runAll answers rules (.module m)
          { module? := some m, calls := s.calls, violations := [], errors := [] } := rfl

/-- On the way through a module the checker lets the rules look at each node. -/
theorem observe_eq (answers : Answers) (rules : List Rule) (s : CheckerState) (x : Node × Context)
    (hx : x.1.kind ≠ .module) :
    observe answers rules x.1 x.2 s
      = match lookAt? s.module? x with
        | some l => runAll answers rules l s
        | none => s := by
  obtain ⟨n, c⟩ := x
  cases n with
  | module m => exact absurd rfl hx
  | _ => rfl

/-- Observing nodes inside a module is making the calls at the looks that they give. -/
theorem foldl_observe (answers : Answers) (rules : List Rule) (xs : List (Node × Context))
    (s : CheckerState) (hxs : ∀ x ∈ xs, x.1.kind ≠ .module) :
    xs.foldl (fun s x => observe answers rules x.1 x.2 s) s
      = (calls rules (xs.filterMap (lookAt? s.module?))).foldl
          (fun s x => ask answers s x.1 x.2) s := by
  induction xs generalizing s with
  | nil => rfl
  | cons x rest ih =>
    have hrest := ih (observe answers rules x.1 x.2 s) fun y hy => hxs y (List.mem_cons_of_mem x hy)
    rw [List.foldl_cons, hrest, observe_eq answers rules s x (hxs x (List.mem_cons_self ..)),
      List.filterMap_cons]
    cases lookAt? s.module? x with
    | none => rfl
    | some l =>
      simp only [runAll_eq, module?_foldl_ask, calls, List.flatMap_cons, List.foldl_append]

end Checker

/-! ## The walk of an analysis -/

namespace Engine

variable (answers : Answers) (rules : List Rule) (options : EngineOptions) (m : Module)

/-- The hooks of an analysis never refuse. -/
theorem quiet_hook : Quiet (FanOut.hook (constituents (Observers.standard options) answers rules)) :=
  { panic_eq_none := fun _ _ _ => rfl, entered_eq_nil := fun _ _ _ => rfl }

/-- What a walk of a module comes to. -/
def walked : Progress Context (FanState EngineState) :=
  walk Context.surroundings (FanOut.hook (constituents (Observers.standard options) answers rules))
    (some m.outline) (Context.ofModule m.name) { state := start, errors := [] }

/-- The state of the observers after the walk of a module. -/
def gathered : EngineState := (walked answers rules options m).state.state

/-- Whatever is seen of the observers goes through the sightings on its own. -/
theorem view_walked {τ : Type} (view : FanState EngineState → τ) (step : τ → Node × Context → τ)
    (h : ∀ s x, step (view s) x
      = view (FanOut.hook (constituents (Observers.standard options) answers rules) x.1 x.2 s).state) :
    view (walked answers rules options m).state
      = (sightings Context.surroundings m.outline (Context.ofModule m.name)).foldl step
          (view { state := start, errors := [] }) := by
  have hwalk := walkOutline_quiet Context.surroundings (quiet_hook answers rules options) m.outline
    (Context.ofModule m.name) { state := start, errors := [] }
  unfold walked
  simp only [walk, hwalk]
  exact (List.foldl_hom view h).symm

/-- The checker of a walk has observed all nodes in turn. -/
theorem checker_gathered :
    (gathered answers rules options m).checker
      = (sightings Context.surroundings m.outline (Context.ofModule m.name)).foldl
          (fun s x => Checker.observe answers rules x.1 x.2 s) Checker.start :=
  view_walked answers rules options m (fun s => s.state.checker) _ fun _ _ => rfl

/-- No observer panics on a node. -/
theorem errors_walked : (walked answers rules options m).state.errors = [] := by
  have hkept : ∀ (s : FanState EngineState) (x : Node × Context), s.errors
      = (FanOut.hook (constituents (Observers.standard options) answers rules) x.1 x.2 s).state.errors := by
    intro s x
    change s.errors = s.errors ++ [] ++ [] ++ [] ++ []
    simp only [List.append_nil]
  have hall := view_walked answers rules options m FanState.errors (fun es _ => es) hkept
  rw [hall]
  induction sightings Context.surroundings m.outline (Context.ofModule m.name) with
  | nil => rfl
  | cons x rest ih => exact ih

/-- What is gathered apart from the findings of the rules does not depend on them. -/
theorem facts_gathered (others : Answers) (otherRules : List Rule) :
    (gathered answers rules options m).routines = (gathered others otherRules options m).routines
      ∧ (gathered answers rules options m).mentions = (gathered others otherRules options m).mentions
      ∧ (gathered answers rules options m).flow = (gathered others otherRules options m).flow := by
  have hview : ∀ (answers : Answers) (rules : List Rule),
      (fun s : FanState EngineState => (s.state.routines, s.state.mentions, s.state.flow))
          (walked answers rules options m).state
        = (sightings Context.surroundings m.outline (Context.ofModule m.name)).foldl
            (fun t x => (RoutineFacts.observe x.1 x.2 t.1, Mentions.observe x.1 x.2 t.2.1,
              Flow.Findings.observe (Flow.budgetOf options.maxIterations) x.1 t.2.2))
            (RoutineFacts.empty, [], Flow.Findings.empty) :=
    fun answers rules => view_walked answers rules options m
      (fun s => (s.state.routines, s.state.mentions, s.state.flow)) _ fun _ _ => rfl
  have hsame := (hview answers rules).trans (hview others otherRules).symm
  simp only [Prod.mk.injEq] at hsame
  exact hsame

end Engine

/-- Without a module the analysis is that of an empty one. -/
theorem exists_analyzeModule_eq (options : EngineOptions) (m : Option Module) :
    ∃ n, ∀ rules, analyzeModule rules options m = analyzeModule rules options (some n) :=
  ⟨m.getD (Module.empty ""), fun _ => rfl⟩

section Analysis

variable (answers : Answers) (rules : List Rule) (options : EngineOptions) (m : Module)

/-- The facts that rules look at are those of their module, whatever the rules answer. -/
theorem facts_analyzeWith :
    (analyzeWith (Observers.standard options) answers rules options (some m)).facts
      = factsOf options m := by
  obtain ⟨hroutines, hmentions, hflow⟩ := Engine.facts_gathered answers rules options m Answers.own []
  have hfacts : ∀ (answers : Answers) (rules : List Rule),
      (analyzeWith (Observers.standard options) answers rules options (some m)).facts
        = { module := m
            routines := (Engine.gathered answers rules options m).routines
            exemptExported := options.exemptExported
            mentions := (Engine.gathered answers rules options m).mentions
            flow := (Engine.gathered answers rules options m).flow } := fun _ _ => rfl
  unfold factsOf analyzeModule
  rw [hfacts answers rules, hfacts Answers.own [], hroutines, hmentions, hflow]

/-- No observer stops the walk of an analysis. -/
theorem walkError_analyzeWith :
    (analyzeWith (Observers.standard options) answers rules options (some m)).walkError = none := by
  have hwalk := walkOutline_quiet Context.surroundings (Engine.quiet_hook answers rules options)
    m.outline (Context.ofModule m.name) { state := Engine.start, errors := [] }
  simp only [analyzeWith, Option.getD_some, walk, hwalk, Progress.failure]
  rfl

/-- The first sighting of a module is the module, and the others are no modules. -/
theorem exists_sightings_eq (m : Module) (c : Context) :
    ∃ c' rest, sightings Context.surroundings m.outline c = (.module m, c') :: rest
      ∧ ∀ x ∈ rest, x.1.kind ≠ .module := by
  obtain ⟨below, houtline, hbelow⟩ := m.exists_outline_eq
  have hnodes := map_fst_sightings Context.surroundings m.outline c
  rw [houtline, sightings_node] at hnodes ⊢
  rw [Outline.nodes, List.map_cons, List.cons.injEq] at hnodes
  refine ⟨_, _, rfl, fun x hx => hbelow x.1 ?_⟩
  rw [← hnodes.2]
  exact List.mem_map_of_mem hx

/-- What the checker comes to: all calls for all looks, the one at the facts included. -/
theorem checked_eq :
    Checker.checkFacts answers rules (factsOf options m) (Engine.gathered answers rules options m).checker
      = (calls rules (looks options m)).foldl (fun s x => Checker.ask answers s x.1 x.2)
          { module? := some m, calls := 0, violations := [], errors := [] } := by
  obtain ⟨c, rest, hsightings, hrest⟩ := exists_sightings_eq m (Context.ofModule m.name)
  rw [Engine.checker_gathered, looks, hsightings, List.foldl_cons, Checker.observe_module,
    Checker.foldl_observe answers rules rest _ hrest, Checker.checkFacts]
  simp only [Checker.runAll_eq, Checker.module?_foldl_ask, List.filterMap_cons, lookAt?, calls,
    List.cons_append, List.flatMap_cons, List.flatMap_append, List.foldl_append, List.flatMap_nil,
    List.append_nil]
  rfl

/-- Violations and failures of an analysis are read off the answers to its calls. -/
theorem checked_analyzeWith :
    (analyzeWith (Observers.standard options) answers rules options (some m)).violations
        = Violation.sort ((transcript answers 0 (calls rules (looks options m))).flatMap
            fun x => x.2.violations)
      ∧ (analyzeWith (Observers.standard options) answers rules options (some m)).checkerErrors
        = failedCalls (transcript answers 0 (calls rules (looks options m))) := by
  have hchecked : ∀ field : CheckerState → List RuleError × List Violation,
      field (if (analyzeWith (Observers.standard options) answers rules options (some m)).walkError.isNone
        then Checker.checkFacts answers rules
          (analyzeWith (Observers.standard options) answers rules options (some m)).facts
          (Engine.gathered answers rules options m).checker
        else (Engine.gathered answers rules options m).checker)
      = field ((calls rules (looks options m)).foldl (fun s x => Checker.ask answers s x.1 x.2)
          { module? := some m, calls := 0, violations := [], errors := [] }) := by
    intro field
    rw [walkError_analyzeWith, facts_analyzeWith, ← checked_eq]
    rfl
  have hfields := hchecked fun s => (s.errors, s.violations)
  rw [Checker.foldl_ask] at hfields
  simp only [Prod.mk.injEq, List.nil_append] at hfields
  exact ⟨congrArg Violation.sort hfields.2, hfields.1⟩

end Analysis

/-! ## Rules that answer for themselves -/

/-- A rule gives a verdict at the looks in which it takes part. -/
theorem Rule.isSome_verdictAt? (r : Rule) (l : Look) : (r.verdictAt? l).isSome = r.takesPart l := by
  cases l with
  | module m =>
    unfold verdictAt? takesPart
    cases r.behaviour.isHooked with
    | true => rfl
    | false => rfl
  | _ => exact Option.isSome_map

/-- What rules answer of themselves at a look is what they find there. -/
theorem flatMap_callsAt (rules : List Rule) (l : Look) :
    (callsAt rules l).flatMap (fun x => (Answers.own 0 x.1 x.2).violations)
      = rules.flatMap fun r => r.findingsAt l := by
  induction rules with
  | nil => rfl
  | cons r rest ih =>
    unfold callsAt at ih ⊢
    have hpart := r.isSome_verdictAt? l
    rw [List.flatMap_cons, List.filter_cons, ← ih, ← hpart]
    unfold Rule.findingsAt
    cases hverdict : r.verdictAt? l with
    | none => rfl
    | some v => simp only [Option.isSome_some, if_true, List.map_cons, List.flatMap_cons, Answers.own,
        hverdict, Option.getD_some]

/-- The violations in a transcript of rules that answer of themselves do not depend on the calls before. -/
theorem flatMap_transcript_own (xs : List (Rule × Look)) (before : Nat) :
    (transcript Answers.own before xs).flatMap (fun x => x.2.violations)
      = xs.flatMap fun x => (Answers.own 0 x.1 x.2).violations := by
  induction xs generalizing before with
  | nil => rfl
  | cons x rest ih =>
    rw [transcript_cons, List.flatMap_cons, List.flatMap_cons, ih]
    rfl

/-- The violations of an analysis are the findings of its rules, sorted. -/
theorem violations_analyzeModule (rules : List Rule) (options : EngineOptions) (m : Module) :
    (analyzeModule rules options (some m)).violations
      = Violation.sort (findings rules (looks options m)) := by
  obtain ⟨hviolations, -⟩ := checked_analyzeWith Answers.own rules options m
  rw [analyzeModule, hviolations, flatMap_transcript_own, calls, List.flatMap_assoc]
  simp only [flatMap_callsAt, findings]

end ModuleLint
