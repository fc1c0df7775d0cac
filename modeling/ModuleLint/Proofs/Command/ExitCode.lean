import ModuleLint.Command.Run
import ModuleLint.Proofs.Batch.Interleavings
import ModuleLint.Proofs.Rule.SharedWalk

/-!
# The exit code of a check

A check loads settings and modules, analyses the modules side by side, writes a report and gives a verdict. If nothing
stands in the way of all that (`Ready`), its exit code tells one thing: whether some input loads and some active rule
finds something in it that is grave enough (`Finds`).

The stages are taken one by one. The settings alone determine the rules and how modules are loaded and analysed
(`prepare_eq_ok`). Each path is loaded as if it were the only one, since standard input is read once
(`ofPaths_eq_map`). Whatever the schedule, the report is that of the inputs one after another, and it has a
violation exactly if some rule alone finds it in some input (`hasAtLeast_iff`). Writing the report and the metrics
does not change the verdict (`exitCode_finish`).

Telemetry is set up between the settings and the rules. It is a part of the workspace, so that it works is one of the
things that a check needs (`Observable`), and where it does not work the check says so and does nothing else
(`perform_of_setUp_error`).
-/

set_option autoImplicit false

namespace ModuleLint.Command

/-! ## What a check needs and what it finds -/

/-- How modules are loaded under some settings. -/
def loaderOf (s : Settings) : LoaderOptions :=
  { maxSize := (Size.parse s.analysis.maxInputSize).toOption.getD 0, strict := s.analysis.strictSchema }

/-- How modules are analysed under some settings. -/
def engineOf (s : Settings) : EngineOptions :=
  { exemptExported := s.analysis.exemptExportedUnused, maxIterations := s.analysis.maxIterations }

/-- What a path yields if it is the only one. -/
def Workspace.load (w : Workspace) (options : LoaderOptions) (path : String) : Loaded :=
  if path = BatchInput.stdinPath then Loader.load options w.input Loader.stdinName Loader.stdinName
  else Loader.loadFile options path (w.read path)

/-- The paths of a check; without any, standard input is read. -/
def pathsOf (paths : List String) : List String :=
  if paths.isEmpty then [BatchInput.stdinPath] else paths

/-- A path yields a module. -/
def Loads (w : Workspace) (s : Settings) (path : String) : Prop :=
  (w.load (loaderOf s) path).error = none

/-- An active rule finds something in the module of a path that is at least as grave as a level. -/
def FindsAt (w : Workspace) (s : Settings) (level : Severity) (path : String) : Prop :=
  ∃ r ∈ Catalog.active s.rules,
    ∃ v ∈ (analyzeModule [r] (engineOf s) (some (w.load (loaderOf s) path).module)).violations,
      (level.level : Int) ≤ Severity.rank v.severity

/-- Some path of a check loads and has a grave finding. -/
def Finds (w : Workspace) (s : Settings) (level : Severity) (paths : List String) : Prop :=
  ∃ path ∈ pathsOf paths, Loads w s path ∧ FindsAt w s level path

/-- The telemetry of a check works: it can be set up, its instruments can be made, and there is a registry if metrics
are to be written. -/
def Observable (w : Workspace) (s : Settings) : Prop :=
  ∃ providers, w.setUp (CheckPlan.setup s) = .ok providers ∧ providers.fault? = none
    ∧ (s.telemetry.metricsFile.isEmpty = false → providers.hasRegistry = true)

/-- Nothing stands in the way of a check: its settings are accepted, its flags are valid, its telemetry works, it is not
cancelled, the files can be written and standard input is named at most once. -/
structure Ready (w : Workspace) (shared : SharedOptions) (options : CheckOptions) (paths : List String)
    (s : Settings) (level : Severity) : Prop where
  settings : w.settings shared = .ok s
  rules : Catalog.faults s.rules = []
  format : (Report.Format.parse? options.format).isSome
  failOn : Severity.parse? options.failOn = some level
  observable : Observable w (CheckPlan.adjust s options)
  cancelled : w.cancelled = false
  report : options.output.isEmpty = false → w.obstacle? options.output = none
  metrics : (CheckPlan.adjust s options).telemetry.metricsFile.isEmpty = false →
    w.obstacle? (CheckPlan.adjust s options).telemetry.metricsFile = none
  once : paths.count BatchInput.stdinPath ≤ 1

/-! ## Preparing a check -/

/-- Settings without a fault have a size that can be read. -/
theorem size_of_fault? {s : Settings} (h : s.fault? = none) :
    ∃ size, Size.parse s.analysis.maxInputSize = .ok size := by
  cases hsize : Size.parse s.analysis.maxInputSize with
  | ok size => exact ⟨size, rfl⟩
  | error cause =>
    unfold Settings.fault? at h
    rw [hsize] at h
    split at h
    · cases h
    · split at h
      · cases h
      · split at h <;> cases h

/-- Settings are read from their layers and then examined for faults. -/
theorem load_eq_ok_iff {read : String → Except FileError String} {environment : List (String × String)}
    {path : String} {s : Settings} :
    Settings.load read environment path = .ok s
      ↔ ∃ fields, Settings.fileFields read environment path = .ok fields
          ∧ ({ file := fields, environment := environment } : Settings.Layers).settings? = some s
          ∧ s.fault? = none := by
  unfold Settings.load
  cases Settings.fileFields read environment path with
  | error e => simp [bind, Except.bind]
  | ok fields =>
    simp only [bind, Except.bind, Except.ok.injEq, exists_eq_left']
    cases ({ file := fields, environment := environment } : Settings.Layers).settings? with
    | none => simp [throw, throwThe, MonadExceptOf.throw]
    | some t =>
      cases hfault : t.fault? with
      | none =>
        simp only [hfault, pure, Except.pure, Except.ok.injEq, Option.some.injEq]
        constructor
        · rintro rfl
          exact ⟨rfl, hfault⟩
        · exact fun h => h.1
      | some e =>
        simp only [hfault, throw, throwThe, MonadExceptOf.throw, reduceCtorEq, Option.some.injEq, false_iff,
          not_and]
        rintro rfl
        simp [hfault]

/-- The flags for more and for less output change the level of logging only. -/
theorem size_of_settings {w : Workspace} {shared : SharedOptions} {s : Settings}
    (h : w.settings shared = .ok s) : ∃ size, Size.parse s.analysis.maxInputSize = .ok size := by
  unfold Workspace.settings at h
  cases hload : Settings.load w.read w.environment shared.configPath with
  | error e =>
    rw [hload] at h
    cases h
  | ok t =>
    rw [hload] at h
    obtain ⟨-, -, -, hfault⟩ := load_eq_ok_iff.mp hload
    obtain ⟨size, hsize⟩ := size_of_fault? hfault
    refine ⟨size, ?_⟩
    rw [← hsize]
    simp only at h
    split at h
    · cases h
      rfl
    · split at h
      · cases h
        rfl
      · cases h
        rfl

/-- What settings make of a batch. -/
def runnerOf (s : Settings) : Runner :=
  { rules := Catalog.active s.rules, engine := engineOf s, loader := loaderOf s }

/-- What is known of a plan before anything is analysed. -/
structure Planned (options : CheckOptions) (paths : List String) (s : Settings) (level : Severity)
    (plan : CheckPlan) : Prop where
  failOn : plan.failOn = level
  settings : plan.settings = CheckPlan.adjust s options
  runner : plan.runner = runnerOf s
  paths : plan.paths = pathsOf paths
  output : plan.output = options.output
  registry : plan.settings.telemetry.metricsFile.isEmpty = false → plan.providers.hasRegistry = true

/-- A check that nothing stands in the way of can be prepared, and its settings and flags alone tell how. -/
theorem prepare_eq_ok {w : Workspace} {shared : SharedOptions} {options : CheckOptions}
    {paths : List String} {s : Settings} {level : Severity}
    (h : Ready w shared options paths s level) :
    ∃ plan, CheckPlan.prepare w shared options paths = .ok plan ∧ Planned options paths s level plan := by
  obtain ⟨format, hformat⟩ := Option.isSome_iff_exists.mp h.format
  obtain ⟨size, hsize⟩ := size_of_settings h.settings
  obtain ⟨providers, hproviders, hfault, hregistry⟩ := h.observable
  have hselect : Catalog.select s.rules = .ok (Catalog.active s.rules) := by
    unfold Catalog.select
    rw [h.rules]
  have hloader : (Size.parse s.analysis.maxInputSize).toOption.getD 0 = size := by
    rw [hsize]
    rfl
  -- the flags change neither the rules nor the size
  have hrules : (CheckPlan.adjust s options).rules = s.rules := rfl
  have hanalysis : (CheckPlan.adjust s options).analysis.maxInputSize = s.analysis.maxInputSize := rfl
  unfold CheckPlan.prepare
  simp only [hformat, h.failOn, h.settings, Option.elim_some, bind, Except.bind, pure, Except.pure, hproviders,
    Except.mapError, hrules, hselect, hanalysis, hsize, hfault]
  refine ⟨_, rfl, rfl, rfl, ?_, rfl, rfl, hregistry⟩
  simp only [runnerOf, loaderOf, hloader, engineOf]
  rfl

/-- Where telemetry cannot be set up, a check fails with the reason before it selects rules or reads modules. -/
theorem perform_of_setUp_error {w : Workspace} {shared : SharedOptions} {options : CheckOptions} {s : Settings}
    {level : Severity} {reason : String} (hformat : (Report.Format.parse? options.format).isSome)
    (hlevel : Severity.parse? options.failOn = some level) (hsettings : w.settings shared = .ok s)
    (hsetUp : w.setUp (CheckPlan.setup (CheckPlan.adjust s options)) = .error reason) (paths : List String)
    (stamp : Report.RunStamp) (duration : Duration) :
    perform w stamp duration (.check shared options paths) = .fail (.cannotObserve reason)
      ∧ exitCode (perform w stamp duration (.check shared options paths)).failure = 2 := by
  obtain ⟨format, hformat⟩ := Option.isSome_iff_exists.mp hformat
  have hprepare : CheckPlan.prepare w shared options paths = .error (.cannotObserve reason) := by
    unfold CheckPlan.prepare
    simp only [hformat, hlevel, hsettings, Option.elim_some, bind, Except.bind, hsetUp, Except.mapError]
  have hperform : perform w stamp duration (.check shared options paths) = .fail (.cannotObserve reason) := by
    unfold perform
    simp only [hprepare]
  exact ⟨hperform, by rw [hperform]; rfl⟩

/-! ## Inputs -/

/-- The input that a path stands for, loaded on its own. -/
def Workspace.inputAt (w : Workspace) (options : LoaderOptions) (path : String) : BatchInput :=
  { path := if path = BatchInput.stdinPath then Loader.stdinName else path, loaded := w.load options path }

/-- A path other than that of standard input is the path of a file. -/
theorem inputAt_of_ne {w : Workspace} {options : LoaderOptions} {path : String}
    (h : path ≠ BatchInput.stdinPath) :
    w.inputAt options path
      = { path := path, loaded := Loader.loadFile options path (w.read path) } := by
  simp only [Workspace.inputAt, Workspace.load, if_neg h]

/-- Files do not depend on what is left of standard input. -/
theorem ofPathsFrom_eq_map (w : Workspace) (options : LoaderOptions) (left : BatchInput.Remaining)
    {paths : List String} (h : BatchInput.stdinPath ∉ paths) :
    BatchInput.ofPathsFrom options w.read left paths = paths.map (w.inputAt options) := by
  induction paths with
  | nil => rfl
  | cons path rest ih =>
    rw [List.mem_cons, not_or] at h
    obtain ⟨hpath, hrest⟩ := h
    have hne : path ≠ BatchInput.stdinPath := Ne.symm hpath
    rw [BatchInput.ofPathsFrom, if_neg (by simpa using hne), ih hrest, List.map_cons, inputAt_of_ne hne]

/-- If standard input is named at most once, each path is loaded as if it were the only one. -/
theorem ofPaths_eq_map (w : Workspace) (options : LoaderOptions) {paths : List String}
    (h : paths.count BatchInput.stdinPath ≤ 1) :
    BatchInput.ofPaths options w.read w.input paths = paths.map (w.inputAt options) := by
  unfold BatchInput.ofPaths
  induction paths with
  | nil => rfl
  | cons path rest ih =>
    rw [BatchInput.ofPathsFrom, List.map_cons]
    by_cases hpath : path = BatchInput.stdinPath
    · -- after standard input has been read there are only files
      subst hpath
      have hrest : BatchInput.stdinPath ∉ rest := by
        rw [List.count_cons_self] at h
        exact List.count_eq_zero.mp (by omega)
      rw [if_pos (beq_self_eq_true _), ofPathsFrom_eq_map w options _ hrest]
      rfl
    · rw [List.count_cons_of_ne hpath] at h
      rw [if_neg (by simpa using hpath), ih h, inputAt_of_ne hpath]

/-- Where no paths are given, standard input is named once. -/
theorem count_pathsOf_le {paths : List String} (h : paths.count BatchInput.stdinPath ≤ 1) :
    (pathsOf paths).count BatchInput.stdinPath ≤ 1 := by
  unfold pathsOf
  split
  · rw [List.count_singleton_self]
  · exact h

/-! ## Reports -/

/-- The name of a level has its rank. -/
theorem rank_name (level : Severity) : Severity.rank level.name = level.level := by
  cases level <;> decide

/-- A text that names no level ranks below all levels. -/
theorem rank_lt_of_unknown {text : String} (h : ∀ level : Severity, text ≠ level.name) (level : Severity) :
    Severity.rank text < level.level := by
  have hnone : Severity.ofName? text = none := by
    unfold Severity.ofName?
    rw [List.find?_eq_none]
    intro l _
    simpa using Ne.symm (h l)
  unfold Severity.rank
  rw [hnone]
  exact Int.lt_of_lt_of_le (by decide) (Int.natCast_nonneg _)

/-- What rules find together is what each of them finds alone. -/
theorem mem_violations_iff {rules : List Rule} {options : EngineOptions} {m : Module} {v : Violation} :
    v ∈ (analyzeModule rules options (some m)).violations
      ↔ ∃ r ∈ rules, v ∈ (analyzeModule [r] options (some m)).violations := by
  have hmem : ∀ rules : List Rule, v ∈ (analyzeModule rules options (some m)).violations
      ↔ ∃ l ∈ looks options m, ∃ r ∈ rules, v ∈ r.findingsAt l := by
    intro rules
    rw [(violations_perm_findings rules options m).mem_iff]
    simp only [findings, List.mem_flatMap]
  rw [hmem]
  constructor
  · rintro ⟨l, hl, r, hr, hv⟩
    exact ⟨r, hr, (hmem [r]).mpr ⟨l, hl, r, List.mem_singleton_self r, hv⟩⟩
  · rintro ⟨r, hr, hv⟩
    obtain ⟨l, hl, r', hr', hv⟩ := (hmem [r]).mp hv
    rw [List.mem_singleton.mp hr'] at hv
    exact ⟨l, hl, r, hr, hv⟩

/-- An input that does not load has no violations. -/
theorem mem_violations_analyze {r : Runner} {input : BatchInput} {v : Violation} :
    v ∈ (r.analyze input).violations
      ↔ input.loaded.error = none
        ∧ ∃ rule ∈ r.rules, v ∈ (analyzeModule [rule] r.engine (some input.loaded.module)).violations := by
  unfold Runner.analyze
  cases herror : input.loaded.error with
  | some e => simp
  | none => simp only [true_and, ← mem_violations_iff]

/-- A report has a grave violation exactly if some input loads and some rule alone finds it there. -/
theorem hasAtLeast_iff (r : Runner) (inputs : List BatchInput) (level : Severity) :
    (r.run inputs).hasAtLeast level.name = true
      ↔ ∃ input ∈ inputs, input.loaded.error = none
          ∧ ∃ rule ∈ r.rules,
              ∃ v ∈ (analyzeModule [rule] r.engine (some input.loaded.module)).violations,
                (level.level : Int) ≤ Severity.rank v.severity := by
  have hgrave : ∀ v : Violation, Severity.atLeast v.severity level.name = true
      ↔ (level.level : Int) ≤ Severity.rank v.severity := by
    intro v
    rw [Severity.atLeast, rank_name, decide_eq_true_iff, ge_iff_le]
  have hviolations : ∀ v, v ∈ (r.run inputs).violations
      ↔ ∃ input ∈ inputs, v ∈ (r.analyze input).violations := by
    intro v
    show v ∈ Violation.sort _ ↔ _
    rw [(Violation.sort_perm _).mem_iff, List.flatMap_map, List.mem_flatMap]
  simp only [BatchReport.hasAtLeast, List.any_eq_true, hgrave, hviolations, mem_violations_analyze]
  constructor
  · rintro ⟨v, ⟨input, hinput, hloads, rule, hrule, hv⟩, hrank⟩
    exact ⟨input, hinput, hloads, rule, hrule, v, hv, hrank⟩
  · rintro ⟨input, hinput, hloads, rule, hrule, v, hv, hrank⟩
    exact ⟨v, ⟨input, hinput, hloads, rule, hrule, hv⟩, hrank⟩

/-! ## Verdicts -/

section Check

variable {w : Workspace} {shared : SharedOptions} {options : CheckOptions} {paths : List String}
  {s : Settings} {level : Severity} {plan : CheckPlan}

/-- Once the files can be written, the verdict alone decides the exit code. -/
theorem exitCode_finish (h : Ready w shared options paths s level) (hplan : Planned options paths s level plan)
    (stamp : Report.RunStamp) (duration : Duration) (r : BatchReport) :
    exitCode (plan.finish w stamp duration r).failure = if r.hasAtLeast level.name then 1 else 0 := by
  have hverdict : exitCode (plan.verdict r) = if r.hasAtLeast level.name then 1 else 0 := by
    unfold CheckPlan.verdict
    rw [hplan.failOn]
    split <;> rfl
  have hconclude : ∀ e : Effect, (plan.conclude w duration r e).failure = plan.verdict r := by
    intro e
    have hregistry := hplan.registry
    unfold CheckPlan.conclude
    simp only [hplan.settings] at hregistry ⊢
    cases hmetrics : (CheckPlan.adjust s options).telemetry.metricsFile.isEmpty with
    | true => rfl
    | false =>
      rw [h.metrics hmetrics, hregistry hmetrics]
      rfl
  unfold CheckPlan.finish
  simp only [hplan.output]
  cases houtput : options.output.isEmpty with
  | true => rw [if_pos rfl, hconclude, hverdict]
  | false => rw [if_neg Bool.false_ne_true, h.report houtput, hconclude, hverdict]

/-- The inputs of a check are those of its paths, each loaded on its own. -/
theorem inputs_eq_map (h : Ready w shared options paths s level)
    (hplan : Planned options paths s level plan) :
    plan.inputs w = (pathsOf paths).map (w.inputAt (loaderOf s)) := by
  unfold CheckPlan.inputs
  rw [hplan.runner, hplan.paths]
  exact ofPaths_eq_map w (loaderOf s) (count_pathsOf_le h.once)

/-- The report on all inputs has a grave violation exactly if something grave is found in one of them. -/
theorem hasAtLeast_run_iff (h : Ready w shared options paths s level) (hplan : Planned options paths s level plan) :
    (plan.runner.run (plan.inputs w)).hasAtLeast level.name = true ↔ Finds w s level paths := by
  rw [hasAtLeast_iff, inputs_eq_map h hplan, hplan.runner]
  simp only [List.mem_map, exists_exists_and_eq_and]
  rfl

/-- The exit code tells whether something was found. -/
def Announces (finds : Prop) (code : Nat) : Prop := (finds ∧ code = 1) ∨ (¬ finds ∧ code = 0)

/-- A run that has come to its end is concluded with the verdict on all inputs. -/
theorem announces_complete (h : Ready w shared options paths s level) (hplan : Planned options paths s level plan)
    (stamp : Report.RunStamp) (duration : Duration) :
    Announces (Finds w s level paths)
      (exitCode (plan.complete w stamp duration (plan.runner.run (plan.inputs w), none)).failure) := by
  have hiff := hasAtLeast_run_iff h hplan
  unfold CheckPlan.complete
  rw [exitCode_finish h hplan]
  cases hfound : (plan.runner.run (plan.inputs w)).hasAtLeast level.name with
  | true => exact .inl ⟨hiff.mp hfound, rfl⟩
  | false =>
    refine .inr ⟨fun hfinds => ?_, rfl⟩
    rw [hiff.mpr hfinds] at hfound
    cases hfound

/-- The outcomes of the jobs of a check, one for each input. -/
def jobs (plan : CheckPlan) (w : Workspace) (i : Nat) : ModuleOutcome :=
  ((plan.inputs w).map plan.runner.analyze)[i]?.getD default

/-- A check can end with an exit code if its modules are analysed by so many workers, in any order of events in which the
run is not cancelled and whatever time it takes. -/
def Exits (w : Workspace) (shared : SharedOptions) (options : CheckOptions) (paths : List String)
    (workers code : Nat) : Prop :=
  ∃ plan, CheckPlan.prepare w shared options paths = .ok plan
    ∧ ∃ (durations : Nat → Duration) (run : Schedule) (stamp : Report.RunStamp) (duration : Duration),
        Schedule.Reaches workers (jobs plan w) durations (.start (plan.inputs w).length) run
        ∧ run.isOver = true ∧ run.cancelled = false
        ∧ code = exitCode (plan.complete w stamp duration (run.report, run.stopReason)).failure

/-- Whatever the order of events, the exit code tells what there is to be found. -/
theorem announces_of_exits (h : Ready w shared options paths s level) {workers code : Nat}
    (hexits : Exits w shared options paths workers code) : Announces (Finds w s level paths) code := by
  obtain ⟨plan, hprepare, durations, run, stamp, duration, hreaches, hover, hcancelled, rfl⟩ := hexits
  obtain ⟨plan', hprepare', hplan⟩ := prepare_eq_ok h
  obtain rfl : plan' = plan := Except.ok.inj (hprepare'.symm.trans hprepare)
  have hreason : run.stopReason = none := by
    rw [((Schedule.sound_start _ _).reaches hreaches).stopReason_eq, if_neg (by rw [hcancelled]; exact Bool.false_ne_true)]
  rw [Schedule.report_eq_run plan'.runner (plan'.inputs w) hreaches hover hcancelled, hreason]
  exact announces_complete h hplan stamp duration

/-- With any number of workers a check can come to its end. -/
theorem exists_exits (h : Ready w shared options paths s level) (stamp : Report.RunStamp)
    (duration : Duration) {workers : Nat} (hworkers : 0 < workers) :
    ∃ code, Exits w shared options paths workers code := by
  obtain ⟨plan, hprepare, -⟩ := prepare_eq_ok h
  obtain ⟨run, hreaches, hover, hcancelled⟩ : ∃ run,
      Schedule.Reaches workers (jobs plan w) (fun _ => duration) (.start (plan.inputs w).length) run
        ∧ run.isOver = true ∧ run.cancelled = false :=
    Schedule.exists_isOver_of_sound hworkers (Schedule.sound_start (jobs plan w) _)
  exact ⟨_, plan, hprepare, _, run, stamp, duration, hreaches, hover, hcancelled, rfl⟩

/-- Codes that announce the same are the same. -/
theorem Announces.eq_of_iff {p q : Prop} {code code' : Nat} (h : Announces p code) (h' : Announces q code')
    (hiff : q ↔ p) : code' = code := by
  rcases h with ⟨hp, rfl⟩ | ⟨hp, rfl⟩
  · rcases h' with ⟨-, rfl⟩ | ⟨hq, -⟩
    · rfl
    · exact absurd (hiff.mpr hp) hq
  · rcases h' with ⟨hq, -⟩ | ⟨-, rfl⟩
    · exact absurd (hiff.mp hq) hp
    · rfl

/-- Inputs that do not load have no part in what is found. -/
theorem finds_iff_of_loading {paths' : List String}
    (hsame : ∀ path, Loads w s path → (path ∈ pathsOf paths' ↔ path ∈ pathsOf paths)) :
    Finds w s level paths' ↔ Finds w s level paths := by
  constructor
  · rintro ⟨path, hmem, hloads, hfinds⟩
    exact ⟨path, (hsame path hloads).mp hmem, hloads, hfinds⟩
  · rintro ⟨path, hmem, hloads, hfinds⟩
    exact ⟨path, (hsame path hloads).mpr hmem, hloads, hfinds⟩

/-- The order of the paths does not matter for which paths there are. -/
theorem mem_pathsOf_of_perm {paths' : List String} (h : paths'.Perm paths) (path : String) :
    path ∈ pathsOf paths' ↔ path ∈ pathsOf paths := by
  unfold pathsOf
  rw [h.isEmpty_eq]
  split
  · exact Iff.rfl
  · exact h.mem_iff

/-- What is grave enough for a level is grave enough for a milder one. -/
theorem Finds.of_level_le {level' : Severity} (hle : level.level ≤ level'.level)
    (h : Finds w s level' paths) : Finds w s level paths := by
  obtain ⟨path, hmem, hloads, rule, hrule, v, hv, hrank⟩ := h
  exact ⟨path, hmem, hloads, rule, hrule, v, hv, by omega⟩

/-- The exit code of a check that nothing stands in the way of is one if some input loads and an active rule finds
something in it that is grave enough, and zero otherwise. This holds of every run that is not cancelled, whatever the
number of workers and the order of events, and there are such runs. So of two checks in one workspace it makes no
difference in which order the inputs are named, which inputs that do not load are named besides, how many workers there
are and in which format the report is written. A graver level to fail on never turns zero into one. The levels are
ranked by their names, information below warnings, errors and critical findings, and any other text below them all. -/
theorem exit_code_decided_by_findings (h : Ready w shared options paths s level) (stamp : Report.RunStamp)
    (duration : Duration) :
    Announces (Finds w s level paths)
        (exitCode (perform w stamp duration (.check shared options paths)).failure)
      ∧ (∀ workers, 0 < workers → ∃ code, Exits w shared options paths workers code)
      ∧ (∀ workers code, Exits w shared options paths workers code →
          Announces (Finds w s level paths) code)
      ∧ (Severity.rank "INFO" < Severity.rank "WARNING" ∧ Severity.rank "WARNING" < Severity.rank "ERROR"
          ∧ Severity.rank "ERROR" < Severity.rank "CRITICAL"
          ∧ (∀ l : Severity, Severity.rank l.name = l.level)
          ∧ ∀ text, (∀ l : Severity, text ≠ l.name) → ∀ l : Severity, Severity.rank text < l.level)
      ∧ ∀ options' paths' level', Ready w shared options' paths' s level' →
          ∀ workers workers' code code', Exits w shared options paths workers code →
            Exits w shared options' paths' workers' code' →
              (level' = level → paths'.Perm paths → code' = code)
              ∧ (level' = level →
                  (∀ path, Loads w s path → (path ∈ pathsOf paths' ↔ path ∈ pathsOf paths)) →
                  code' = code)
              ∧ (paths' = paths → level.level ≤ level'.level → code = 0 → code' = 0) := by
  refine ⟨?_, fun _ => exists_exits h stamp duration, fun _ _ => announces_of_exits h,
    ⟨by decide, by decide, by decide, rank_name, fun _ => rank_lt_of_unknown⟩, ?_⟩
  · obtain ⟨plan, hprepare, hplan⟩ := prepare_eq_ok h
    have hperform : perform w stamp duration (.check shared options paths)
        = plan.complete w stamp duration (plan.runner.run (plan.inputs w), none) := by
      unfold perform CheckPlan.report Runner.runUnless
      simp only [hprepare, h.cancelled, Bool.false_eq_true, if_false]
    rw [hperform]
    exact announces_complete h hplan stamp duration
  · intro options' paths' level' h' workers workers' code code' hexits hexits'
    have hcode := announces_of_exits h hexits
    have hcode' := announces_of_exits h' hexits'
    refine ⟨?_, ?_, ?_⟩
    · rintro rfl hperm
      exact hcode.eq_of_iff hcode' (finds_iff_of_loading fun path _ => mem_pathsOf_of_perm hperm path)
    · rintro rfl hsame
      exact hcode.eq_of_iff hcode' (finds_iff_of_loading hsame)
    · rintro rfl hle rfl
      rcases hcode' with ⟨hfinds, -⟩ | ⟨-, hzero⟩
      · rcases hcode with ⟨-, hone⟩ | ⟨hnone, -⟩
        · cases hone
        · exact absurd (hfinds.of_level_le hle) hnone
      · exact hzero

end Check

/-! ## A check with a missing file -/

/-- There are no files, and the module on standard input has a variable whose name starts with an underscore. -/
def bare : Workspace :=
  { read := fun path => .error { action := .opening, path := path, obstacle := .missing }
    obstacle? := fun _ => none
    environment := []
    input := "\x7b\"module\":\x7b\"variables\":[\x7b\"name\":\"_total\"\x7d]\x7d\x7d"
    colored := false
    setUp := fun s => .ok (.working s)
    cancelled := false }

/-- No flags are given that all commands have. -/
def plainShared : SharedOptions := { configPath := "", verbose := false, quiet := false, noColor := false }

/-- A check that fails on errors and writes its report to standard output. -/
def failOnError : CheckOptions :=
  { format := "json", output := "", failOn := "error", workers := 2, metricsFile := "" }

/-- Without files and an environment the settings are the usual ones. -/
theorem settings_bare : bare.settings plainShared = .ok Settings.default := by
  have hfault : Settings.default.fault? = none := by
    rw [← Option.isNone_iff_eq_none]
    decide +kernel
  have hload : Settings.load bare.read bare.environment plainShared.configPath = .ok Settings.default :=
    load_eq_ok_iff.mpr ⟨[], rfl, rfl, hfault⟩
  unfold Workspace.settings
  rw [hload]
  rfl

/-- Nothing stands in the way of a check there. -/
theorem ready_bare :
    Ready bare plainShared failOnError ["missing.json", "-"] Settings.default .error where
  settings := settings_bare
  rules := by
    have hsorted : Catalog.sortedSeverities Settings.default.rules = [] := List.mergeSort_nil
    unfold Catalog.faults
    rw [hsorted]
    decide +kernel
  format := by decide +kernel
  failOn := by decide +kernel
  observable := ⟨_, rfl, rfl, by decide +kernel⟩
  cancelled := rfl
  report := by decide +kernel
  metrics := by decide +kernel
  once := by decide +kernel

/-- The name on standard input is an error. -/
theorem findsAt_bare : FindsAt bare Settings.default .error BatchInput.stdinPath := by
  have hsorted : Catalog.sortedSeverities Settings.default.rules = [] := List.mergeSort_nil
  refine ⟨VariableNames.noUnderscore, ?_, ?_⟩
  · unfold Catalog.active
    rw [hsorted]
    refine List.mem_filter.mpr ⟨?_, by decide +kernel⟩
    exact .tail _ (.tail _ (.head _))
  · have hfound : ((looks (engineOf Settings.default) (bare.load (loaderOf Settings.default) "-").module).any
        fun l => (VariableNames.noUnderscore.findingsAt l).any fun v => v.severity == "ERROR") = true := by
      decide +kernel
    simp only [List.any_eq_true, beq_iff_eq] at hfound
    obtain ⟨l, hl, v, hv, hseverity⟩ := hfound
    refine ⟨v, ?_, ?_⟩
    · rw [(violations_perm_findings _ _ _).mem_iff]
      simp only [findings, List.mem_flatMap, List.mem_singleton, exists_eq_left]
      exact ⟨l, hl, hv⟩
    · rw [hseverity]
      decide

/-- The missing file is passed over, and the check fails on what standard input holds. -/
theorem exit_code_decided_by_findings_bare :
    Ready bare plainShared failOnError ["missing.json", "-"] Settings.default .error
      ∧ exitCode (perform bare { runId := "", milliseconds := 0, elapsed := "" } { nanoseconds := 0 }
          (.check plainShared failOnError ["missing.json", "-"])).failure = 1 := by
  have hloads : Loads bare Settings.default BatchInput.stdinPath := by
    rw [Loads, ← Option.isNone_iff_eq_none]
    decide +kernel
  refine ⟨ready_bare, ?_⟩
  obtain ⟨hcode, -⟩ := exit_code_decided_by_findings ready_bare
    { runId := "", milliseconds := 0, elapsed := "" } { nanoseconds := 0 }
  rcases hcode with ⟨-, hone⟩ | ⟨hnone, -⟩
  · exact hone
  · exact absurd ⟨BatchInput.stdinPath, by decide, hloads, findsAt_bare⟩ hnone

end ModuleLint.Command
