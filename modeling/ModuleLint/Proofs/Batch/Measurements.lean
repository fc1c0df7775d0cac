import Mathlib.Algebra.BigOperators.Ring.Finset
import ModuleLint.Proofs.Batch.DetailedSchedule
import ModuleLint.Proofs.Facts.CallPairs
import ModuleLint.Proofs.Rule.SharedWalk

/-!
# The metrics of a batch

At any moment of a run the gauge tells how many modules are being analysed, and each counter tells the sum of what
the jobs have added to it so far (`Measured`). One step of a job changes both sides in the same way, whatever the
other jobs have done in between. Once nothing more can happen no addition is left, so that the counters tell the
numbers that can be counted in the report (`metrics_agree_with_report`).

What a module adds to a counter comes from another count than that in the report: the violations of one module are
counted by severity first (`total_additions`), those of the report all together.
-/

set_option autoImplicit false

namespace ModuleLint

open Telemetry (Addition Label Metrics total total_append total_cons)

/-! ## What is added for a module -/

/-- How much a module counts for a counter. -/
def ModuleOutcome.countFor (m : ModuleOutcome) : Label → Nat
  | .status name => if m.status.name = name then 1 else 0
  | .severity name => m.violations.countP fun v => v.severity == name
  | .rule code => m.ruleErrors.count code

/-- A sum with one summand that is not zero. -/
theorem sum_map_ite_of_nodup {keys : List String} (hkeys : keys.Nodup) (f : String → Int) (key : String) :
    (keys.map fun k => if k = key then f k else 0).sum = if key ∈ keys then f key else 0 := by
  induction keys with
  | nil => rfl
  | cons k rest ih =>
    obtain ⟨hnot, hrest⟩ := List.nodup_cons.mp hkeys
    rw [List.map_cons, List.sum_cons, ih hrest]
    by_cases hkey : k = key
    · subst hkey
      simp [hnot]
    · simp [hkey, Ne.symm hkey]

/-- Counting is adding up ones. -/
theorem sum_map_ite_one {α R : Type} [AddCommMonoidWithOne R] (p : α → Bool) (xs : List α) :
    (xs.map fun x => if p x then (1 : R) else 0).sum = (xs.countP p : R) := by
  induction xs with
  | nil => simp
  | cons x rest ih =>
    rw [List.map_cons, List.sum_cons, ih, List.countP_cons, Nat.cast_add, add_comm]
    cases p x <;> simp

/-- The additions of a module come to what it counts for. -/
theorem total_additions (label : Label) (m : ModuleOutcome) (time : Duration) :
    total label (m.stats time).additions = m.countFor label := by
  have hmodule : total label [.module (m.stats time).status, .duration (m.stats time).status time]
      = if Label.status m.status.name = label then 1 else 0 := by
    simp [total, Addition.amount, ModuleOutcome.stats]
  have hviolations : total label ((m.stats time).violations.map fun v => Addition.violations v.1 v.2)
      = ((m.violations.map (·.severity)).eraseDups.map fun k => if Label.severity k = label
          then ((m.violations.countP fun v => v.severity == k : Nat) : Int) else 0).sum := by
    simp only [total, ModuleOutcome.stats, List.map_map]
    rfl
  have hruleErrors : total label ((m.stats time).ruleErrors.map Addition.ruleError)
      = (m.ruleErrors.map fun code => if Label.rule code = label then (1 : Int) else 0).sum := by
    simp only [total, ModuleOutcome.stats, List.map_map]
    rfl
  have htotal : total label (m.stats time).additions
      = total label [.module (m.stats time).status, .duration (m.stats time).status time]
        + total label ((m.stats time).violations.map fun v => Addition.violations v.1 v.2)
        + total label ((m.stats time).ruleErrors.map Addition.ruleError) := by
    rw [← total_append, ← total_append]
    rfl
  rw [htotal, hmodule, hviolations, hruleErrors]
  cases label with
  | status name =>
    by_cases hname : m.status.name = name
    · simp [ModuleOutcome.countFor, hname]
    · simp [ModuleOutcome.countFor, hname]
  | severity name =>
    have hsum := sum_map_ite_of_nodup (nodup_eraseDups (m.violations.map (·.severity)))
      (fun k => ((m.violations.countP fun v => v.severity == k : Nat) : Int)) name
    simp only [Label.severity.injEq, reduceCtorEq, if_false, hsum, List.mem_eraseDups]
    split
    next => simp [ModuleOutcome.countFor]
    next hnot =>
      have hnone : (m.violations.countP fun v => v.severity == name) = 0 := by
        rw [List.countP_eq_zero]
        intro v hv hname
        exact hnot (List.mem_map.mpr ⟨v, hv, by simpa using hname⟩)
      simp [ModuleOutcome.countFor, hnone]
  | rule code =>
    have hsum := sum_map_ite_one (R := Int) (· == code) m.ruleErrors
    simp only [beq_iff_eq] at hsum
    simp [ModuleOutcome.countFor, hsum, List.count]

/-! ## What one job measures -/

/-- How much a job in this phase counts for the gauge. -/
def JobPhase.inAnalysis (phase : JobPhase) : Nat := if phase = .analysing then 1 else 0

/-- What a job can have pending: nothing before its module is loaded, and no more additions once it has returned. -/
def JobPhase.Allows : JobPhase → Option (List Addition) → Prop
  | .waiting, pending | .handedOut, pending | .skipped, pending => pending = none
  | .loading, _ | .analysing, _ => True
  | .returned, pending | .stored, pending | .ended, pending => pending = some []

/-- As long as an addition is left, the job is allowed to have others left. -/
theorem JobPhase.Allows.of_pending {phase : JobPhase} {front back : List Addition} {a : Addition}
    (h : phase.Allows (some (front ++ a :: back))) (rest : List Addition) : phase.Allows (some rest) := by
  cases phase with
  | loading => trivial
  | analysing => trivial
  | _ => simp [Allows] at h

/-- Recording a module raises each counter by what the module counts for. -/
theorem Telemetry.Metrics.valueOf_record {m : Metrics} (h : m.Increasing) (outcome : ModuleOutcome) (time : Duration)
    (label : Label) :
    (m.record (outcome.stats time)).valueOf label = m.valueOf label + outcome.countFor label := by
  rw [Metrics.record_eq_foldl_add, Metrics.valueOf_foldl_add h, total_additions]

/-- The end of an analysis is seen by the gauge only. -/
theorem Telemetry.Metrics.valueOf_finish (m : Metrics) (label : Label) :
    m.finish.valueOf label = m.valueOf label := by
  cases label <;> rfl

/-- Recording a module is seen from the counter of its status. -/
theorem Telemetry.Metrics.valueOf_record_ne {m : Metrics} (h : m.Increasing) (outcome : ModuleOutcome)
    (time : Duration) :
    (m.record (outcome.stats time)).valueOf (.status outcome.status.name)
      ≠ m.valueOf (.status outcome.status.name) := by
  rw [valueOf_record h]
  simp [ModuleOutcome.countFor]

/-- A step that leaves the counters alone moves the gauge as it moves the job in or out of the analysis. -/
theorem Slot.Step.proceed {outcome : ModuleOutcome} {time : Duration} {stopped : Bool} {s t : Slot} {m m' : Metrics}
    (h : Slot.Step outcome (outcome.stats time) stopped (s, m) (t, m')) (hm : m.Increasing)
    (hsame : ∀ label, m'.valueOf label = m.valueOf label) :
    m'.Increasing
      ∧ m'.inflight.getD 0 + s.phase.inAnalysis = m.inflight.getD 0 + t.phase.inAnalysis
      ∧ ∀ pending, s.phase.Allows pending → t.phase.Allows pending := by
  cases h with
  | skip _ _ hphase hstopped => simpa [hphase, JobPhase.Allows, JobPhase.inAnalysis] using hm
  | begin _ _ hphase hstopped => simpa [hphase, JobPhase.Allows, JobPhase.inAnalysis] using hm
  | fail _ _ hphase hfailed => exact absurd (hsame _) (Metrics.valueOf_record_ne hm outcome time)
  | enter _ _ hphase hloaded =>
    refine ⟨{ hm with }, ?_, by simp [JobPhase.Allows]⟩
    simp [hphase, Metrics.start, JobPhase.inAnalysis]
  | leave _ _ hphase =>
    have hchanged := hsame (.status outcome.status.name)
    rw [Metrics.valueOf_finish] at hchanged
    exact absurd hchanged (Metrics.valueOf_record_ne hm outcome time)
  | store _ _ hphase => simpa [hphase, JobPhase.Allows, JobPhase.inAnalysis] using hm
  | mark _ _ hphase => simpa [hphase, JobPhase.Allows, JobPhase.inAnalysis] using hm

/-! ## What all jobs measure -/

/-- What the job of a module has added to a counter so far. -/
def ModuleOutcome.addedTo (label : Label) (m : ModuleOutcome) : Option (List Addition) → Int
  | none => 0
  | some rest => m.countFor label - total label rest

/-- A job that moves changes the number of analysed modules by its own part. -/
theorem countP_analysing_set {slots : List Slot} {i : Nat} {before : Slot} (h : slots[i]? = some before)
    (after : Slot) :
    (slots.set i after).countP (·.phase == .analysing) + before.phase.inAnalysis
      = slots.countP (·.phase == .analysing) + after.phase.inAnalysis := by
  obtain ⟨front, back, hold, hnew⟩ := Schedule.exists_split h after
  rw [hnew, hold]
  simp only [List.countP_append, List.countP_cons, beq_iff_eq, JobPhase.inAnalysis]
  omega

/-- Where one summand is replaced, the sum changes by the difference. -/
theorem sum_range_update {α : Type} {f : Nat → α → Int} {g : Nat → α} {i size : Nat} (hi : i < size) (a : α) :
    ∑ j ∈ Finset.range size, f j (Function.update g i a j)
      = ∑ j ∈ Finset.range size, f j (g j) - f i (g i) + f i a := by
  have hmem := Finset.mem_range.mpr hi
  have hrest : ∑ j ∈ (Finset.range size).erase i, f j (Function.update g i a j)
      = ∑ j ∈ (Finset.range size).erase i, f j (g j) := by
    apply Finset.sum_congr rfl
    intro j hj
    rw [Function.update_of_ne (Finset.ne_of_mem_erase hj)]
  rw [← Finset.add_sum_erase _ _ hmem, hrest, ← Finset.add_sum_erase _ (fun j => f j (g j)) hmem,
    Function.update_self]
  omega

variable {workers : Nat} {job : Nat → ModuleOutcome} {duration : Nat → Duration}

namespace DetailedSchedule

/-- The gauge tells how many modules are being analysed, and each counter the sum of what the jobs have added to it. -/
structure Measured (job : Nat → ModuleOutcome) (d : DetailedSchedule) : Prop where
  increasing : d.schedule.metrics.Increasing
  gauge : d.schedule.metrics.inflight.getD 0 = (d.schedule.analysing : Int)
  allows : ∀ (i : Nat) (slot : Slot), d.schedule.slots[i]? = some slot → slot.phase.Allows (d.pending i)
  lt_length : ∀ (i : Nat) (rest : List Addition), d.pending i = some rest → i < d.schedule.slots.length
  values : ∀ label, d.schedule.metrics.valueOf label
    = ∑ i ∈ Finset.range d.schedule.slots.length, (job i).addedTo label (d.pending i)

/-- At the start nothing has been measured. -/
theorem measured_start (job : Nat → ModuleOutcome) (size : Nat) : Measured job (start size) := by
  have hslot : ∀ slot ∈ (start size).schedule.slots, slot = Slot.blank :=
    fun slot hslot => List.eq_of_mem_replicate hslot
  constructor
  · exact Metrics.increasing_empty
  · have hnone : (start size).schedule.analysing = 0 := by
      refine List.countP_eq_zero.mpr fun slot hmem => ?_
      rw [hslot slot hmem]
      simp [Slot.blank]
    rw [hnone]
    rfl
  · intro i slot hi
    rw [hslot slot (List.mem_of_getElem? hi)]
    exact rfl
  · intro i rest hrest
    cases hrest
  · intro label
    have hzero : ∑ i ∈ Finset.range (start size).schedule.slots.length,
        (job i).addedTo label ((start size).pending i) = 0 := Finset.sum_eq_zero fun _ _ => rfl
    rw [hzero]
    cases label <;> rfl

variable {d : DetailedSchedule}

/-- A job moves on and nothing is added to a counter. -/
theorem Measured.move {i : Nat} {before after : Slot} {t : Schedule} (h : Measured job d)
    (hslot : d.schedule.slots[i]? = some before) (hslots : t.slots = d.schedule.slots.set i after)
    (hallows : after.phase.Allows (d.pending i)) (hincreasing : t.metrics.Increasing)
    (hgauge : t.metrics.inflight.getD 0 + before.phase.inAnalysis
      = d.schedule.metrics.inflight.getD 0 + after.phase.inAnalysis)
    (hsame : ∀ label, t.metrics.valueOf label = d.schedule.metrics.valueOf label) :
    Measured job { d with schedule := t } := by
  have hlength : t.slots.length = d.schedule.slots.length := by rw [hslots, List.length_set]
  refine { increasing := hincreasing, gauge := ?_, allows := ?_, lt_length := ?_, values := ?_ }
  · have hcount := countP_analysing_set hslot after
    have hold := h.gauge
    unfold Schedule.analysing at hold ⊢
    simp only [hslots]
    omega
  · intro j slot hj
    simp only [hslots] at hj
    rcases Schedule.getElem?_set_cases hj with ⟨rfl, rfl⟩ | ⟨-, hold⟩
    · exact hallows
    · exact h.allows j slot hold
  · intro j rest hrest
    simp only [hlength]
    exact h.lt_length j rest hrest
  · intro label
    simp only [hlength, hsame]
    exact h.values label

/-- A step that adds nothing to a counter keeps the balance. -/
theorem Measured.proceed {t : Schedule} (h : Measured job d) (hsound : d.schedule.Sound job)
    (hstep : Schedule.Step workers job duration d.schedule t)
    (hsame : ∀ label, t.metrics.valueOf label = d.schedule.metrics.valueOf label) :
    Measured job { d with schedule := t } := by
  cases hstep with
  | decide => exact { h with }
  | close => exact { h with }
  | cancel => exact { h with }
  | stop => exact { h with }
  | handOut slot hloop hfree hslot =>
    have hwaiting : slot.phase = .waiting := (hsound.waiting_iff _ _ hslot).mpr (Nat.le_refl _)
    have hnone : d.pending d.schedule.next = none := by
      have hallows := h.allows _ _ hslot
      rwa [hwaiting] at hallows
    exact h.move hslot rfl hnone h.increasing (by simp [hwaiting, JobPhase.inAnalysis]) hsame
  | work i before after metrics hslot hjob =>
    obtain ⟨hincreasing, hgauge, hallows⟩ := hjob.proceed h.increasing hsame
    exact h.move hslot rfl (hallows _ (h.allows i before hslot)) hincreasing hgauge hsame

/-- What a job has pending is replaced, and what goes from it is added to the counters. -/
theorem Measured.replacePending {i : Nat} {slot : Slot} {rest : List Addition} {metrics : Metrics}
    (h : Measured job d) (hslot : d.schedule.slots[i]? = some slot) (hallows : slot.phase.Allows (some rest))
    (hincreasing : metrics.Increasing) (hinflight : metrics.inflight = d.schedule.metrics.inflight)
    (hvalues : ∀ label, metrics.valueOf label = d.schedule.metrics.valueOf label
      - (job i).addedTo label (d.pending i) + (job i).addedTo label (some rest)) :
    Measured job { schedule := { d.schedule with metrics := metrics }
                   pending := Function.update d.pending i (some rest) } := by
  obtain ⟨hi, -⟩ := List.getElem?_eq_some_iff.mp hslot
  refine { increasing := hincreasing, gauge := ?_, allows := ?_, lt_length := ?_, values := ?_ }
  · exact (congrArg (Option.getD · 0) hinflight).trans h.gauge
  · intro j other hj
    show other.phase.Allows (Function.update d.pending i (some rest) j)
    by_cases hji : j = i
    · subst hji
      rw [Function.update_self]
      cases hslot.symm.trans hj
      exact hallows
    · rw [Function.update_of_ne hji]
      exact h.allows j other hj
  · intro j rest' hrest
    by_cases hji : j = i
    · exact hji ▸ hi
    · exact h.lt_length j rest' ((Function.update_of_ne hji ..).symm.trans hrest)
  · intro label
    simp only [hvalues, h.values]
    exact (sum_range_update (f := fun j pending => (job j).addedTo label pending) hi (some rest)).symm

/-- Each step in detail keeps the balance. -/
theorem Measured.step {t : DetailedSchedule} (h : Measured job d) (hsound : d.schedule.Sound job)
    (hstep : Step workers job duration d t) : Measured job t := by
  cases hstep with
  | proceed t hstep hsame => exact h.proceed hsound hstep hsame
  | record i slot hslot hphase hpending =>
    have hallows : slot.phase.Allows (some ((job i).stats (duration i)).additions) := by
      rcases hphase with hphase | ⟨hphase, -⟩ <;> simp [hphase, JobPhase.Allows]
    refine h.replacePending hslot hallows h.increasing rfl fun label => ?_
    simp [hpending, ModuleOutcome.addedTo, total_additions]
  | add i front back a hpending =>
    have hi := h.lt_length i _ hpending
    have hslot := List.getElem?_eq_getElem hi
    have hallows := h.allows i _ hslot
    rw [hpending] at hallows
    refine h.replacePending hslot (hallows.of_pending (front ++ back)) (h.increasing.add a)
      (Metrics.inflight_add _ a) fun label => ?_
    rw [Metrics.valueOf_add h.increasing, hpending]
    simp only [ModuleOutcome.addedTo, total_append, total_cons]
    omega
  | fail i slot hslot hphase hfailed hpending =>
    exact h.move hslot rfl hpending h.increasing (by simp [hphase, JobPhase.inAnalysis]) fun _ => rfl
  | leave i slot hslot hphase hpending =>
    refine h.move hslot rfl hpending { h.increasing with } ?_ fun label => Metrics.valueOf_finish _ label
    simp [hphase, Metrics.finish, JobPhase.inAnalysis]

/-- At any time the counters and the gauge tell what the jobs have done so far. -/
theorem Reaches.measured {size : Nat} (h : Reaches workers job duration size d) : Measured job d := by
  induction h with
  | refl => exact measured_start job size
  | tail hbefore hstep ih => exact ih.step (Reaches.sound hbefore) hstep

/-- When all is done, each counter tells the sum over the modules of the report. -/
theorem Measured.valueOf_eq (h : Measured job d) (hsound : d.schedule.Sound job) (hover : d.schedule.isOver = true)
    (label : Label) :
    d.schedule.metrics.valueOf label
      = ((d.schedule.report.modules.map fun m => m.countFor label).sum : Nat) := by
  let hasRun : Nat → Bool := fun i => d.schedule.slots[i]?.any (·.phase.hasRun)
  have hadded : ∀ i ∈ Finset.range d.schedule.slots.length, (job i).addedTo label (d.pending i)
      = if hasRun i then ((job i).countFor label : Int) else 0 := by
    intro i hi
    have hlt := Finset.mem_range.mp hi
    have hslot := List.getElem?_eq_getElem hlt
    have hallows := h.allows i _ hslot
    have hended := Schedule.Sound.ended_iff_hasRun hover hslot
    simp only [hasRun, hslot]
    cases hphase : (d.schedule.slots[i]).phase <;>
      simp_all [JobPhase.Allows, JobPhase.hasRun, ModuleOutcome.addedTo, total]
  have hran : ((List.range d.schedule.slots.length).filter hasRun).Nodup := List.nodup_range.filter _
  have hmodules : d.schedule.report.modules = d.schedule.ran.map job := by
    rw [hsound.report_eq hover]
    rfl
  calc d.schedule.metrics.valueOf label
      = ∑ i ∈ Finset.range d.schedule.slots.length, if hasRun i then ((job i).countFor label : Int) else 0 := by
        rw [h.values, Finset.sum_congr rfl hadded]
    _ = ∑ i ∈ ((List.range d.schedule.slots.length).filter hasRun).toFinset, ((job i).countFor label : Int) := by
        rw [← Finset.sum_filter]
        congr 1
        ext i
        simp
    _ = ((d.schedule.ran.map fun i => ((job i).countFor label : Int))).sum := List.sum_toFinset _ hran
    _ = ((d.schedule.report.modules.map fun m => m.countFor label).sum : Nat) := by
        rw [hmodules, List.map_map, Nat.cast_list_sum, List.map_map]
        rfl

end DetailedSchedule

/-! ## Metrics and reports -/

namespace Runner

/-- The job of each module of a batch. -/
def jobs (r : Runner) (inputs : List BatchInput) (i : Nat) : ModuleOutcome :=
  (inputs.map r.analyze)[i]?.getD default

/-- The failures of single rules on a module. There are none if it could not be loaded. -/
def ruleErrorsOf (r : Runner) (input : BatchInput) : List RuleError :=
  match input.loaded.error with
  | some _ => []
  | none => (analyzeModule r.rules r.engine (some input.loaded.module)).ruleErrors

/-- The outcome of a module names the rules that failed on it. -/
theorem ruleErrors_analyze (r : Runner) (input : BatchInput) :
    (r.analyze input).ruleErrors = (r.ruleErrorsOf input).map (·.code) := by
  unfold analyze ruleErrorsOf
  cases input.loaded.error <;> rfl

/-- The failures of a rule are counted over all modules. -/
theorem count_ruleErrors_run (r : Runner) (inputs : List BatchInput) (code : String) :
    ((r.run inputs).modules.flatMap (·.ruleErrors)).count code
      = (inputs.flatMap r.ruleErrorsOf).countP (·.code == code) := by
  have hcodes : (r.run inputs).modules.flatMap (·.ruleErrors) = (inputs.flatMap r.ruleErrorsOf).map (·.code) := by
    simp only [run, BatchReport.ofModules, List.flatMap_map, List.map_flatMap, ruleErrors_analyze]
  rw [hcodes, List.count, List.countP_map]
  rfl

end Runner

/-- The metrics of a batch agree with its report. While modules are being analysed the gauge tells how many. When all
is done the counters tell what the report tells, and unless the run was cancelled this is the report about all inputs. -/
structure Schedule.MetricsAgree (r : Runner) (inputs : List BatchInput) (workers : Nat) (s : Schedule) : Prop where
  gauge : s.metrics.inflight.getD 0 = (s.analysing : Int)
  gauge_le : s.metrics.inflight.getD 0 ≤ (workers : Int)
  gauge_over : s.isOver = true → s.metrics.inflight.getD 0 = 0
  modules : s.isOver = true → ∀ name,
    s.metrics.modules.value name = (s.report.modules.countP fun m => m.status.name == name : Nat)
  violations : s.isOver = true → ∀ severity, s.metrics.violations.value severity = (s.report.countOf severity : Nat)
  ruleErrors : s.isOver = true → ∀ code,
    s.metrics.ruleErrors.value code = ((s.report.modules.flatMap (·.ruleErrors)).count code : Nat)
  report : s.isOver = true → s.cancelled = false → s.report = r.run inputs
  allRuleErrors : s.isOver = true → s.cancelled = false → ∀ code,
    s.metrics.ruleErrors.value code = ((inputs.flatMap r.ruleErrorsOf).countP (·.code == code) : Nat)

namespace BatchReport

/-- All modules together count for their statuses. -/
theorem sum_countFor_status (modules : List ModuleOutcome) (name : String) :
    (modules.map fun m => m.countFor (.status name)).sum = modules.countP fun m => m.status.name == name := by
  have hsum := sum_map_ite_one (R := Nat) (fun m : ModuleOutcome => m.status.name == name) modules
  simpa only [beq_iff_eq, Nat.cast_id, ModuleOutcome.countFor] using hsum

/-- All modules together count for the severities of their violations. -/
theorem sum_countFor_severity (modules : List ModuleOutcome) (severity : String) :
    (modules.map fun m => m.countFor (.severity severity)).sum = (ofModules modules).countOf severity := by
  rw [countOf, ofModules, (Violation.sort_perm _).countP_eq, List.countP_flatMap]
  rfl

/-- All modules together count for the rules that failed on them. -/
theorem sum_countFor_rule (modules : List ModuleOutcome) (code : String) :
    (modules.map fun m => m.countFor (.rule code)).sum = (modules.flatMap (·.ruleErrors)).count code := by
  rw [List.count_flatMap]
  rfl

end BatchReport

/-- A job in the analysis is busy. -/
theorem Schedule.analysing_le_busy (s : Schedule) : s.analysing ≤ s.busy := by
  apply List.countP_mono_left
  intro slot _ hphase
  rw [eq_of_beq hphase]
  rfl

/-- At the start no job is busy. -/
theorem Schedule.busy_start (size : Nat) : (start size).busy = 0 := by
  refine List.countP_eq_zero.mpr fun slot hslot => ?_
  rw [List.eq_of_mem_replicate hslot]
  simp [Slot.blank, JobPhase.isBusy]

namespace DetailedSchedule

/-- In detail too there are never more busy jobs than workers. -/
theorem Reaches.busy_le {size : Nat} {d : DetailedSchedule} (h : Reaches workers job duration size d) :
    d.schedule.busy ≤ workers := by
  obtain ⟨metrics, hreaches⟩ := h.exists_reaches
  have hidle : (Schedule.start size).busy ≤ workers := by
    rw [Schedule.busy_start]
    exact Nat.zero_le _
  have hbound := Schedule.busy_le_of_reaches hidle hreaches
  exact hbound

variable {r : Runner} {inputs : List BatchInput} {d : DetailedSchedule}
  (h : Reaches workers (r.jobs inputs) duration inputs.length d)
include h

/-- The report of a run that was not cancelled is that of the modules one after another. -/
theorem Reaches.report_eq_run (hover : d.schedule.isOver = true) (hcancelled : d.schedule.cancelled = false) :
    d.schedule.report = r.run inputs := by
  obtain ⟨metrics, hreaches⟩ := h.exists_reaches
  have hreport := Schedule.report_eq_run r inputs hreaches hover hcancelled
  exact hreport

/-- At any time the gauge, and in the end the counters, agree with the report. -/
theorem Reaches.metricsAgree : d.schedule.MetricsAgree r inputs workers := by
  have hmeasured := h.measured
  have hbusy := h.busy_le
  have hanalysing := d.schedule.analysing_le_busy
  have hvalue := fun hover => hmeasured.valueOf_eq h.sound hover
  have hruleErrors : d.schedule.isOver = true → ∀ code, d.schedule.metrics.ruleErrors.value code
      = ((d.schedule.report.modules.flatMap (·.ruleErrors)).count code : Nat) := by
    intro hover code
    rw [← BatchReport.sum_countFor_rule]
    exact hvalue hover (.rule code)
  refine { gauge := hmeasured.gauge, gauge_le := ?_, gauge_over := ?_, modules := ?_, violations := ?_,
           ruleErrors := hruleErrors, report := h.report_eq_run, allRuleErrors := ?_ }
  · rw [hmeasured.gauge]
    omega
  · intro hover
    simp only [Schedule.isOver, Bool.and_eq_true, beq_iff_eq] at hover
    rw [hmeasured.gauge]
    omega
  · intro hover name
    rw [← BatchReport.sum_countFor_status]
    exact hvalue hover (.status name)
  · intro hover severity
    have hreport : d.schedule.report = BatchReport.ofModules d.schedule.report.modules := by
      rw [h.sound.report_eq hover]
      rfl
    rw [hreport, ← BatchReport.sum_countFor_severity]
    exact hvalue hover (.severity severity)
  · intro hover hcancelled code
    rw [hruleErrors hover, h.report_eq_run hover hcancelled, Runner.count_ruleErrors_run]

end DetailedSchedule

/-- Whatever the workers do, and whether a job records its module at once or piece by piece between the steps of the
others, the metrics agree with the report. -/
theorem metrics_agree_with_report (r : Runner) (inputs : List BatchInput) (workers : Nat) (duration : Nat → Duration) :
    (∀ d, DetailedSchedule.Reaches workers (r.jobs inputs) duration inputs.length d →
      d.schedule.MetricsAgree r inputs workers)
    ∧ ∀ s, Schedule.Reaches workers (r.jobs inputs) duration (Schedule.start inputs.length) s →
      s.MetricsAgree r inputs workers := by
  constructor
  · intro d h
    exact h.metricsAgree
  · intro s h
    obtain ⟨d, hreaches, -, rfl⟩ := DetailedSchedule.exists_of_reaches h
    exact hreaches.metricsAgree

/-- A batch of a module that could not be loaded, one on which rules fail and an empty one. -/
def mixedBatch : List BatchInput :=
  [{ path := "broken.json", loaded := Loader.fail "broken.json" "broken" .malformed [] [] },
    .ofModule (some twoDeclarations), .ofModule none]

def alarmedRunner : Runner := { rules := [complaining, alarmed] }

/-- What a batch with a failing module counts of a severity. -/
theorem countOf_mixedBatch (severity : String) :
    (alarmedRunner.run mixedBatch).countOf severity
      = ([twoDeclarations, Module.empty ""].flatMap fun m => findings alarmedRunner.rules (looks {} m)).countP
          fun v => v.severity == severity := by
  have hperm : ∀ m, (alarmedRunner.analyze (.ofModule (some m))).violations.Perm
      (findings alarmedRunner.rules (looks {} m)) :=
    fun m => violations_perm_findings alarmedRunner.rules {} m
  have hmodules : (alarmedRunner.run mixedBatch).violations.Perm
      ([twoDeclarations, Module.empty ""].flatMap fun m => findings alarmedRunner.rules (looks {} m)) :=
    (Violation.sort_perm _).trans ((hperm twoDeclarations).append ((hperm (Module.empty "")).append .nil))
  exact hmodules.countP_eq _

/-- Two workers analyse the batch and are not cancelled. -/
theorem metrics_agree_with_report_mixedBatch :
    ∃ d, DetailedSchedule.Reaches 2 (alarmedRunner.jobs mixedBatch) Schedule.noTime 3 d
      ∧ d.schedule.isOver = true ∧ d.schedule.cancelled = false
      ∧ d.schedule.metrics.inflight.getD 0 = 0
      ∧ ["failed", "degraded", "ok"].map d.schedule.metrics.modules.value = [1, 1, 1]
      ∧ ["INFO", "ERROR"].map d.schedule.metrics.violations.value = [2, 2]
      ∧ ["SEEN", "ALARM"].map d.schedule.metrics.ruleErrors.value = [2, 2] := by
  have hsound := Schedule.sound_start (alarmedRunner.jobs mixedBatch) 3
  obtain ⟨s, hs, hover, hcancelled⟩ :
      ∃ s, Schedule.Reaches 2 (alarmedRunner.jobs mixedBatch) Schedule.noTime (Schedule.start 3) s
        ∧ s.isOver = true ∧ s.cancelled = false :=
    Schedule.exists_isOver_of_sound Nat.two_pos hsound
  obtain ⟨d, hd, -, rfl⟩ := DetailedSchedule.exists_of_reaches hs
  have hagree := (metrics_agree_with_report alarmedRunner mixedBatch 2 Schedule.noTime).1 d hd
  have hreport := hagree.report hover hcancelled
  refine ⟨d, hd, hover, hcancelled, hagree.gauge_over hover, ?_, ?_, ?_⟩
  · simp only [List.map_cons, List.map_nil, hagree.modules hover, hreport]
    decide +kernel
  · simp only [List.map_cons, List.map_nil, hagree.violations hover, hreport, countOf_mixedBatch]
    decide +kernel
  · simp only [List.map_cons, List.map_nil, hagree.allRuleErrors hover hcancelled]
    decide +kernel

end ModuleLint
