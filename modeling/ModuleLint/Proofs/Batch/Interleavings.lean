import Mathlib.Data.List.Induction
import ModuleLint.Batch.Schedule

/-!
# Every schedule of a batch tells the same

Whatever the order in which jobs start and end, a slot is written by its own job only, and it becomes valid after
that (`Slot.Sound`). Once nothing more can happen, the valid slots are therefore those of the jobs that have run, and
the report tells their outcomes in the order of the inputs. A job is left out only in a run that was cancelled
(`Sound`), so that all uncancelled runs end in one report, however many workers there are.

Runs do end: each step uses up some of the work that is left (`work_lt_of_step`), and as long as something is left to
do there is a step that does some of it (`exists_step_of_not_isOver`).
-/

set_option autoImplicit false

namespace ModuleLint

/-! ## One slot -/

namespace JobPhase

/-- How many steps are left for a job at most, the two steps of handing it out included. -/
def work : JobPhase → Nat
  | waiting => 7
  | handedOut => 5
  | loading => 4
  | analysing => 3
  | returned => 2
  | stored => 1
  | ended => 0
  | skipped => 0

end JobPhase

namespace Slot

/-- What is stored in a slot comes from its job, it is valid when the job has ended, and only in a run that was
stopped the job is skipped. -/
structure Sound (outcome : ModuleOutcome) (stopped : Bool) (s : Slot) : Prop where
  outcome_eq : s.phase = .stored ∨ s.phase = .ended → s.outcome = outcome
  valid_iff : s.valid = true ↔ s.phase = .ended
  stopped_of_skipped : s.phase = .skipped → stopped = true

/-- A slot that has not been touched is sound. -/
theorem sound_blank (outcome : ModuleOutcome) (stopped : Bool) : blank.Sound outcome stopped := by
  constructor <;> simp [blank]

variable {outcome : ModuleOutcome} {stats : Telemetry.ModuleStats} {stopped : Bool} {s t : Slot}
  {m m' : Telemetry.Metrics}

/-- A step of its job keeps a slot sound. -/
theorem Sound.step (h : s.Sound outcome stopped) (hstep : Step outcome stats stopped (s, m) (t, m')) :
    t.Sound outcome stopped := by
  have hvalid := h.valid_iff
  have houtcome := h.outcome_eq
  cases hstep <;> constructor <;> simp_all

/-- A job that does something is busy before, has been handed out and comes closer to its end. -/
theorem phase_of_step (hstep : Step outcome stats stopped (s, m) (t, m')) :
    s.phase.isBusy = true ∧ t.phase ≠ .waiting ∧ t.phase.work < s.phase.work := by
  cases hstep <;> simp_all [JobPhase.isBusy, JobPhase.work]

/-- A busy job can always go on. -/
theorem exists_step_of_isBusy (outcome : ModuleOutcome) (stats : Telemetry.ModuleStats)
    (stopped : Bool) (m : Telemetry.Metrics) (h : s.phase.isBusy = true) :
    ∃ t m', Step outcome stats stopped (s, m) (t, m') := by
  cases hphase : s.phase with
  | waiting => simp [hphase, JobPhase.isBusy] at h
  | ended => simp [hphase, JobPhase.isBusy] at h
  | skipped => simp [hphase, JobPhase.isBusy] at h
  | handedOut =>
    cases hstopped : stopped with
    | true => exact ⟨_, _, .skip s m hphase rfl⟩
    | false => exact ⟨_, _, .begin s m hphase rfl⟩
  | loading =>
    by_cases hfailed : outcome.status = .failed
    · exact ⟨_, _, .fail s m hphase hfailed⟩
    · exact ⟨_, _, .enter s m hphase hfailed⟩
  | analysing => exact ⟨_, _, .leave s m hphase⟩
  | returned => exact ⟨_, _, .store s m hphase⟩
  | stored => exact ⟨_, _, .mark s m hphase⟩

end Slot

/-! ## All slots together -/

namespace Schedule

variable {workers : Nat} {job : Nat → ModuleOutcome} {duration : Nat → Duration} {s t : Schedule}

/-- Every slot is sound, the slots from `next` on are those that wait, and what stops the loop or a job is that the run
was cancelled. -/
structure Sound (job : Nat → ModuleOutcome) (s : Schedule) : Prop where
  slot : ∀ (i : Nat) (slot : Slot), s.slots[i]? = some slot → slot.Sound (job i) s.stopped
  waiting_iff : ∀ (i : Nat) (slot : Slot), s.slots[i]? = some slot → (slot.phase = .waiting ↔ s.next ≤ i)
  next_le : s.next ≤ s.slots.length
  next_lt_of_committed : s.loop = .committed → s.next < s.slots.length
  stopped_of_closed : s.loop = .closed → s.stopped = true
  stopped_of_failed : s.failed = true → s.stopped = true
  cancelled_of_stopped : s.stopped = true → s.cancelled = true

/-- At the start all slots wait. -/
theorem sound_start (job : Nat → ModuleOutcome) (size : Nat) : (start size).Sound job := by
  have hslot : ∀ (i : Nat) (slot : Slot), (start size).slots[i]? = some slot → slot = Slot.blank := by
    intro i slot hi
    exact List.eq_of_mem_replicate (List.mem_of_getElem? hi)
  constructor
  · intro i slot hi
    rw [hslot i slot hi]
    exact Slot.sound_blank ..
  · intro i slot hi
    rw [hslot i slot hi]
    simp [Slot.blank, start]
  · exact Nat.zero_le _
  · simp [start]
  · simp [start]
  · simp [start]
  · simp [start]

/-- After a slot was replaced each slot is the new one or stands where it stood. -/
theorem getElem?_set_cases {slots : List Slot} {i j : Nat} {new slot : Slot}
    (h : (slots.set i new)[j]? = some slot) : (j = i ∧ slot = new) ∨ (j ≠ i ∧ slots[j]? = some slot) := by
  rw [List.getElem?_set] at h
  by_cases hij : i = j
  · simp only [hij, if_true] at h
    split at h
    · exact Or.inl ⟨hij.symm, (Option.some.inj h).symm⟩
    · exact absurd h (by simp)
  · simp only [hij, if_false] at h
    exact Or.inr ⟨fun hji => hij hji.symm, h⟩

/-- A job that is handed out is the next of those that wait. -/
theorem Sound.handOut {slot : Slot} (h : s.Sound job) (hslot : s.slots[s.next]? = some slot)
    (hloop : s.loop = .committed) :
    Sound job { s with
      slots := s.slots.set s.next { slot with phase := .handedOut }, loop := .deciding, next := s.next + 1 } := by
  have hwaiting : slot.phase = .waiting := (h.waiting_iff _ _ hslot).mpr (Nat.le_refl _)
  have hlt := h.next_lt_of_committed hloop
  constructor
  · intro i new hi
    rcases getElem?_set_cases hi with ⟨rfl, rfl⟩ | ⟨-, hold⟩
    · have hold := h.slot _ _ hslot
      constructor
      · simp
      · simpa [hwaiting] using hold.valid_iff
      · simp
    · exact h.slot i new hold
  · intro i new hi
    rcases getElem?_set_cases hi with ⟨rfl, rfl⟩ | ⟨hne, hold⟩
    · simp
    · rw [h.waiting_iff i new hold]
      constructor
      · intro hle
        exact Nat.lt_of_le_of_ne hle (Ne.symm hne)
      · intro hle
        exact Nat.le_of_succ_le hle
  · simpa using Nat.succ_le_of_lt hlt
  · simp
  · simp
  · exact h.stopped_of_failed
  · exact h.cancelled_of_stopped

/-- A job that moves on changes its own slot only. -/
theorem Sound.work {i : Nat} {before after : Slot} {metrics : Telemetry.Metrics} (h : s.Sound job)
    (hslot : s.slots[i]? = some before)
    (hstep : Slot.Step (job i) ((job i).stats (duration i)) s.stopped (before, s.metrics) (after, metrics)) :
    Sound job { s with
      slots := s.slots.set i after, failed := s.failed || after.phase == .skipped, metrics := metrics } := by
  have hafter := (h.slot i before hslot).step hstep
  obtain ⟨hbusy, hhanded, -⟩ := Slot.phase_of_step hstep
  constructor
  · intro j new hj
    rcases getElem?_set_cases hj with ⟨rfl, rfl⟩ | ⟨-, hold⟩
    · exact hafter
    · exact h.slot j new hold
  · intro j new hj
    rcases getElem?_set_cases hj with ⟨rfl, rfl⟩ | ⟨-, hold⟩
    · have hnot : ¬ s.next ≤ j := by
        rw [← h.waiting_iff j before hslot]
        intro hwaiting
        simp [hwaiting, JobPhase.isBusy] at hbusy
      simp [hhanded, hnot]
    · exact h.waiting_iff j new hold
  · simpa using h.next_le
  · simpa using h.next_lt_of_committed
  · exact h.stopped_of_closed
  · simp only [Bool.or_eq_true, beq_iff_eq]
    rintro (hfailed | hskipped)
    · exact h.stopped_of_failed hfailed
    · exact hafter.stopped_of_skipped hskipped
  · exact h.cancelled_of_stopped

/-- Each step keeps a schedule sound. -/
theorem Sound.step (h : s.Sound job) (hstep : Step workers job duration s t) : t.Sound job := by
  cases hstep with
  | decide hloop hlt hrunning => exact { h with next_lt_of_committed := fun _ => hlt, stopped_of_closed := by simp }
  | close hloop hlt hstopped => exact { h with next_lt_of_committed := by simp, stopped_of_closed := fun _ => hstopped }
  | handOut slot hloop hfree hslot => exact h.handOut hslot hloop
  | cancel hrunning => exact { h with cancelled_of_stopped := fun _ => rfl }
  | stop hcancelled hrunning =>
    refine { h with slot := ?_, stopped_of_closed := ?_, stopped_of_failed := ?_, cancelled_of_stopped := ?_ }
    · intro i slot hi
      exact { h.slot i slot hi with stopped_of_skipped := fun _ => rfl }
    · intro _
      rfl
    · intro _
      rfl
    · intro _
      exact hcancelled
  | work i before after metrics hslot hjob => exact h.work hslot hjob

/-- Any number of steps keeps a schedule sound. -/
theorem Sound.reaches (h : s.Sound job) (hreaches : Reaches workers job duration s t) : t.Sound job := by
  induction hreaches with
  | here => exact h
  | step _ hstep ih => exact ih.step hstep

/-- There are always as many slots as at the start. -/
theorem length_slots_of_reaches (h : Reaches workers job duration s t) : t.slots.length = s.slots.length := by
  induction h with
  | here => rfl
  | step _ hstep ih => cases hstep <;> simp_all

/-- Steps after steps. -/
theorem Reaches.trans {first : Schedule} (h : Reaches workers job duration first s)
    (h' : Reaches workers job duration s t) : Reaches workers job duration first t := by
  induction h' with
  | here => exact h
  | step _ hstep ih => exact ih.step hstep

/-! ## Workers -/

/-- A slot among the others before and after it was replaced. -/
theorem exists_split {slots : List Slot} {i : Nat} {old : Slot} (h : slots[i]? = some old) (new : Slot) :
    ∃ front back, slots = front ++ old :: back ∧ slots.set i new = front ++ new :: back := by
  obtain ⟨hi, hold⟩ := List.getElem?_eq_some_iff.mp h
  refine ⟨slots.take i, slots.drop (i + 1), ?_, List.set_eq_take_append_cons_drop.trans (if_pos hi)⟩
  rw [← hold, List.getElem_cons_drop, List.take_append_drop]

/-- No step makes more jobs busy than there are workers. -/
theorem busy_le_of_step (hbusy : s.busy ≤ workers) (hstep : Step workers job duration s t) : t.busy ≤ workers := by
  cases hstep with
  | decide => exact hbusy
  | close => exact hbusy
  | cancel => exact hbusy
  | stop => exact hbusy
  | handOut slot hloop hfree hslot =>
    obtain ⟨front, back, hold, hnew⟩ := exists_split hslot { slot with phase := .handedOut }
    have hhanded : JobPhase.handedOut.isBusy = true := rfl
    simp only [busy, hnew]
    simp only [busy, hold] at hfree
    simp only [List.countP_append, List.countP_cons, hhanded, if_true] at hfree ⊢
    omega
  | work i before after metrics hslot hjob =>
    obtain ⟨front, back, hold, hnew⟩ := exists_split hslot after
    have hbefore := (Slot.phase_of_step hjob).1
    simp only [busy, hnew]
    simp only [busy, hold] at hbusy
    simp only [List.countP_append, List.countP_cons, hbefore, if_true] at hbusy ⊢
    split <;> omega

/-- There are never more busy jobs than workers. -/
theorem busy_le_of_reaches (hbusy : s.busy ≤ workers) (h : Reaches workers job duration s t) :
    t.busy ≤ workers := by
  induction h with
  | here => exact hbusy
  | step _ hstep ih => exact busy_le_of_step ih hstep

/-! ## Runs end -/

/-- The work that is left for all jobs together. -/
def workOf : List Slot → Nat
  | [] => 0
  | slot :: rest => slot.phase.work + workOf rest

/-- The work of all slots is that of its parts. -/
theorem workOf_append (front back : List Slot) : workOf (front ++ back) = workOf front + workOf back := by
  induction front with
  | nil => simp [workOf]
  | cons slot rest ih =>
    simp only [List.cons_append, workOf, ih]
    omega

/-- A bound for the number of steps that can still happen. -/
def work (s : Schedule) : Nat :=
  workOf s.slots + (if s.loop = .deciding then 1 else 0)
    + (if s.cancelled then 0 else 1) + (if s.stopped then 0 else 1)

/-- Each step leaves less work, so a schedule comes to its end. -/
theorem work_lt_of_step (h : s.Sound job) (hstep : Step workers job duration s t) : t.work < s.work := by
  cases hstep with
  | decide hloop => simp [work, hloop]
  | close hloop => simp [work, hloop]
  | cancel hrunning => simp [work, hrunning]
  | stop hcancelled hrunning => simp [work, hrunning]
  | handOut slot hloop hfree hslot =>
    obtain ⟨front, back, hold, hnew⟩ := exists_split hslot { slot with phase := .handedOut }
    have hwaiting : slot.phase = .waiting := (h.waiting_iff _ _ hslot).mpr (Nat.le_refl _)
    have hless : JobPhase.handedOut.work + 1 < slot.phase.work := by simp [hwaiting, JobPhase.work]
    simp only [work, hnew, hloop]
    rw [hold]
    simp only [workOf_append, workOf, if_true, reduceCtorEq, if_false]
    omega
  | work i before after metrics hslot hjob =>
    obtain ⟨front, back, hold, hnew⟩ := exists_split hslot after
    have hless := (Slot.phase_of_step hjob).2.2
    simp only [work, hnew]
    rw [hold]
    simp only [workOf_append, workOf]
    omega

/-- As long as something is left to do, it can be done without the run being cancelled. -/
theorem exists_step_of_not_isOver (hworkers : 0 < workers) (h : s.Sound job) (hover : s.isOver = false) :
    ∃ t, Step workers job duration s t ∧ t.cancelled = s.cancelled := by
  by_cases hidle : s.busy = 0
  · have hloop : s.isHandedOut = false := by simpa [isOver, hidle] using hover
    cases hphase : s.loop with
    | closed => simp [isHandedOut, hphase] at hloop
    | committed =>
      have hslot := List.getElem?_eq_getElem (h.next_lt_of_committed hphase)
      exact ⟨_, .handOut s _ hphase (by omega) hslot, rfl⟩
    | deciding =>
      have hlt : s.next < s.slots.length := by
        apply Nat.lt_of_le_of_ne h.next_le
        simpa [isHandedOut, hphase] using hloop
      cases hstopped : s.stopped with
      | true => exact ⟨_, .close s hphase hlt hstopped, rfl⟩
      | false => exact ⟨_, .decide s hphase hlt hstopped, rfl⟩
  · obtain ⟨slot, hmem, hbusy⟩ := List.countP_pos_iff.mp (Nat.pos_of_ne_zero hidle)
    obtain ⟨i, hi⟩ := List.mem_iff_getElem?.mp hmem
    obtain ⟨after, metrics, hjob⟩ := Slot.exists_step_of_isBusy (job i) ((job i).stats (duration i))
      s.stopped s.metrics hbusy
    exact ⟨_, .work s i slot after metrics hi hjob, rfl⟩

/-- With a worker, a schedule can be brought to its end without being cancelled. -/
theorem exists_isOver_of_sound (hworkers : 0 < workers) (h : s.Sound job) :
    ∃ t, Reaches workers job duration s t ∧ t.isOver = true ∧ t.cancelled = s.cancelled := by
  induction hwork : s.work using Nat.strongRecOn generalizing s with
  | ind n ih =>
    cases hover : s.isOver with
    | true => exact ⟨s, .here, hover, rfl⟩
    | false =>
      obtain ⟨r, hstep, hsame⟩ :
          ∃ r, Step workers job duration s r ∧ r.cancelled = s.cancelled :=
        exists_step_of_not_isOver hworkers h hover
      have hless := work_lt_of_step h hstep
      obtain ⟨t, hreaches, hdone, hcancelled⟩ := ih r.work (hwork ▸ hless) (h.step hstep) rfl
      exact ⟨t, (Reaches.here.step hstep).trans hreaches, hdone, hcancelled.trans hsame⟩

/-- No run goes on for ever. -/
theorem exists_not_step (run : Nat → Schedule) (h : (run 0).Sound job) :
    ∃ k, ¬ Step workers job duration (run k) (run (k + 1)) := by
  by_contra hall
  push Not at hall
  have hsound : ∀ k, (run k).Sound job := by
    intro k
    induction k with
    | zero => exact h
    | succ k ih => exact ih.step (hall k)
  have hbound : ∀ k, (run k).work + k ≤ (run 0).work := by
    intro k
    induction k with
    | zero => exact Nat.le_refl _
    | succ k ih =>
      have hless := work_lt_of_step (hsound k) (hall k)
      omega
  have htooFar := hbound ((run 0).work + 1)
  omega

/-! ## The report -/

/-- Only valid slots are added to a report. -/
theorem foldl_add (slots : List Slot) (r : BatchReport) :
    slots.foldl (fun r slot => if slot.valid then r.add slot.outcome else r) r
      = ((slots.filter (·.valid)).map (·.outcome)).foldl BatchReport.add r := by
  induction slots generalizing r with
  | nil => rfl
  | cons slot rest ih =>
    cases hvalid : slot.valid <;> simp [hvalid, ih]

/-- A report made module by module is that of all modules. -/
theorem finish_foldl_add (modules : List ModuleOutcome) :
    (modules.foldl BatchReport.add BatchReport.empty).finish = BatchReport.ofModules modules := by
  have hfold : ∀ r : BatchReport, modules.foldl BatchReport.add r
      = { modules := r.modules ++ modules, violations := r.violations ++ modules.flatMap (·.violations) } := by
    induction modules with
    | nil => simp
    | cons m rest ih =>
      intro r
      simp [ih, BatchReport.add]
  rw [hfold]
  simp [BatchReport.finish, BatchReport.ofModules, BatchReport.empty]

/-- The modules whose jobs have run, in the order of the inputs. -/
def ran (s : Schedule) : List Nat :=
  (List.range s.slots.length).filter fun i => s.slots[i]?.any (·.phase.hasRun)

/-- Outcomes picked by their numbers are those of the slots that are picked. -/
theorem map_filter_range {slots : List Slot} {p : Slot → Bool} {f : Nat → ModuleOutcome}
    (h : ∀ i slot, slots[i]? = some slot → p slot = true → slot.outcome = f i) :
    ((List.range slots.length).filter fun i => slots[i]?.any p).map f = (slots.filter p).map (·.outcome) := by
  induction slots using List.reverseRecOn with
  | nil => rfl
  | append_singleton slots slot ih =>
    have hold : ∀ i, i < slots.length → (slots ++ [slot])[i]? = slots[i]? := by
      intro i hi
      exact List.getElem?_append_left hi
    have hfront : ((List.range slots.length).filter fun i => (slots ++ [slot])[i]?.any p)
        = (List.range slots.length).filter fun i => slots[i]?.any p := by
      apply List.filter_congr
      intro i hi
      rw [hold i (List.mem_range.mp hi)]
    have hlast : (slots ++ [slot])[slots.length]? = some slot := by simp
    have hrest := ih fun i old hi hp => h i old (by
      rw [hold i (List.getElem?_eq_some_iff.mp hi).1]
      exact hi) hp
    rw [List.length_append, List.length_singleton, List.range_succ, List.filter_append, List.map_append, hfront,
      hrest, List.filter_append, List.map_append]
    congr 1
    cases hp : p slot with
    | false => simp [hp]
    | true => simp [hp, h slots.length slot hlast hp]

/-- In a run that is over each job that has run has ended. -/
theorem Sound.ended_iff_hasRun {i : Nat} {slot : Slot} (hover : s.isOver = true)
    (hslot : s.slots[i]? = some slot) : slot.phase.hasRun = true ↔ slot.phase = .ended := by
  have hidle : s.busy = 0 := by
    simp only [isOver, Bool.and_eq_true, beq_iff_eq] at hover
    exact hover.2
  have hbusy := List.countP_eq_zero.mp hidle slot (List.mem_of_getElem? hslot)
  cases hphase : slot.phase <;> simp_all [JobPhase.isBusy, JobPhase.hasRun]

/-- The report of a run that is over is about the modules that were analysed, in their order. -/
theorem Sound.report_eq (h : s.Sound job) (hover : s.isOver = true) :
    s.report = BatchReport.ofModules (s.ran.map job) := by
  have hvalid : ∀ slot ∈ s.slots, slot.valid = slot.phase.hasRun := by
    intro slot hmem
    obtain ⟨i, hi⟩ := List.mem_iff_getElem?.mp hmem
    rw [Bool.eq_iff_iff, (h.slot i slot hi).valid_iff, Sound.ended_iff_hasRun hover hi]
  have houtcome : ∀ i slot, s.slots[i]? = some slot → slot.phase.hasRun = true → slot.outcome = job i := by
    intro i slot hi hrun
    have hended := (Sound.ended_iff_hasRun hover hi).mp hrun
    exact (h.slot i slot hi).outcome_eq (Or.inr hended)
  rw [report, foldl_add, finish_foldl_add, ran, map_filter_range houtcome, List.filter_congr hvalid]

/-- In a run that is not cancelled all jobs run. -/
theorem Sound.ran_eq_range (h : s.Sound job) (hover : s.isOver = true) (hcancelled : s.cancelled = false) :
    s.ran = List.range s.slots.length := by
  have hrunning : s.stopped = false := by
    by_contra hstopped
    simp [h.cancelled_of_stopped (by simpa using hstopped)] at hcancelled
  have hnext : s.next = s.slots.length := by
    have hloop : s.loop ≠ .closed := by
      intro hclosed
      simp [h.stopped_of_closed hclosed] at hrunning
    simp only [isOver, isHandedOut, Bool.and_eq_true, Bool.or_eq_true, beq_iff_eq] at hover
    rcases hover.1 with hclosed | ⟨-, hnext⟩
    · exact absurd hclosed hloop
    · exact hnext
  apply List.filter_eq_self.mpr
  intro i hi
  have hlt := List.mem_range.mp hi
  have hslot := List.getElem?_eq_getElem hlt
  have hhanded : s.slots[i].phase ≠ .waiting := by
    rw [Ne, h.waiting_iff i _ hslot, hnext]
    omega
  have hdone : s.slots[i].phase ≠ .skipped := by
    intro hskipped
    simp [(h.slot i _ hslot).stopped_of_skipped hskipped] at hrunning
  have hidle : ¬ s.slots[i].phase.isBusy = true := by
    simp only [isOver, Bool.and_eq_true, beq_iff_eq] at hover
    exact List.countP_eq_zero.mp hover.2 _ (List.getElem_mem hlt)
  rw [hslot]
  cases hphase : s.slots[i].phase <;> simp_all [JobPhase.isBusy, JobPhase.hasRun]

/-- A run gives a reason for stopping just if it was cancelled. -/
theorem Sound.stopReason_eq (h : s.Sound job) :
    s.stopReason = if s.cancelled then some Runner.cancellation else none := by
  unfold stopReason
  cases hcancelled : s.cancelled with
  | true => rfl
  | false =>
    have hfailed : s.failed = false := by
      by_contra hfailed
      have hstopped := h.stopped_of_failed (by simpa using hfailed)
      simp [h.cancelled_of_stopped hstopped] at hcancelled
    simp [hfailed]

/-- There is a slot for each module. -/
theorem length_slots_of_reaches_start {size : Nat} (hs : Reaches workers job duration (start size) s) :
    s.slots.length = size := by
  rw [length_slots_of_reaches hs]
  exact List.length_replicate

/-- In a run that was not cancelled all jobs tell their outcomes. -/
theorem report_eq_of_not_cancelled {size : Nat} (hs : Reaches workers job duration (start size) s)
    (hover : s.isOver = true) (hcancelled : s.cancelled = false) :
    s.report = BatchReport.ofModules ((List.range size).map job) := by
  have hsound := (sound_start job size).reaches hs
  rw [hsound.report_eq hover, hsound.ran_eq_range hover hcancelled, length_slots_of_reaches_start hs]

/-- A batch tells what its jobs tell. Workers are never overcommitted, every run comes to an end, and at its end the
report holds the outcomes of the jobs that have run, in the order of the inputs and each just once. Only a cancelled
run gives a reason for stopping; in any other one all jobs run, so that two such runs end in the same report whatever
their workers do. -/
theorem report_independent_of_schedule (job : Nat → ModuleOutcome) (duration : Nat → Duration) (size : Nat)
    {workers : Nat} (hworkers : 0 < workers) :
    (∀ s, Reaches workers job duration (start size) s →
      s.busy ≤ workers
      ∧ ∃ t, Reaches workers job duration s t ∧ t.isOver = true ∧ t.cancelled = s.cancelled)
    ∧ (∀ run : Nat → Schedule, run 0 = start size → ∃ k, ¬ Step workers job duration (run k) (run (k + 1)))
    ∧ (∀ s, Reaches workers job duration (start size) s → s.isOver = true →
      s.report.modules = s.ran.map job
      ∧ s.report.violations = Violation.sort (s.report.modules.flatMap (·.violations))
      ∧ (s.cancelled = false → s.ran = List.range size ∧ s.stopReason = none)
      ∧ (s.stopReason ≠ none → s.cancelled = true))
    ∧ ∀ workers' duration' s s',
      Reaches workers job duration (start size) s → s.isOver = true → s.cancelled = false →
      Reaches workers' job duration' (start size) s' → s'.isOver = true → s'.cancelled = false →
      s.report.modules = s'.report.modules ∧ s.report.violations = s'.report.violations := by
  refine ⟨?_, ?_, ?_, ?_⟩
  · intro s hs
    have hidle : (start size).busy ≤ workers := by
      have : (start size).busy = 0 := List.countP_eq_zero.mpr fun slot hslot => by
        rw [List.eq_of_mem_replicate hslot]
        simp [Slot.blank, JobPhase.isBusy]
      omega
    exact ⟨busy_le_of_reaches hidle hs, exists_isOver_of_sound hworkers ((sound_start job size).reaches hs)⟩
  · intro run hrun
    exact exists_not_step run (hrun ▸ sound_start job size)
  · intro s hs hover
    have hsound := (sound_start job size).reaches hs
    refine ⟨?_, ?_, ?_, ?_⟩
    · rw [hsound.report_eq hover]
      rfl
    · rw [hsound.report_eq hover]
      rfl
    · intro hcancelled
      rw [hsound.ran_eq_range hover hcancelled, length_slots_of_reaches_start hs, hsound.stopReason_eq, hcancelled]
      exact ⟨rfl, rfl⟩
    · intro hreason
      by_contra hcancelled
      simp [hsound.stopReason_eq, hcancelled] at hreason
  · intro workers' duration' s s' hs hover hcancelled hs' hover' hcancelled'
    rw [report_eq_of_not_cancelled hs hover hcancelled, report_eq_of_not_cancelled hs' hover' hcancelled']
    exact ⟨rfl, rfl⟩

/-- In a run of a batch that was not cancelled the report is that of the modules one after another. -/
theorem report_eq_run (r : Runner) (inputs : List BatchInput)
    (hs : Reaches workers (fun i => (inputs.map r.analyze)[i]?.getD default) duration (start inputs.length) s)
    (hover : s.isOver = true) (hcancelled : s.cancelled = false) : s.report = r.run inputs := by
  rw [report_eq_of_not_cancelled hs hover hcancelled, Runner.run]
  congr 1
  apply List.ext_getElem?
  intro i
  by_cases hi : i < inputs.length
  · simp [hi]
  · simp [hi]

/-- Outcomes that are told apart by their paths. -/
def numberedJob (i : Nat) : ModuleOutcome := { (default : ModuleOutcome) with path := toString i }

/-- Jobs that take no time. -/
def noTime (_ : Nat) : Duration := { nanoseconds := 0 }

/-- One worker gets through the first module while the run is cancelled, and the second one is not handed out. -/
theorem exists_cancelled_run :
    ∃ s, Reaches 1 numberedJob noTime (start 2) s ∧ s.isOver = true ∧ s.cancelled = true ∧ s.ran = [0] := by
  have unstarted : Reaches 1 numberedJob noTime (start 2) (start 2) := .here
  have handed := unstarted.step (.decide _ rfl (by decide) rfl) |>.step (.handOut _ _ rfl (by decide) rfl)
  have entered := handed.step (.work _ 0 _ _ _ rfl (.begin _ _ rfl rfl)) |>.step (.cancel _ rfl)
    |>.step (.work _ 0 _ _ _ rfl (.enter _ _ rfl (by decide))) |>.step (.stop _ rfl rfl)
  have ended := entered.step (.work _ 0 _ _ _ rfl (.leave _ _ rfl)) |>.step (.work _ 0 _ _ _ rfl (.store _ _ rfl))
    |>.step (.work _ 0 _ _ _ rfl (.mark _ _ rfl)) |>.step (.close _ rfl (by decide) rfl)
  exact ⟨_, ended, rfl, rfl, rfl⟩

/-- A run with one worker that is cancelled half-way tells the first module and why it stopped, and there is a run that
tells both. -/
theorem report_independent_of_schedule_two :
    (∃ s, Reaches 1 numberedJob noTime (start 2) s ∧ s.isOver = true ∧ s.cancelled = true
      ∧ s.report.modules = [numberedJob 0])
    ∧ ∃ s, Reaches 1 numberedJob noTime (start 2) s ∧ s.isOver = true
      ∧ s.report.modules = [numberedJob 0, numberedJob 1] ∧ s.stopReason = none := by
  obtain ⟨hends, -, htells, -⟩ := report_independent_of_schedule numberedJob noTime 2 (Nat.one_pos)
  constructor
  · obtain ⟨s, hs, hover, hcancelled, hran⟩ := exists_cancelled_run
    refine ⟨s, hs, hover, hcancelled, ?_⟩
    rw [(htells s hs hover).1, hran]
    rfl
  · obtain ⟨-, s, hs, hover, hcancelled⟩ := hends (start 2) .here
    obtain ⟨hmodules, -, hall, -⟩ := htells s hs hover
    obtain ⟨hran, hreason⟩ := hall hcancelled
    refine ⟨s, hs, hover, ?_, hreason⟩
    rw [hmodules, hran]
    rfl

end Schedule

end ModuleLint
