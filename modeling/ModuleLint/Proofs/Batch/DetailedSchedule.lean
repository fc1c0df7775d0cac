import Mathlib.Logic.Function.Basic
import Mathlib.Logic.Relation
import ModuleLint.Proofs.Batch.Interleavings
import ModuleLint.Proofs.Telemetry.Counters

/-!
# Schedules in detail

In a schedule a job records its module at once. In detail this takes many steps: there is one addition to a counter
after the other, and meanwhile all other jobs go on. The counters learn of a module before its job leaves the analysis,
and of one that could not be loaded instead of it.

The detail makes no difference to anything but the metrics (`exists_reaches`), and what a schedule comes to, its metrics
included, can also be reached in detail (`exists_of_reaches`).
-/

set_option autoImplicit false

namespace ModuleLint

open Telemetry (Addition Metrics ModuleStats)

/-- Whether the job of a module in this phase has come back with its outcome. -/
def JobPhase.hasReturned : JobPhase → Bool
  | returned | stored | ended => true
  | waiting | handedOut | loading | analysing | skipped => false

/-- A schedule in which each job records its module one addition after another. As soon as a job has begun to do so,
`pending` holds what it has still to add. -/
structure DetailedSchedule where
  schedule : Schedule
  pending : Nat → Option (List Addition)

namespace DetailedSchedule

def start (size : Nat) : DetailedSchedule :=
  { schedule := Schedule.start size, pending := fun _ => none }

/-- What can happen next. Either it is a step of the schedule that adds nothing to a counter, or a job begins to record
its module, makes one of its additions, or returns with none of them left. It makes its additions in any order, and all
else may happen between two of them. -/
inductive Step (workers : Nat) (job : Nat → ModuleOutcome) (duration : Nat → Duration) :
    DetailedSchedule → DetailedSchedule → Prop where
  | proceed (d : DetailedSchedule) (t : Schedule) :
      Schedule.Step workers job duration d.schedule t →
      (∀ label, t.metrics.valueOf label = d.schedule.metrics.valueOf label) →
      Step workers job duration d { d with schedule := t }
  | record (d : DetailedSchedule) (i : Nat) (slot : Slot) :
      d.schedule.slots[i]? = some slot →
      (slot.phase = .analysing ∨ slot.phase = .loading ∧ (job i).status = .failed) →
      d.pending i = none →
      Step workers job duration d
        { d with pending := Function.update d.pending i (some ((job i).stats (duration i)).additions) }
  | add (d : DetailedSchedule) (i : Nat) (front back : List Addition) (a : Addition) :
      d.pending i = some (front ++ a :: back) →
      Step workers job duration d
        { schedule := { d.schedule with metrics := d.schedule.metrics.add a }
          pending := Function.update d.pending i (some (front ++ back)) }
  | fail (d : DetailedSchedule) (i : Nat) (slot : Slot) :
      d.schedule.slots[i]? = some slot → slot.phase = .loading → (job i).status = .failed →
      d.pending i = some [] →
      Step workers job duration d
        { d with
          schedule := { d.schedule with
            slots := d.schedule.slots.set i { slot with phase := .returned } } }
  | leave (d : DetailedSchedule) (i : Nat) (slot : Slot) :
      d.schedule.slots[i]? = some slot → slot.phase = .analysing → d.pending i = some [] →
      Step workers job duration d
        { d with
          schedule := { d.schedule with
            slots := d.schedule.slots.set i { slot with phase := .returned }
            metrics := d.schedule.metrics.finish } }

def Reaches (workers : Nat) (job : Nat → ModuleOutcome) (duration : Nat → Duration) (size : Nat) :
    DetailedSchedule → Prop :=
  Relation.ReflTransGen (Step workers job duration) (start size)

end DetailedSchedule

/-! ## Detail aside -/

/-- What a job does does not depend on what was measured. -/
theorem Slot.Step.withMetrics {outcome : ModuleOutcome} {stats : ModuleStats} {stopped : Bool}
    {s t : Slot} {m m' : Metrics} (h : Slot.Step outcome stats stopped (s, m) (t, m')) (other : Metrics) :
    ∃ other', Slot.Step outcome stats stopped (s, other) (t, other') := by
  cases h with
  | skip _ _ hphase hstopped => exact ⟨_, .skip s other hphase hstopped⟩
  | begin _ _ hphase hstopped => exact ⟨_, .begin s other hphase hstopped⟩
  | fail _ _ hphase hfailed => exact ⟨_, .fail s other hphase hfailed⟩
  | enter _ _ hphase hloaded => exact ⟨_, .enter s other hphase hloaded⟩
  | leave _ _ hphase => exact ⟨_, .leave s other hphase⟩
  | store _ _ hphase => exact ⟨_, .store s other hphase⟩
  | mark _ _ hphase => exact ⟨_, .mark s other hphase⟩

variable {workers : Nat} {job : Nat → ModuleOutcome} {duration : Nat → Duration}

/-- What a schedule does does not depend on what was measured. -/
theorem Schedule.Step.withMetrics {s t : Schedule} (h : Schedule.Step workers job duration s t) (other : Metrics) :
    ∃ other', Schedule.Step workers job duration { s with metrics := other } { t with metrics := other' } := by
  cases h with
  | decide hloop hlt hrunning => exact ⟨other, .decide _ hloop hlt hrunning⟩
  | close hloop hlt hstopped => exact ⟨other, .close _ hloop hlt hstopped⟩
  | handOut slot hloop hfree hslot => exact ⟨other, .handOut _ slot hloop hfree hslot⟩
  | cancel hrunning => exact ⟨other, .cancel _ hrunning⟩
  | stop hcancelled hrunning => exact ⟨other, .stop _ hcancelled hrunning⟩
  | work i before after metrics hslot hjob =>
    obtain ⟨other', hjob⟩ := hjob.withMetrics other
    exact ⟨other', .work _ i before after other' hslot hjob⟩

namespace DetailedSchedule

/-- Apart from what is measured, a schedule in detail takes the steps of a schedule. -/
theorem Reaches.exists_reaches {size : Nat} {d : DetailedSchedule} (h : Reaches workers job duration size d) :
    ∃ metrics, Schedule.Reaches workers job duration (Schedule.start size)
      { d.schedule with metrics := metrics } := by
  have hreturned : (JobPhase.returned == JobPhase.skipped) = false := rfl
  induction h with
  | refl => exact ⟨_, .here⟩
  | tail _ hstep ih =>
    obtain ⟨metrics, ih⟩ := ih
    cases hstep with
    | proceed t hstep hsame =>
      obtain ⟨metrics', hstep⟩ := hstep.withMetrics metrics
      exact ⟨metrics', ih.step hstep⟩
    | record i slot hslot hphase hpending => exact ⟨metrics, ih⟩
    | add i front back a hpending => exact ⟨metrics, ih⟩
    | fail i slot hslot hphase hfailed hpending =>
      have hwork := ih.step (.work _ i slot _ _ hslot (.fail slot metrics hphase hfailed))
      exact ⟨_, by simpa [hreturned] using hwork⟩
    | leave i slot hslot hphase hpending =>
      have hwork := ih.step (.work _ i slot _ _ hslot (.leave slot metrics hphase))
      exact ⟨_, by simpa [hreturned] using hwork⟩

/-- Detail aside, what is stored is sound. -/
theorem Reaches.sound {size : Nat} {d : DetailedSchedule} (h : Reaches workers job duration size d) :
    d.schedule.Sound job := by
  obtain ⟨metrics, hreaches⟩ := h.exists_reaches
  have hsound := (Schedule.sound_start job size).reaches hreaches
  exact { hsound with }

/-! ## Runs without detail -/

variable {d : DetailedSchedule}

/-- One step more. -/
theorem Reaches.step {size : Nat} {t : DetailedSchedule} (h : Reaches workers job duration size d)
    (hstep : Step workers job duration d t) : Reaches workers job duration size t :=
  h.tail hstep

/-- A job may make all its additions without a break. -/
theorem Reaches.addAll {size i : Nat} {additions : List Addition} (h : Reaches workers job duration size d)
    (hpending : d.pending i = some additions) :
    Reaches workers job duration size
      { schedule := { d.schedule with metrics := additions.foldl Metrics.add d.schedule.metrics }
        pending := Function.update d.pending i (some []) } := by
  induction additions generalizing d with
  | nil =>
    rw [← hpending, Function.update_eq_self]
    exact h
  | cons a rest ih =>
    have hrest := ih (h.step (.add d i [] rest a hpending)) (Function.update_self ..)
    simpa only [Function.update_idem, List.foldl_cons] using hrest

/-- A job may make all its additions without a pause. -/
theorem Reaches.recordAll {size i : Nat} {slot : Slot} (h : Reaches workers job duration size d)
    (hslot : d.schedule.slots[i]? = some slot)
    (hphase : slot.phase = .analysing ∨ slot.phase = .loading ∧ (job i).status = .failed)
    (hpending : d.pending i = none) :
    Reaches workers job duration size
      { schedule := { d.schedule with metrics := d.schedule.metrics.record ((job i).stats (duration i)) }
        pending := Function.update d.pending i (some []) } := by
  have hdone := (h.step (.record d i slot hslot hphase hpending)).addAll (Function.update_self ..)
  simpa only [Function.update_idem, Metrics.record_eq_foldl_add] using hdone

/-- Modules are recorded at once: nothing is pending for a module before its job returns. -/
def Unrecorded (d : DetailedSchedule) : Prop :=
  ∀ (i : Nat) (slot : Slot), d.schedule.slots[i]? = some slot → slot.phase.hasReturned = false → d.pending i = none

/-- If no job has begun to record before it returns, this is so after one job has moved on. -/
theorem Unrecorded.move {i : Nat} {after : Slot} {t : Schedule} {pending : Nat → Option (List Addition)}
    (h : d.Unrecorded) (hslots : t.slots = d.schedule.slots.set i after)
    (hpending : ∀ j, j ≠ i → pending j = d.pending j)
    (hafter : after.phase.hasReturned = false → pending i = none) :
    Unrecorded { schedule := t, pending := pending } := by
  intro j slot hj hphase
  simp only [hslots] at hj
  rcases Schedule.getElem?_set_cases hj with ⟨rfl, rfl⟩ | ⟨hne, hold⟩
  · exact hafter hphase
  · exact (hpending j hne).trans (h j slot hold hphase)

/-- The schedule after a job has done something. -/
def afterWork (d : DetailedSchedule) (i : Nat) (after : Slot) (metrics : Metrics) : Schedule :=
  { d.schedule with
    slots := d.schedule.slots.set i after
    failed := d.schedule.failed || after.phase == .skipped
    metrics := metrics }

/-- A step of a job that records its module at once can be taken in detail. -/
theorem exists_of_work {size i : Nat} {before after : Slot} {metrics : Metrics}
    (h : Reaches workers job duration size d) (hunrecorded : d.Unrecorded)
    (hslot : d.schedule.slots[i]? = some before)
    (hjob : Slot.Step (job i) ((job i).stats (duration i)) d.schedule.stopped (before, d.schedule.metrics)
      (after, metrics)) :
    ∃ t : DetailedSchedule, Reaches workers job duration size t ∧ t.Unrecorded
      ∧ t.schedule = d.afterWork i after metrics := by
  have hproceed : (∀ label, metrics.valueOf label = d.schedule.metrics.valueOf label) →
      (after.phase.hasReturned = false → d.pending i = none) →
      ∃ t : DetailedSchedule, Reaches workers job duration size t ∧ t.Unrecorded
        ∧ t.schedule = d.afterWork i after metrics := by
    intro hsame hafter
    exact ⟨_, h.step (.proceed d _ (.work _ i before after metrics hslot hjob) hsame),
      hunrecorded.move rfl (fun _ _ => rfl) hafter, rfl⟩
  have hpending : before.phase.hasReturned = false → d.pending i = none := hunrecorded i before hslot
  have hreturned : (JobPhase.returned == JobPhase.skipped) = false := rfl
  cases hjob with
  | skip _ _ hphase hstopped => exact hproceed (fun _ => rfl) fun _ => hpending (by rw [hphase]; rfl)
  | begin _ _ hphase hstopped => exact hproceed (fun _ => rfl) fun _ => hpending (by rw [hphase]; rfl)
  | fail _ _ hphase hfailed =>
    have hdone := h.recordAll hslot (Or.inr ⟨hphase, hfailed⟩) (hpending (by rw [hphase]; rfl))
    refine ⟨_, hdone.step (.fail _ i before hslot hphase hfailed (Function.update_self ..)),
      hunrecorded.move rfl (fun j hj => Function.update_of_ne hj ..) (by simp [JobPhase.hasReturned]), ?_⟩
    simp [afterWork, hreturned]
  | enter _ _ hphase hloaded =>
    refine hproceed (fun label => ?_) fun _ => hpending (by rw [hphase]; rfl)
    cases label <;> rfl
  | leave _ _ hphase =>
    have hdone := h.recordAll hslot (Or.inl hphase) (hpending (by rw [hphase]; rfl))
    refine ⟨_, hdone.step (.leave _ i before hslot hphase (Function.update_self ..)),
      hunrecorded.move rfl (fun j hj => Function.update_of_ne hj ..) (by simp [JobPhase.hasReturned]), ?_⟩
    simp [afterWork, hreturned]
  | store _ _ hphase => exact hproceed (fun _ => rfl) (by simp [JobPhase.hasReturned])
  | mark _ _ hphase => exact hproceed (fun _ => rfl) (by simp [JobPhase.hasReturned])

/-- What can be reached by the steps of a schedule can be reached in detail. -/
theorem exists_of_reaches {size : Nat} {s : Schedule}
    (h : Schedule.Reaches workers job duration (Schedule.start size) s) :
    ∃ d : DetailedSchedule, Reaches workers job duration size d ∧ d.Unrecorded ∧ d.schedule = s := by
  induction h with
  | here => exact ⟨start size, .refl, fun _ _ _ _ => rfl, rfl⟩
  | @step _ t _ hstep ih =>
    obtain ⟨d, hreaches, hunrecorded, rfl⟩ := ih
    have hproceed : (∀ label, t.metrics.valueOf label = d.schedule.metrics.valueOf label) →
        Reaches workers job duration size { d with schedule := t } :=
      fun hsame => hreaches.step (.proceed d t hstep hsame)
    cases hstep with
    | decide => exact ⟨_, hproceed fun _ => rfl, hunrecorded, rfl⟩
    | close => exact ⟨_, hproceed fun _ => rfl, hunrecorded, rfl⟩
    | cancel => exact ⟨_, hproceed fun _ => rfl, hunrecorded, rfl⟩
    | stop => exact ⟨_, hproceed fun _ => rfl, hunrecorded, rfl⟩
    | handOut slot hloop hfree hslot =>
      have hwaiting : slot.phase = .waiting := (hreaches.sound.waiting_iff _ _ hslot).mpr (Nat.le_refl _)
      have hpending : d.pending d.schedule.next = none := hunrecorded _ slot hslot (by rw [hwaiting]; rfl)
      exact ⟨_, hproceed fun _ => rfl, hunrecorded.move rfl (fun _ _ => rfl) fun _ => hpending, rfl⟩
    | work i before after metrics hslot hjob => exact exists_of_work hreaches hunrecorded hslot hjob

end DetailedSchedule

end ModuleLint
