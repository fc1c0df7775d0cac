import ModuleLint.Batch.Runner

/-!
# Schedules of a batch

The modules of a batch are analysed by several workers at once. One loop hands out the modules in
order: it looks whether the run goes on, waits for a free worker and starts a job. Each job looks
once more whether the run goes on before it does anything; it then loads and analyses its module,
stores the outcome in the slot of the module and marks it as valid. Jobs go on side by side and end
as it happens. The run may be cancelled at any moment, which the loop and the jobs learn a little
later.

A schedule is the state of all this; its steps are all that can happen next. When the loop has
ended and no job is left, the report takes the valid outcomes slot by slot.
-/

set_option autoImplicit false

namespace ModuleLint

/-- How far the job of one module has come. -/
inductive JobPhase where
  | waiting
  | handedOut
  | loading
  | analysing
  | returned
  | stored
  | ended
  | skipped
deriving Repr, DecidableEq, Inhabited

namespace JobPhase

/-- Whether a worker is busy with a module in this phase. -/
def isBusy : JobPhase → Bool
  | handedOut | loading | analysing | returned | stored => true
  | waiting | ended | skipped => false

/-- Whether the job of a module in this phase has been run, to its end or not. -/
def hasRun : JobPhase → Bool
  | loading | analysing | returned | stored | ended => true
  | waiting | handedOut | skipped => false

end JobPhase

/-- The place of one module in a batch: how far its job has come, the outcome stored for it, and
whether that outcome is valid. -/
structure Slot where
  phase : JobPhase
  outcome : ModuleOutcome
  valid : Bool

namespace Slot

/-- The slot of a module that was not handed out yet. -/
def blank : Slot := { phase := .waiting, outcome := default, valid := false }

/-- What the job of a module does next, given its outcome, what is measured about it and whether the
run was stopped. -/
inductive Step (outcome : ModuleOutcome) (stats : Telemetry.ModuleStats) (stopped : Bool) :
    Slot × Telemetry.Metrics → Slot × Telemetry.Metrics → Prop where
  | skip (s : Slot) (m : Telemetry.Metrics) :
      s.phase = .handedOut → stopped = true →
      Step outcome stats stopped (s, m) ({ s with phase := .skipped }, m)
  | begin (s : Slot) (m : Telemetry.Metrics) :
      s.phase = .handedOut → stopped = false →
      Step outcome stats stopped (s, m) ({ s with phase := .loading }, m)
  | fail (s : Slot) (m : Telemetry.Metrics) :
      s.phase = .loading → outcome.status = .failed →
      Step outcome stats stopped (s, m) ({ s with phase := .returned }, m.record stats)
  | enter (s : Slot) (m : Telemetry.Metrics) :
      s.phase = .loading → outcome.status ≠ .failed →
      Step outcome stats stopped (s, m) ({ s with phase := .analysing }, m.start)
  | leave (s : Slot) (m : Telemetry.Metrics) :
      s.phase = .analysing →
      Step outcome stats stopped (s, m) ({ s with phase := .returned }, (m.record stats).finish)
  | store (s : Slot) (m : Telemetry.Metrics) :
      s.phase = .returned →
      Step outcome stats stopped (s, m) ({ s with phase := .stored, outcome := outcome }, m)
  | mark (s : Slot) (m : Telemetry.Metrics) :
      s.phase = .stored →
      Step outcome stats stopped (s, m) ({ s with phase := .ended, valid := true }, m)

end Slot

/-- What the loop that hands out modules is about to do: look whether to go on, wait for a free
worker, or nothing any more. -/
inductive HandingOut where
  | deciding
  | committed
  | closed
deriving Repr, DecidableEq, Inhabited

/-- The state of a batch: the slots of all modules, what the loop is about to do and for which
module, whether the run was cancelled, whether the loop and the jobs know that, whether a job has
given up because of it, and what was measured so far. -/
structure Schedule where
  slots : List Slot
  loop : HandingOut
  next : Nat
  cancelled : Bool
  stopped : Bool
  failed : Bool
  metrics : Telemetry.Metrics

namespace Schedule

/-- A batch of which nothing has happened yet. -/
def start (size : Nat) : Schedule :=
  { slots := List.replicate size Slot.blank, loop := .deciding, next := 0, cancelled := false
    stopped := false, failed := false, metrics := Telemetry.Metrics.empty }

/-- The number of modules that workers are busy with. -/
def busy (s : Schedule) : Nat := s.slots.countP (·.phase.isBusy)

/-- The number of modules that are being analysed. -/
def analysing (s : Schedule) : Nat := s.slots.countP (·.phase == .analysing)

/-- Whether the loop has nothing more to do. -/
def isHandedOut (s : Schedule) : Bool :=
  s.loop == .closed || (s.loop == .deciding && s.next == s.slots.length)

/-- Whether all is done that will be done. -/
def isOver (s : Schedule) : Bool := s.isHandedOut && s.busy == 0

/-- What can happen next, given the number of workers and the outcome and the duration of each
job. -/
inductive Step (workers : Nat) (job : Nat → ModuleOutcome) (duration : Nat → Duration) :
    Schedule → Schedule → Prop where
  | decide (s : Schedule) :
      s.loop = .deciding → s.next < s.slots.length → s.stopped = false →
      Step workers job duration s { s with loop := .committed }
  | close (s : Schedule) :
      s.loop = .deciding → s.next < s.slots.length → s.stopped = true →
      Step workers job duration s { s with loop := .closed }
  | handOut (s : Schedule) (slot : Slot) :
      s.loop = .committed → s.busy < workers → s.slots[s.next]? = some slot →
      Step workers job duration s
        { s with
          slots := s.slots.set s.next { slot with phase := .handedOut }
          loop := .deciding
          next := s.next + 1 }
  | cancel (s : Schedule) :
      s.cancelled = false → Step workers job duration s { s with cancelled := true }
  | stop (s : Schedule) :
      s.cancelled = true → s.stopped = false →
      Step workers job duration s { s with stopped := true }
  | work (s : Schedule) (i : Nat) (before after : Slot) (metrics : Telemetry.Metrics) :
      s.slots[i]? = some before →
      Slot.Step (job i) ((job i).stats (duration i)) s.stopped (before, s.metrics)
        (after, metrics) →
      Step workers job duration s
        { s with
          slots := s.slots.set i after
          failed := s.failed || after.phase == .skipped
          metrics := metrics }

/-- What can happen in any number of steps. -/
inductive Reaches (workers : Nat) (job : Nat → ModuleOutcome) (duration : Nat → Duration)
    (first : Schedule) : Schedule → Prop where
  | here : Reaches workers job duration first first
  | step {s t : Schedule} :
      Reaches workers job duration first s → Step workers job duration s t →
      Reaches workers job duration first t

/-- The report about the modules with valid outcomes, in the order of their slots. -/
def report (s : Schedule) : BatchReport :=
  (s.slots.foldl (fun r slot => if slot.valid then r.add slot.outcome else r)
    BatchReport.empty).finish

/-- Why the run did not analyse all modules, if it was stopped. -/
def stopReason (s : Schedule) : Option String :=
  if s.cancelled then some Runner.cancellation
  else if s.failed then some Runner.cancellation
  else none

end Schedule

end ModuleLint
