import ModuleLint.Duration
import ModuleLint.Word

/-!
# Metrics of a run

Counters of analysed modules, violations and failing rules, a histogram of the time that modules
take, and the number of modules that are being analysed. A series appears when something is first
added to it. Counts are exact, but a series shows them as words would hold them and doubles would
show them.
-/

set_option autoImplicit false

namespace ModuleLint.Telemetry

/-- What is measured about one module. -/
structure ModuleStats where
  status : String
  duration : Duration
  violations : List (String × Int)
  ruleErrors : List String

/-- Counts by the value of a label, by increasing values. -/
abbrev Counts := List (String × Int)

/-- Adds to the count of a label value. -/
def addCount (key : String) (n : Int) : Counts → Counts
  | [] => [(key, n)]
  | (k, m) :: rest =>
    if key < k then (key, n) :: (k, m) :: rest
    else if key == k then (k, m + n) :: rest
    else (k, m) :: addCount key n rest

/-- How many durations were observed, and how many of them do not exceed each of the bounds. -/
structure Histogram where
  count : Nat
  buckets : List Nat
deriving Repr, DecidableEq

namespace Histogram

/-- The upper bounds of the buckets in seconds. -/
def bounds : List Float := [0.001, 0.005, 0.01, 0.025, 0.05, 0.1, 0.25, 0.5, 1, 2.5, 5, 10, 30]

/-- Nothing was observed. -/
def empty : Histogram := { count := 0, buckets := bounds.map fun _ => 0 }

/-- One more observation. -/
def observe (h : Histogram) (seconds : Float) : Histogram :=
  { count := h.count + 1
    buckets := (h.buckets.zip bounds).map fun (n, bound) => if seconds ≤ bound then n + 1 else n }

/-- One more observation for the value of a label, in a list by increasing values. -/
def observeAt (key : String) (seconds : Float) :
    List (String × Histogram) → List (String × Histogram)
  | [] => [(key, empty.observe seconds)]
  | (k, h) :: rest =>
    if key < k then (key, empty.observe seconds) :: (k, h) :: rest
    else if key == k then (k, h.observe seconds) :: rest
    else (k, h) :: observeAt key seconds rest

end Histogram

/-- All metrics. -/
structure Metrics where
  inflight : Option Int
  durations : List (String × Histogram)
  modules : Counts
  ruleErrors : Counts
  violations : Counts

/-- The value of a series. -/
inductive SeriesValue where
  | amount (n : Int)
  | histogram (h : Histogram)

/-- A metric with the values of its labels. -/
structure Series where
  name : String
  labels : List (String × String)
  value : SeriesValue

namespace Metrics

/-- Nothing was measured. -/
def empty : Metrics :=
  { inflight := none, durations := [], modules := [], ruleErrors := [], violations := [] }

/-- Records an analysed module. -/
def record (m : Metrics) (s : ModuleStats) : Metrics :=
  { m with
    durations := Histogram.observeAt s.status s.duration.seconds m.durations
    modules := addCount s.status 1 m.modules
    violations :=
      s.violations.foldl (fun counts (severity, n) => addCount severity n counts) m.violations
    ruleErrors := s.ruleErrors.foldl (fun counts code => addCount code 1 counts) m.ruleErrors }

/-- The analysis of a module starts. -/
def start (m : Metrics) : Metrics := { m with inflight := some (m.inflight.getD 0 + 1) }

/-- The analysis of a module ends. -/
def finish (m : Metrics) : Metrics := { m with inflight := some (m.inflight.getD 0 - 1) }

/-- A count as a series shows it. -/
def shownCount (n : Int) : Int := Word.nearestWhole (Word.signed n)

/-- The series of a counter with one label. -/
def countSeries (name label : String) (counts : Counts) : List Series :=
  counts.map fun (key, n) =>
    { name := name, labels := [(label, key)], value := .amount (shownCount n) }

/-- All series by increasing name and label value. -/
def series (m : Metrics) : List Series :=
  (m.inflight.map fun n =>
    { name := "bslint_inflight_modules", labels := [], value := .amount (shownCount n) : Series }).toList
  ++ m.durations.map (fun (key, h) =>
    { name := "bslint_module_duration_seconds", labels := [("status", key)]
      value := .histogram h })
  ++ countSeries "bslint_modules_total" "status" m.modules
  ++ countSeries "bslint_rule_errors_total" "rule" m.ruleErrors
  ++ countSeries "bslint_violations_total" "severity" m.violations

end Metrics

end ModuleLint.Telemetry
