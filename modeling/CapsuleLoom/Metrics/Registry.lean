import CapsuleLoom.Metrics.Histogram

/-!
# Registries of metrics

Metrics that are created, raised and timed one step after the other.

## Main definitions

* `Clock` : a clock that advances by a fixed step at each reading.
* `Registry` : counters and histograms in the order of their creation, with running timers.

## References

* HubLab API specification, §9 (ambient stack), metrics.
-/

namespace CapsuleLoom

/-- A clock that advances by a fixed step at each reading. -/
structure Clock where
  /-- The last reading. -/
  now : Double
  /-- The step. -/
  tick : Double

namespace Clock

/-- The step of a clock that says none. -/
def defaultTick : Double := .ofDecimal false 25 (-2)

/-- The clock before its first reading. -/
def new (tick : Double) : Clock := ⟨.zero false, tick⟩

/-- The clock after one more reading, which it shows. -/
def advance (clock : Clock) : Clock := { clock with now := clock.now.add clock.tick }

end Clock

/-- A metric. -/
inductive Meter where
  /-- A counter. -/
  | counter (counter : Counter)
  /-- A histogram. -/
  | histogram (histogram : Histogram)

/-- The metric as it is printed. -/
def Meter.render : Meter → Except Overflow String
  | counter meter => .ok meter.render
  | histogram meter => meter.render

/-- A timer that runs for a histogram. -/
structure Timer where
  /-- The place of the histogram. -/
  meter : Nat
  /-- The labels of what is measured. -/
  labels : LabelSet
  /-- The reading of the clock at the start. -/
  start : Double

/-- Counters and histograms in the order of their creation, with running timers. -/
structure Registry where
  /-- The metrics. -/
  meters : List Meter
  /-- The timers. -/
  timers : List Timer
  /-- The clock of the timers. -/
  clock : Clock

/-- Why a step on a registry failed. -/
inductive RegistryError where
  /-- A number is beyond the doubles. -/
  | overflow (overflow : Overflow)
  /-- There is no such metric or timer. -/
  | absent

namespace Registry

/-- The registry without metrics. -/
def new (clock : Clock) : Registry := ⟨[], [], clock⟩

/-- The registry with one more metric, and its place. -/
def register (meter : Meter) (registry : Registry) : Nat × Registry :=
  (registry.meters.length, { registry with meters := registry.meters ++ [meter] })

/-- The counter at a place. -/
def counter? (registry : Registry) (place : Nat) : Option Counter :=
  match registry.meters[place]? with
  | some (.counter counter) => some counter
  | _ => none

/-- The histogram at a place. -/
def histogram? (registry : Registry) (place : Nat) : Option Histogram :=
  match registry.meters[place]? with
  | some (.histogram histogram) => some histogram
  | _ => none

/-- The registry with another metric at a place. -/
def setMeter (registry : Registry) (place : Nat) (meter : Meter) : Registry :=
  { registry with meters := registry.meters.set place meter }

/-- Raises a counter and gives its new total. -/
def inc (place : Nat) (labels : LabelSet) (amount : Number) (registry : Registry) :
    Except RegistryError Double × Registry :=
  match registry.counter? place with
  | none => (.error .absent, registry)
  | some counter =>
    let (outcome, counter) := counter.inc labels amount
    ((outcome.map fun _ => counter.value labels).mapError .overflow,
      registry.setMeter place (.counter counter))

/-- The total of a counter. -/
def value (place : Nat) (labels : LabelSet) (registry : Registry) : Except RegistryError Double :=
  match registry.counter? place with
  | none => .error .absent
  | some counter => .ok (counter.value labels)

/-- Takes an observation into a histogram. -/
def observe (place : Nat) (labels : LabelSet) (observation : Number) (registry : Registry) :
    Except RegistryError Unit × Registry :=
  match registry.histogram? place with
  | none => (.error .absent, registry)
  | some histogram =>
    let (outcome, histogram) := histogram.observe labels observation
    (outcome.mapError .overflow, registry.setMeter place (.histogram histogram))

/-- Starts a timer for a histogram and gives its place. -/
def startTimer (meter : Nat) (labels : LabelSet) (registry : Registry) : Nat × Registry :=
  let clock := registry.clock.advance
  (registry.timers.length,
    { registry with timers := registry.timers ++ [⟨meter, labels, clock.now⟩], clock })

/-- Takes the time since the start of a timer into its histogram.  The timer runs on. -/
def stopTimer (place : Nat) (registry : Registry) : Except RegistryError Unit × Registry :=
  match registry.timers[place]? with
  | none => (.error .absent, registry)
  | some timer =>
    let clock := registry.clock.advance
    { registry with clock }.observe timer.meter timer.labels (.double (clock.now.sub timer.start))

/-- All metrics as they are printed. -/
def render (registry : Registry) : Except RegistryError String :=
  (String.join <$> registry.meters.mapM Meter.render).mapError .overflow

end Registry

end CapsuleLoom
