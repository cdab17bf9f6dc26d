import CapsuleLoom.Metrics.Labels
import CapsuleLoom.Number.Numeral

/-!
# Counters

Counters in the text format of Prometheus: the lines `# HELP` and `# TYPE`, and a line for each
label set.

## Main definitions

* `Counter` : totals by label set.
* `Counter.inc` : raises a total.
* `Counter.render` : the totals as they are printed.

## References

* HubLab API specification, §9 (ambient stack), metrics.
-/

namespace CapsuleLoom

/-- The lines `# HELP` and `# TYPE` of a metric, which are left out when there is no help. -/
def metricHead (name help kind : String) : String :=
  if help.isEmpty then "" else s!"# HELP {name} {help}\n# TYPE {name} {kind}\n"

/-- Totals by label set. -/
structure Counter where
  /-- The name of the metric. -/
  name : String
  /-- What the metric is about. -/
  help : String
  /-- The totals. -/
  totals : Series Double

namespace Counter

/-- The counter without totals. -/
def new (name help : String) : Counter := ⟨name, help, []⟩

/-- Changes the total of a label set. -/
def change (f : Double → Double) (labels : LabelSet) (counter : Counter) : Counter :=
  { counter with totals := counter.totals.change (.zero false) f labels.sorted }

/-- Raises the total of a label set. -/
def add (labels : LabelSet) (amount : Double) (counter : Counter) : Counter :=
  counter.change (·.add amount) labels

/-- Raises the total of a label set by a number.  A number beyond the doubles is an error, yet
the label set has a total from then on. -/
def inc (labels : LabelSet) (amount : Number) (counter : Counter) :
    Except Overflow Unit × Counter :=
  match amount.toDouble with
  | .ok amount => (.ok (), counter.add labels amount)
  | .error overflow => (.error overflow, counter.change id labels)

/-- The total of a label set. -/
def value (counter : Counter) (labels : LabelSet) : Double :=
  (counter.totals.get? labels.sorted).getD (.zero false)

/-- The line of a total. -/
def totalLine (name : String) (entry : LabelSet × Double) : String :=
  name ++ entry.1.text "" ++ " " ++ entry.2.text ++ "\n"

/-- The counter in the text format of Prometheus. -/
def render (counter : Counter) : String :=
  metricHead counter.name counter.help "counter" ++
    String.join (counter.totals.map (totalLine counter.name))

end Counter

end CapsuleLoom
