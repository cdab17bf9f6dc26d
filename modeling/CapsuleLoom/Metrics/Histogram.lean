import CapsuleLoom.Metrics.Counter

/-!
# Histograms

Histograms in the text format of Prometheus.  An observation is counted at the first bound that is
not below it; the lines `<name>_bucket` show running counts, up to the label `le="+Inf"`, and the
lines `<name>_sum` and `<name>_count` follow.

## Main definitions

* `Histogram` : how many observations lie below each of some bounds, by label set.
* `Histogram.observe` : takes an observation in.
* `Histogram.render` : the counts as they are printed.

## References

* HubLab API specification, §9 (ambient stack), metrics.
-/

namespace CapsuleLoom

/-- The observations of one label set. -/
structure Tally where
  /-- How many observations belong to each bound; the last count is for all beyond. -/
  counts : List Nat
  /-- The sum of the observations. -/
  sum : Double
  /-- The count of the observations. -/
  count : Nat

/-- How many observations lie below each of some bounds, by label set. -/
structure Histogram where
  /-- The name of the metric. -/
  name : String
  /-- What the metric is about. -/
  help : String
  /-- The bounds, in order. -/
  bounds : List Number
  /-- The observations. -/
  tallies : Series Tally

namespace Histogram

/-- The bounds of a histogram that has none, in seconds. -/
def defaultBounds : List Number :=
  [.double (.ofDecimal false 1 (-3)), .double (.ofDecimal false 5 (-3)),
    .double (.ofDecimal false 1 (-2)), .double (.ofDecimal false 5 (-2)),
    .double (.ofDecimal false 1 (-1)), .double (.ofDecimal false 5 (-1)), .int 1, .int 5]

/-- The histogram without observations. -/
def new (name help : String) (bounds : List Number) : Histogram :=
  let bounds := if bounds.isEmpty then defaultBounds else bounds
  ⟨name, help, bounds.mergeSort fun a b => !b.lt a, []⟩

/-- The tally without observations. -/
def emptyTally (histogram : Histogram) : Tally :=
  ⟨List.replicate (histogram.bounds.length + 1) 0, .zero false, 0⟩

/-- The place of an observation: that of the first bound that is not below it. -/
def placeOf (histogram : Histogram) (observation : Number) : Nat :=
  histogram.bounds.findIdx fun bound => observation.le bound

/-- Changes the tally of a label set. -/
def change (f : Tally → Tally) (labels : LabelSet) (histogram : Histogram) : Histogram :=
  { histogram with tallies := histogram.tallies.change histogram.emptyTally f labels.sorted }

/-- A tally with one more observation at a place. -/
def countAt (place : Nat) (tally : Tally) : Tally :=
  { tally with counts := tally.counts.modify place (· + 1) }

/-- A tally with one more observation in its sum. -/
def addToSum (amount : Double) (tally : Tally) : Tally :=
  { tally with sum := tally.sum.add amount, count := tally.count + 1 }

/-- Takes an observation in.  A number beyond the doubles is an error, yet it has been counted at
its bound by then. -/
def observe (labels : LabelSet) (observation : Number) (histogram : Histogram) :
    Except Overflow Unit × Histogram :=
  let counted := countAt (histogram.placeOf observation)
  match observation.toDouble with
  | .ok amount => (.ok (), histogram.change (addToSum amount ∘ counted) labels)
  | .error overflow => (.error overflow, histogram.change counted labels)

/-- The label `le` of a bound. -/
def boundText (bound : Number) : Except Overflow String :=
  match bound with
  | .double (.infinite false) => .ok "+Inf"
  | bound => bound.toDouble.map Double.generalText

/-- The sums of all counts up to each place. -/
def runningCounts (before : Nat) : List Nat → List Nat
  | [] => []
  | count :: rest => (before + count) :: runningCounts (before + count) rest

/-- The line `<name>_bucket` of a bound. -/
def boundLine (name : String) (labels : LabelSet) (boundText : String) (count : Nat) : String :=
  name ++ "_bucket" ++ labels.text s!"le=\"{boundText}\"" ++ s!" {count}\n"

/-- The lines `<name>_bucket`, `<name>_sum` and `<name>_count` of a label set. -/
def tallyLines (name : String) (boundTexts : List String) (entry : LabelSet × Tally) : String :=
  let labels := entry.1
  let tally := entry.2
  String.join (List.zipWith (boundLine name labels) boundTexts (runningCounts 0 tally.counts)) ++
    name ++ "_sum" ++ labels.text "" ++ " " ++ tally.sum.text ++ "\n" ++
    name ++ "_count" ++ labels.text "" ++ " " ++ toString tally.count ++ "\n"

/-- The histogram in the text format of Prometheus. -/
def render (histogram : Histogram) : Except Overflow String :=
  let head := metricHead histogram.name histogram.help "histogram"
  if histogram.tallies.isEmpty then .ok head
  else do
    let boundTexts ← (histogram.bounds ++ [Number.double (.infinite false)]).mapM boundText
    return head ++
      String.join (histogram.tallies.map (tallyLines histogram.name boundTexts))

end Histogram

end CapsuleLoom
