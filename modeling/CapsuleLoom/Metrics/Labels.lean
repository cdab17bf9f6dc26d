/-!
# Label sets

A series of a metric is told apart from the others by named labels.

## Main definitions

* `LabelSet` : names with values, in the order of the names.
* `LabelSet.text` : the labels as they are printed.
* `Series` : values by label set, in the order of the label sets.
-/

namespace CapsuleLoom

/-- Names with values. -/
abbrev LabelSet := List (String × String)

namespace LabelSet

/-- The names and values in one row; its order is the order of label sets. -/
def row (labels : LabelSet) : List String := labels.flatMap fun label => [label.1, label.2]

/-- The labels in order. -/
def sorted (labels : LabelSet) : LabelSet :=
  labels.mergeSort fun a b => !decide (row [b] < row [a])

/-- How a character is printed inside a value. -/
def escapeChar (c : Char) : List Char :=
  if c = '\\' then ['\\', '\\'] else if c = '\n' then ['\\', 'n']
  else if c = '"' then ['\\', '"'] else [c]

/-- A value as it is printed between quotation marks. -/
def escape (value : String) : String := String.ofList (value.toList.flatMap escapeChar)

/-- A label as it is printed. -/
def labelText (label : String × String) : String := label.1 ++ "=\"" ++ escape label.2 ++ "\""

/-- The labels as they are printed, with one more part behind them unless that is empty. -/
def text (labels : LabelSet) (extra : String) : String :=
  match labels.map labelText ++ (if extra.isEmpty then [] else [extra]) with
  | [] => ""
  | parts => "\x7b" ++ ",".intercalate parts ++ "\x7d"

end LabelSet

/-- Values by label set, in the order of the label sets. -/
abbrev Series (α : Type) := List (LabelSet × α)

namespace Series

variable {α : Type}

/-- The value of a label set. -/
def get? (series : Series α) (labels : LabelSet) : Option α := List.lookup labels series

/-- Replaces the value of a label set. -/
def set (labels : LabelSet) (value : α) (series : Series α) : Series α :=
  series.map fun entry => if entry.1 = labels then (labels, value) else entry

/-- Puts the value of a new label set into its place. -/
def insert (labels : LabelSet) (value : α) : Series α → Series α
  | [] => [(labels, value)]
  | entry :: rest =>
    if labels.row < entry.1.row then (labels, value) :: entry :: rest
    else entry :: insert labels value rest

/-- Changes the value of a label set, which starts from `initial`. -/
def change (initial : α) (f : α → α) (labels : LabelSet) (series : Series α) : Series α :=
  match series.get? labels with
  | some value => series.set labels (f value)
  | none => series.insert labels (f initial)

end Series

end CapsuleLoom
