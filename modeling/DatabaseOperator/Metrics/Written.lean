import DatabaseOperator.Metrics.Basic
import DatabaseOperator.Metrics.Number

/-!
# Metrics as text

The text that a monitoring system reads: families of series, each introduced by
what it means and what type it has, one line for each number, and a mark at the
end.

- `Metrics.Family`: a family with the lines of its series.
- `Metrics.families`: the families of the metrics.
- `Metrics.text`: the whole text.
-/

namespace DatabaseOperator.Metrics

/-- A family of series: its name, what it means, its type, and a line for each
of its numbers. -/
structure Family where
  name : String
  meaning : String
  type : String
  lines : List String

/-- The name of a family of this operator. -/
def familyName (name : String) : String :=
  "oracle_db_operator_" ++ name

/-- A label and its value. Values are written as they are. -/
def label (name value : String) : String :=
  name ++ "=\"" ++ value ++ "\""

/-- A line of a series: its name, its labels and its number. -/
def line (name : String) (labels : List String) (value : String) : String :=
  name ++ "\x7b" ++ String.intercalate "," labels ++ "\x7d " ++ value

/-- The labels of a resource. -/
def resourceLabels (r : ResourceLabels) : List String :=
  [label "namespace" r.namespaceName, label "name" r.name]

/-- A count of something. -/
def counter (name meaning : String) (series : List (List String × Nat)) :
    Family where
  name := familyName name
  meaning
  type := "counter"
  lines := series.map fun (labels, n) =>
    line (familyName name ++ "_total") labels (Text.digits n)

/-- The lines of a histogram: the sum, the number of observations, and how many
are at most each bound. -/
def histogramLines (name : String) (labels : List String) (h : Histogram) :
    List String :=
  let bucket := fun (bound : String) (n : Nat) =>
    line (name ++ "_bucket") (label "le" bound :: labels) (Text.digits n)
  line (name ++ "_sum") labels (number h.sum)
    :: line (name ++ "_count") labels (Text.digits h.count)
    :: List.zipWith bucket (Histogram.bounds.map number) h.atMost
    ++ [bucket "+Inf" h.count]

/-- Observations of something. -/
def histogram (name meaning : String)
    (series : List (List String × Histogram)) : Family where
  name := familyName name
  meaning
  type := "histogram"
  lines := series.flatMap fun (labels, h) =>
    histogramLines (familyName name) labels h

/-- A value that can rise and fall. -/
def gauge (name meaning : String) (series : List (List String × Nat)) :
    Family where
  name := familyName name
  meaning
  type := "gauge"
  lines := series.map fun (labels, n) => line (familyName name) labels
    (Text.digits n)

/-- The families of the metrics. -/
def families (m : Metrics) : List Family :=
  [counter "reconciliations" "Total number of reconciliations"
      (m.durations.map fun (r, h) => (resourceLabels r, h.count)),
    counter "reconciliation_errors" "Total number of reconciliation errors"
      (m.errors.map fun (r, n) => (resourceLabels r, n)),
    histogram "reconcile_duration_seconds"
      "Duration of reconciliation in seconds"
      (m.durations.map fun (r, h) => (resourceLabels r, h)),
    counter "actions_dispatched"
      "Total number of corrective actions sent to a remote control plane"
      (m.actions.map fun (a, n) =>
        ([label "kind" a.kind, label "action" a.action], n)),
    gauge "resource_state"
      "Observed remote lifecycle state of each managed resource"
      (m.states.map fun s =>
        (label "kind" s.kind :: resourceLabels s.resource
          ++ [label "state" s.state], 1))]

/-- The lines of a family. -/
def familyLines (f : Family) : List String :=
  ("# HELP " ++ f.name ++ " " ++ f.meaning ++ ".")
    :: ("# TYPE " ++ f.name ++ " " ++ f.type) :: f.lines

/-- The text of the metrics, every line ended by a line feed. -/
def text (m : Metrics) : String :=
  String.join ((m.families.flatMap familyLines ++ ["# EOF"]).map (· ++ "\n"))

end DatabaseOperator.Metrics
