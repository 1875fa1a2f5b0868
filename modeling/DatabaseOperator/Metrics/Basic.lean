/-!
# Metrics

What the operator counts about itself.

- `Histogram`: observations counted by how long they took.
- `Metrics`: all that is counted, each part by its labels.
- `Metrics.countPass`, `Metrics.countError`, `Metrics.countAction`: one more of
  something.
- `Metrics.moveState`: the state that a resource is shown in.
-/

namespace DatabaseOperator

/-! ## Histograms -/

/-- The bounds of a histogram, in seconds: from a millisecond on, each twice the
one before. -/
def Histogram.bounds : List Float :=
  (List.range 15).map fun i => 0.001 * Float.ofNat (Nat.pow 2 i)

/-- Observations: their sum, their number, and how many are at most each of the
bounds. -/
structure Histogram where
  sum : Float := 0
  count : Nat := 0
  atMost : List Nat := Histogram.bounds.map fun _ => 0

/-- One more observation. -/
def Histogram.observe (h : Histogram) (seconds : Float) : Histogram where
  sum := h.sum + seconds
  count := h.count + 1
  atMost :=
    List.zipWith (fun n bound => if seconds ≤ bound then n + 1
      else n) h.atMost bounds

/-! ## Labels -/

/-- The resource that a series is about. -/
structure ResourceLabels where
  namespaceName : String
  name : String
deriving DecidableEq, Repr

/-- The kind of resource and the action that a series is about. -/
structure ActionLabels where
  kind : String
  action : String
deriving DecidableEq, Repr

/-- A resource and a state that it is shown in. -/
structure StateLabels where
  kind : String
  resource : ResourceLabels
  state : String
deriving DecidableEq, Repr

/-! ## The metrics -/

/-- All that is counted. A resource that has been through a pass has a
histogram, and `states` holds the series of the states that resources are shown
in. -/
structure Metrics where
  durations : List (ResourceLabels × Histogram) := []
  errors : List (ResourceLabels × Nat) := []
  actions : List (ActionLabels × Nat) := []
  states : List StateLabels := []

namespace Metrics

/-- The series of some labels brought up to date; one that is not there yet
starts from a first value. -/
def bump {α β : Type} [DecidableEq α] (labels : α) (first : β)
    (change : β → β) : List (α × β) → List (α × β)
  | [] => [(labels, change first)]
  | (l, value) :: rest =>
    if l = labels then (l, change value) :: rest
    else (l, value) :: bump labels first change rest

/-- One more pass that came to its end, and how long it took. -/
def countPass (m : Metrics) (resource : ResourceLabels) (seconds : Float) :
    Metrics :=
  { m with
    durations := bump resource {} (fun h => h.observe seconds) m.durations }

/-- One more pass that failed. -/
def countError (m : Metrics) (resource : ResourceLabels) : Metrics :=
  { m with errors := bump resource 0 (· + 1) m.errors }

/-- One more action sent. -/
def countAction (m : Metrics) (labels : ActionLabels) : Metrics :=
  { m with actions := bump labels 0 (· + 1) m.actions }

/-- The series without those of a state that a resource was shown in before and
is not any more. -/
def dropState (kind : String) (resource : ResourceLabels)
    (previous current : Option String) (states : List StateLabels) :
    List StateLabels :=
  match previous with
  | some state =>
    if some state = current then states
    else states.filter fun s => s != { kind, resource, state }
  | none => states

/-- A resource is shown in another state than before; without a state it is not
shown any more. -/
def moveState (m : Metrics) (kind : String) (resource : ResourceLabels)
    (previous current : Option String) : Metrics :=
  let states := dropState kind resource previous current m.states
  match current with
  | some state =>
    let labels : StateLabels := { kind, resource, state }
    { m with states := if labels ∈ states then states else states ++ [labels] }
  | none => { m with states }

end Metrics

end DatabaseOperator
