import DatabaseOperator.Pass.Run

/-!
# What reports leave alone

A report changes the phase and the conditions of a status and nothing else. What
is left are its facts: what was observed, what was sent, what is waiting, what
has failed. A pass decides by the facts only.

- `Status.facts`: a status without phase and conditions.
- `Status.facts_reportProgressing` and so on: reports keep the facts.
- `Status.find?_setCondition`, `Status.find?_setCondition_of_ne`: what a report
  sets stands there afterwards, and nothing else changes.
- `Status.Inherits`: the identity is the same, and the mark is the same or gone.
- `Pass.inherits_trackInFlight`, `Pass.inherits_forgetFailed`: two stages that
  hand on what they were given.
-/

namespace DatabaseOperator

namespace Status

variable (s : Status) (stamp : Stamp)

/-- A status without what is merely reported. -/
def facts (s : Status) : Status :=
  { s with phase := .pending, conditions := [] }

@[simp] theorem facts_reportProgressing (phase : Phase)
    (reason message : String) :
    (s.reportProgressing stamp phase reason message).facts = s.facts :=
  rfl

@[simp] theorem facts_reportWaiting (reason message : String) :
    (s.reportWaiting stamp reason message).facts = s.facts := rfl

@[simp] theorem facts_reportDeleting (message : String) :
    (s.reportDeleting stamp message).facts = s.facts :=
  rfl

@[simp] theorem facts_clearFailed : (s.clearFailed stamp).facts = s.facts := by
  unfold clearFailed
  split <;> rfl

variable {s} {s' : Status}

theorem identity_eq_of_facts (h : s.facts = s'.facts) :
    s.identity = s'.identity := by
  show s.facts.identity = s'.facts.identity
  rw [h]

theorem inFlight_eq_of_facts (h : s.facts = s'.facts) :
    s.inFlight = s'.inFlight := by
  show s.facts.inFlight = s'.facts.inFlight
  rw [h]

/-! ## Conditions -/

/-- The condition that was set is found under its type, with what was said of it
and the generation it is for. -/
theorem find?_setCondition (stamp : Stamp) (type status reason message : String)
    (cs : List Condition) :
    ∃ c, (setCondition stamp type status reason message cs).find?
      (fun c => c.type == type) = some c
      ∧ c.status = status ∧ c.reason = reason ∧ c.message = message
      ∧ c.observedGeneration = stamp.generation := by
  induction cs with
  | nil => simp [setCondition]
  | cons c rest ih =>
    unfold setCondition
    split
    next same => simp [Condition.revise, same]
    next other => simpa [other] using ih

/-- Conditions of other types are left alone. -/
theorem find?_setCondition_of_ne {type other : String} (h : type ≠ other)
    (stamp : Stamp) (status reason message : String) (cs : List Condition) :
    (setCondition stamp type status reason message cs).find?
      (fun c => c.type == other)
      = cs.find? fun c => c.type == other := by
  induction cs with
  | nil => simp [setCondition, h]
  | cons c rest ih =>
    unfold setCondition
    split
    next same =>
      have hother : c.type ≠ other := fun h' => h (same ▸ h')
      simp [Condition.type_revise, hother]
    next => simp only [List.find?_cons, ih]

/-- What is under way leaves the report of a failure as it is. -/
theorem condition?_failed_reportProgressing (s : Status) (stamp : Stamp)
    (phase : Phase) (reason message : String) :
    (s.reportProgressing stamp phase reason message).condition?
      ConditionType.failed
      = s.condition? ConditionType.failed := by
  have hother : ConditionType.ready ≠ ConditionType.failed
      ∧ ConditionType.progressing ≠ ConditionType.failed := by
    decide
  have hready :=
    find?_setCondition_of_ne hother.1 stamp (flagText false) reason message
      s.conditions
  exact (find?_setCondition_of_ne hother.2 stamp (flagText true) reason message
    _).trans hready

/-- A failure that is not retried is reported with its reason. -/
theorem condition?_reportFailed (s : Status) (stamp : Stamp)
    (reason message : String) :
    ∃ c, (s.reportFailed stamp reason message).condition? ConditionType.failed
      = some c
      ∧ c.status = flagText true ∧ c.reason = reason ∧ c.message = message
      ∧ c.observedGeneration = stamp.generation :=
  find?_setCondition ..

/-! ## Inheritance -/

/-- A status that knows the object which another one knows, and marks no action
but the one that is marked there. -/
def Inherits (s' s : Status) : Prop :=
  s'.identity = s.identity ∧ (s'.inFlight = s.inFlight ∨ s'.inFlight = none)

variable {s'' : Status}

theorem Inherits.refl (s : Status) : s.Inherits s :=
  ⟨rfl, .inl rfl⟩

theorem Inherits.trans (h : s''.Inherits s') (h' : s'.Inherits s) :
    s''.Inherits s := by
  obtain ⟨hid, hmark⟩ := h
  obtain ⟨hid', hmark'⟩ := h'
  refine ⟨hid.trans hid', ?_⟩
  rcases hmark with hmark | hmark
  · rw [hmark]
    exact hmark'
  · exact .inr hmark

theorem Inherits.of_facts (h : s'.facts = s.facts) : s'.Inherits s :=
  ⟨identity_eq_of_facts h, .inl (inFlight_eq_of_facts h)⟩

theorem Inherits.unmarked (s : Status) :
    { s with inFlight := none }.Inherits s :=
  ⟨rfl, .inr rfl⟩

end Status

namespace Pass

variable {p : Pass} {s s' : Status}

/-- The status that a stage ends with. -/
def Step.status : Step → Status
  | .proceed s | .stop s _ => s

theorem inherits_trackInFlight (p : Pass) (s : Status)
    (action : Option CorrectiveAction) :
    (p.trackInFlight s action).status.Inherits s := by
  unfold trackInFlight
  split
  next => exact .refl s
  next =>
    split
    next =>
      simp only
      split
      next => exact .of_facts (Status.facts_reportProgressing ..)
      next => exact .unmarked s
    next =>
      split
      next => exact .refl s
      next => exact .unmarked s

/-- Forgetting a failure changes no other fact. -/
theorem facts_forgetFailed (p : Pass) (s : Status) :
    (p.forgetFailed s).facts = { s with failedAction := none }.facts := by
  unfold forgetFailed
  split
  next => exact Status.facts_clearFailed _ _
  next h =>
    have hnone : s.failedAction = none := by simpa using h
    cases s
    cases hnone
    rfl

theorem inherits_forgetFailed (p : Pass) (s : Status) :
    (p.forgetFailed s).Inherits s :=
  (Status.Inherits.of_facts (facts_forgetFailed p s)).trans ⟨rfl, .inl rfl⟩

end Pass

end DatabaseOperator
