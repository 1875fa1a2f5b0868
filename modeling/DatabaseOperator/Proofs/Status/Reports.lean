import DatabaseOperator.Proofs.Status.Facts

/-!
# Reports made again

A condition that is set to what it says already stays as it is, to the time of
its last transition, provided the spec is still of the same generation. So a
report that is made again, at any later time, changes nothing.

- `Status.Says`: what the status says under a type of condition.
- `Status.says_set`, `Status.Says.set`, `Status.set_of_said`: what is set is
  said, also after others are set, and setting it again changes nothing.
- `Status.reportReady_again` and so on: the reports made again.
-/

namespace DatabaseOperator

variable {stamp stamp' : Stamp} {type status reason message : String}
    {cs : List Condition}

/-- A condition that is revised to what it is stays as it is. -/
theorem Condition.revise_self (c : Condition)
    (hgeneration : stamp.generation = c.observedGeneration) :
    c.revise stamp c.status c.reason c.message = c := by
  simp [revise, hgeneration]

theorem setCondition_of_find? {c : Condition}
    (h : cs.find? (fun c => c.type == type) = some c)
    (hgeneration : stamp.generation = c.observedGeneration) :
    setCondition stamp type c.status c.reason c.message cs = cs := by
  induction cs with
  | nil => cases h
  | cons first rest ih =>
    unfold setCondition
    split
    next same =>
      simp only [List.find?_cons, same, beq_self_eq_true] at h
      cases h
      rw [Condition.revise_self _ hgeneration]
    next other =>
      simp only [List.find?_cons, beq_eq_false_iff_ne.mpr other] at h
      rw [ih h]

namespace Status

variable {s : Status} {generation : Option Int64} {value : Bool}

/-- The status says something under a type of condition, for the spec of a
generation. -/
def Says (s : Status) (generation : Option Int64) (type : String) (value : Bool)
    (reason message : String) : Prop :=
  ∃ c, s.condition? type = some c ∧ c.status = flagText value
    ∧ c.reason = reason ∧ c.message = message
    ∧ c.observedGeneration = generation

theorem says_set (s : Status) (stamp : Stamp) (type : String) (value : Bool)
    (reason message : String) :
    (s.set stamp type value reason message).Says stamp.generation type value
      reason message :=
  find?_setCondition ..

/-- What is said under one type is not touched by what is set under another. -/
theorem Says.set (h : s.Says generation type value reason message)
    {other : String} (hne : other ≠ type) (stamp : Stamp) (value' : Bool)
    (reason' message' : String) :
    (s.set stamp other value' reason' message').Says generation type value
      reason message := by
  obtain ⟨c, hc, hsaid⟩ := h
  exact ⟨c, (find?_setCondition_of_ne hne ..).trans hc, hsaid⟩

/-- Setting what is said already changes nothing. -/
theorem set_of_said (h : s.Says generation type value reason message)
    (hgeneration : stamp.generation = generation) :
    s.set stamp type value reason message = s := by
  obtain ⟨c, hc, hstatus, rfl, rfl, rfl⟩ := h
  have hconditions := setCondition_of_find? hc hgeneration
  rw [hstatus] at hconditions
  unfold set
  rw [hconditions]

/-! ## The reports -/

/-- Of the types of conditions no two are the same. -/
theorem conditionTypes_ne : ConditionType.progressing ≠ ConditionType.ready
    ∧ ConditionType.failed ≠ ConditionType.ready
    ∧ ConditionType.failed ≠ ConditionType.progressing := by
  decide

/-- A report of a phase with all three conditions. -/
def report (s : Status) (phase : Phase) (ready progressing failed : Bool)
    (reason message reason' message' : String) (stamp : Stamp) : Status :=
  (({ s with phase }.set stamp ConditionType.ready ready reason message).set
    stamp ConditionType.progressing progressing reason message).set stamp
    ConditionType.failed failed reason' message'

/-- Such a report, made again. -/
theorem report_again (s : Status) (phase : Phase)
    (ready progressing failed : Bool) (reason message reason' message' : String)
    (hgeneration : stamp'.generation = stamp.generation) :
    (s.report phase ready progressing failed reason message reason' message'
      stamp).report phase ready progressing
        failed reason message reason' message' stamp'
      = s.report phase ready progressing failed reason message reason' message'
        stamp := by
  obtain ⟨hprogressing, hfailed, hlast⟩ := conditionTypes_ne
  have hready :=
    ((says_set { s with phase } stamp ConditionType.ready ready reason
      message).set hprogressing stamp progressing reason message).set hfailed
      stamp failed reason' message'
  have hunder :=
    (says_set
      (({ s with phase }).set stamp ConditionType.ready ready reason message)
        stamp ConditionType.progressing progressing reason message).set hlast
        stamp failed reason' message'
  -- the phase is the one that was set, and under each type the status says
  -- already what is set
  unfold report
  generalize hreport : set (set _ _ _ _ _ _) stamp ConditionType.failed failed
    reason' message' = s' at hready hunder ⊢
  have hsaid : s'.Says stamp.generation ConditionType.failed failed reason'
    message' := hreport ▸ says_set ..
  have hphase : { s' with phase } = s' := by
    subst hreport
    rfl
  rw [hphase, set_of_said hready hgeneration, set_of_said hunder hgeneration,
    set_of_said hsaid hgeneration]

theorem reportReady_again (s : Status) (message : String)
    (hgeneration : stamp'.generation = stamp.generation) :
    (s.reportReady stamp message).reportReady stamp' message
      = s.reportReady stamp message :=
  report_again s .ready true false false Reason.converged message
    Reason.noFailure "" hgeneration

theorem reportFailed_again (s : Status) (reason message : String)
    (hgeneration : stamp'.generation = stamp.generation) :
    (s.reportFailed stamp reason message).reportFailed stamp' reason message
      = s.reportFailed stamp reason message :=
  report_again s .failed false false true reason message reason message
    hgeneration

theorem reportTerminated_again (s : Status) (message : String)
    (hgeneration : stamp'.generation = stamp.generation) :
    (s.reportTerminated stamp message).reportTerminated stamp' message
      = s.reportTerminated stamp message :=
  report_again s .terminated false false false Reason.remoteRemoved message
    Reason.noFailure "" hgeneration

theorem reportProgressing_again (s : Status) (phase : Phase)
    (reason message : String)
    (hgeneration : stamp'.generation = stamp.generation) :
    (s.reportProgressing stamp phase reason message).reportProgressing stamp'
      phase reason message
      = s.reportProgressing stamp phase reason message := by
  have hready :=
    (says_set { s with phase } stamp ConditionType.ready false reason
      message).set conditionTypes_ne.1 stamp true reason message
  have hsame : { s.reportProgressing stamp phase reason message with phase }
      = s.reportProgressing stamp phase reason message := rfl
  show (({ s.reportProgressing stamp phase reason message with phase }).set
    stamp' _ _ _ _).set stamp' _ _ _ _ = _
  rw [hsame]
  unfold reportProgressing setUnderWay at *
  rw [set_of_said hready hgeneration, set_of_said (says_set ..) hgeneration]

end Status

end DatabaseOperator
