import DatabaseOperator.Proofs.Pass.Observing
import DatabaseOperator.Proofs.Status.Facts

/-!
# The courses of a deletion

A pass over a resource that is being deleted, taken apart once, as `Pass.Course`
does it for the others.

- `Pass.Knows`: the object is on record, or has just been found.
- `Pass.ObjectTeardown`: what can become of an object that is known.
- `Pass.Teardown`: the courses, and `Pass.teardown_of_walk`: every such pass
  takes one of them.
-/

namespace DatabaseOperator.Pass

variable {p : Pass} {t : List PassEvent} {r : Except OperatorError Outcome}

/-- The status with which the teardown of an object begins. -/
def deletingStatus (p : Pass) : Status :=
  p.initialStatus.reportDeleting p.stamp "terminating remote object"

/-- The object of a deletion is on record, or has been found as a lost
create. -/
def Knows (p : Pass) (t : List PassEvent) (s : Status) (id : String) : Prop :=
  (p.identify p.deletingStatus).Walk t (.proceed s) ∧ s.identity = some id

/-- What is to be done about an object that was located. -/
def deletionStep (p : Pass) (s : Status) (id : String)
    (observed : Option LifecycleState) : DeletionStep :=
  nextDeletionStep true (some id) observed (p.deleteAge s) p.settings.maxWait
    p.settings.pollInterval

/-- The status that is stored before the delete call. -/
def markDeleted (p : Pass) (s : Status) : Status :=
  { s with inFlight := some (p.pending deleteSignature) }

/-- How far a deletion has come that has sent nothing. -/
def unsent (p : Pass) (s : Status) : Progress :=
  { status := s, persisted := p.resource.status }

/-- How far a deletion has come that has sent the delete call, with the status
after its answer. -/
def deleteSent (p : Pass) (s after : Status) : Progress :=
  { status := after, persisted := p.markDeleted s, dispatched := some .delete }

/-- What can become of an object that is known: the exchanges from the first
read of it, and the end of the pass. -/
inductive ObjectTeardown (p : Pass) (known : Status) (id : String) :
    List PassEvent → Except OperatorError Outcome → Prop where
  /-- The object cannot be read. -/
  | unread {t₁ t₂ : List PassEvent} {s : Status} {e : RemoteError}
      {d : Duration} {r : Except OperatorError Outcome}
      (located : (p.locate known id).Walk t₁ (.error e))
      (failed : p.afterReadError known e = .stop s d)
      (ending : (finish (p.unsent s) d).Walk t₂ r) :
      ObjectTeardown p known id (t₁ ++ t₂) r
  /-- The object is gone or going. -/
  | gone {t₁ t₂ : List PassEvent} {s : Status}
      {observed : Option LifecycleState} {r : Except OperatorError Outcome}
      (located : (p.locate known id).Walk t₁ (.ok (s, observed)))
      (step : p.deletionStep s id observed = .release)
      (ending : (release (p.unsent s)).Walk t₂ r) :
      ObjectTeardown p known id (t₁ ++ t₂) r
  /-- A delete call that was sent before is given time. -/
  | given {t₁ t₂ : List PassEvent} {s : Status}
      {observed : Option LifecycleState} {d : Duration}
      {r : Except OperatorError Outcome}
      (located : (p.locate known id).Walk t₁ (.ok (s, observed)))
      (step : p.deletionStep s id observed = .awaitTeardown d)
      (ending :
      (finish
        (p.unsent
          (s.reportDeleting p.stamp
            "waiting for the remote object to terminate")) d).Walk t₂ r) :
              ObjectTeardown p known id (t₁ ++ t₂) r
  /-- The mark of the delete call cannot be stored. -/
  | unmarked {t₁ : List PassEvent} {s : Status}
      {observed : Option LifecycleState} {e : OperatorError}
      (located : (p.locate known id).Walk t₁ (.ok (s, observed)))
      (step : p.deletionStep s id observed = .dispatch) :
      ObjectTeardown p known id
        (t₁ ++ [.store (.saveStatus (p.markDeleted s)) (.error e)]) (.error e)
  /-- The remote takes the delete call. -/
  | deleted {t₁ t₂ : List PassEvent} {s : Status}
      {observed : Option LifecycleState} {r : Except OperatorError Outcome}
      (located : (p.locate known id).Walk t₁ (.ok (s, observed)))
      (step : p.deletionStep s id observed = .dispatch)
      (ending :
      (finish (p.deleteSent s { p.markDeleted s with consecutiveFailures := 0 })
        p.settings.pollInterval).Walk t₂ r) : ObjectTeardown p known id
        (t₁
          ++ .saved (p.markDeleted s) :: .remote (.delete id) (.answered ())
            :: t₂) r
  /-- The object was gone before the delete call came. -/
  | vanished {t₁ t₂ : List PassEvent} {s : Status}
      {observed : Option LifecycleState} {e : RemoteError}
      {r : Except OperatorError Outcome}
      (located : (p.locate known id).Walk t₁ (.ok (s, observed)))
      (step : p.deletionStep s id observed = .dispatch)
      (absent : e.isNotFound = true)
      (ending : (release (p.deleteSent s (p.markDeleted s))).Walk t₂ r) :
      ObjectTeardown p known id
        (t₁
          ++ .saved (p.markDeleted s) :: .remote (.delete id) (.failed e) :: t₂)
            r
  /-- The delete call fails. -/
  | kept {t₁ t₂ : List PassEvent} {s : Status}
      {observed : Option LifecycleState} {reply : Reply Unit} {e : RemoteError}
      {r : Except OperatorError Outcome}
      (located : (p.locate known id).Walk t₁ (.ok (s, observed)))
      (step : p.deletionStep s id observed = .dispatch)
      (failed : p.outcomeOf reply = .error e) (present : e.isNotFound = false)
      (ending :
      (finish (p.deleteSent s (p.afterDeleteFailure (p.markDeleted s) e).1)
        (p.afterDeleteFailure (p.markDeleted s) e).2).Walk t₂ r) :
      ObjectTeardown p known id
        (t₁ ++ .saved (p.markDeleted s) :: .remote (.delete id) reply :: t₂) r

/-- The courses of a pass over a resource that is being deleted. -/
inductive Teardown (p : Pass) : List PassEvent → Except OperatorError Outcome →
    Prop where
  /-- The object is to stay. -/
  | detached {t : List PassEvent} {r : Except OperatorError Outcome}
      (soft : p.resource.hardLink = false)
      (ending : (release (p.unsent p.initialStatus)).Walk t r) : Teardown p t r
  /-- A create that was sent is given time to show its object. -/
  | awaited {t₁ t₂ : List PassEvent} {s : Status} {d : Duration}
      {r : Except OperatorError Outcome} (hard : p.resource.hardLink = true)
      (identified : (p.identify p.deletingStatus).Walk t₁ (.stop s d))
      (ending :
      (finish
        (p.unsent
          (s.reportDeleting p.stamp
            "waiting for an earlier create before terminating")) d).Walk t₂ r) :
              Teardown p (t₁ ++ t₂) r
  /-- No object is known, and none is waited for. -/
  | objectless {t₁ t₂ : List PassEvent} {s : Status}
      {r : Except OperatorError Outcome} (hard : p.resource.hardLink = true)
      (identified : (p.identify p.deletingStatus).Walk t₁ (.proceed s))
      (unknown : s.identity = none)
      (ending : (release (p.unsent s)).Walk t₂ r) : Teardown p (t₁ ++ t₂) r
  /-- The object is known. -/
  | known {t₁ t₂ : List PassEvent} {s : Status} {id : String}
      {r : Except OperatorError Outcome} (hard : p.resource.hardLink = true)
      (knows : p.Knows t₁ s id) (teardown : p.ObjectTeardown s id t₂ r) :
      Teardown p (t₁ ++ t₂) r

/-- A read that fails ends the pass. -/
theorem afterReadError_eq_stop (p : Pass) (s : Status) (e : RemoteError) :
    ∃ s' d, p.afterReadError s e = .stop s' d := by
  unfold afterReadError
  cases e.errorClass <;> exact ⟨_, _, rfl⟩

/-- A deletion that sends the delete call takes one of four courses. -/
theorem objectTeardown_of_walk_sendDelete {known s : Status} {id : String}
    {t₁ : List PassEvent} {observed : Option LifecycleState}
    (located : (p.locate known id).Walk t₁ (.ok (s, observed)))
    (step : p.deletionStep s id observed = .dispatch)
    (h : (p.sendDelete s id).Walk t r) :
    p.ObjectTeardown known id (t₁ ++ t) r := by
  unfold sendDelete at h
  obtain ⟨answer, t₂, rfl, hanswer⟩ := walk_askStore_bind_iff.mp h
  cases answer with
  | error e =>
    obtain ⟨rfl, rfl⟩ := Program.walk_pure_iff.mp hanswer
    exact .unmarked located step
  | ok _ =>
    obtain ⟨reply, t₃, rfl, hreply⟩ := walk_call_bind_iff.mp hanswer
    cases hr : p.outcomeOf reply with
    | ok a =>
      rw [hr] at hreply
      obtain rfl := outcomeOf_eq_ok_iff.mp hr
      exact .deleted located step hreply
    | error e =>
      rw [hr] at hreply
      simp only at hreply
      split at hreply
      next absent =>
        obtain rfl := eq_failed_of_isNotFound hr absent
        exact .vanished located step absent hreply
      next present =>
        exact .kept located step hr (by simpa using present) hreply

/-- A deletion whose object is known takes one of seven courses. -/
theorem objectTeardown_of_walk {s : Status} {id : String}
    (hard : p.resource.hardLink = true)
    (h : (p.tearDownObject s p.resource.status id).Walk t r) :
    p.ObjectTeardown s id t r := by
  unfold tearDownObject at h
  obtain ⟨t₂, located, t₃, rfl, hlocated, hrest⟩ := Program.walk_bind_iff.mp h
  cases located with
  | error e =>
    obtain ⟨s', d, hstop⟩ := afterReadError_eq_stop p s e
    simp only [hstop] at hrest
    exact .unread hlocated hstop hrest
  | ok found =>
    simp only [hard] at hrest
    split at hrest
    next step => exact .gone hlocated step hrest
    next d step => exact .given hlocated step hrest
    next step => exact objectTeardown_of_walk_sendDelete hlocated step hrest

/-- What a deletion does once it has looked for its object. -/
def afterIdentify (p : Pass) : Step → PassProgram (Except OperatorError Outcome)
  | .stop s requeue =>
    finish
      (p.unsent
        (s.reportDeleting p.stamp
          "waiting for an earlier create before terminating")) requeue
  | .proceed s =>
    match s.identity with
    | none => release (p.unsent s)
    | some id => p.tearDownObject s p.resource.status id

theorem tearDown_eq_of_hard (hard : p.resource.hardLink = true) :
    p.tearDown p.initialStatus p.resource.status = p.identify p.deletingStatus
      >>= p.afterIdentify := by
  unfold tearDown identify
  rw [hard]
  simp only [Bool.not_true, Bool.false_eq_true, ↓reduceIte]
  -- both branches end with the same step, which `identify` has at its end
  show (if p.deletingStatus.identity.isNone = true
    then p.recoverCreate p.deletingStatus >>= p.afterIdentify
    else pure (.proceed p.deletingStatus) >>= p.afterIdentify) = _
  split <;> rfl

/-- Every pass over a resource that is being deleted takes one of the
courses. -/
theorem teardown_of_walk (hdel : p.resource.deletionRequested = true)
    (h : p.run.Walk t r) : p.Teardown t r := by
  unfold run at h
  simp only [hdel, ↓reduceIte] at h
  cases hlink : p.resource.hardLink with
  | false =>
    unfold tearDown at h
    rw [hlink] at h
    exact .detached hlink h
  | true =>
    rw [tearDown_eq_of_hard hlink] at h
    obtain ⟨t₁, step, t₂, rfl, identified, hrest⟩ := Program.walk_bind_iff.mp h
    cases step with
    | stop s d => exact .awaited hlink identified hrest
    | proceed s =>
      unfold afterIdentify at hrest
      simp only at hrest
      split at hrest
      next unknown => exact .objectless hlink identified unknown hrest
      next id known =>
        exact .known hlink ⟨identified, known⟩
          (objectTeardown_of_walk hlink hrest)

end DatabaseOperator.Pass
