import DatabaseOperator.Proofs.NextAction
import DatabaseOperator.Proofs.Pass.Observing
import DatabaseOperator.Proofs.Pass.Sending
import DatabaseOperator.Proofs.Status.Facts

/-!
# The courses a pass can take

A whole pass over a resource that stays, taken apart once: which stages it went
through, what each of them asked and was told, the status after each, and how
the pass ended. A statement about all such passes is a case distinction over
these courses.

- `Pass.Chooses`: the action that is to be done next, and that nothing holds
  back.
- `Pass.Sends`: that action is also fit to be sent.
- `Pass.onward`: what a pass does after its first stage.
- `Pass.Course`: the courses, and `Pass.course_of_walk`: every pass takes one of
  them.
-/

namespace DatabaseOperator.Pass

variable {p : Pass} {t : List PassEvent} {r : Except OperatorError Outcome}

/-- A pass that sends nothing ends with a status. -/
def quits (p : Pass) (s : Status) (requeue : Duration) :
    PassProgram (Except OperatorError Outcome) :=
  finish { status := s, persisted := p.resource.status } requeue

/-- The pass has observed the remote and found what is to be done next, if
anything, and nothing holds it back. -/
def Chooses (p : Pass) (t : List PassEvent) (s : Status)
    (action : Option CorrectiveAction) : Prop :=
  ∃ seen, (p.observeRemote p.initialStatus).Walk t (.proceed seen)
    ∧ p.resource.nextAction? seen = action
    ∧ p.trackInFlight seen action = .proceed s

/-- The precondition of an action, checked against what is known. -/
def check (s : Status) (action : CorrectiveAction) : PreconditionCheck :=
  Precondition.check action.kind s.identity s.lifecycleState

/-- The chosen action has not failed for good before, and its precondition
holds. -/
def Sends (p : Pass) (t : List PassEvent) (s : Status)
    (action : CorrectiveAction) : Prop :=
  ∃ chosen, p.Chooses t chosen (some action)
    ∧ chosen.failedAction ≠ some action.signature
    ∧ check (p.forgetFailed chosen) action = .met
    ∧ s = { p.forgetFailed chosen with waiting := none }

/-- What the answer to an action means for a status. -/
def afterAnswer (p : Pass) (s : Status) (action : CorrectiveAction) :
    Except RemoteError (Option Snapshot) → Status × Duration
  | .ok found => p.afterSuccess s action found
  | .error e => p.afterFailure s action e

/-- The end of a pass that has sent an action, after the answer to its call. -/
def sentEnding (p : Pass) (s : Status) (action : CorrectiveAction)
    (call : RemoteCall) (reply : Reply call.Answer) :
    PassProgram (Except OperatorError Outcome) :=
  let marked := p.markDispatched s action
  let after := p.afterAnswer marked action (p.answerOf call reply)
  finish
    { status := after.1, persisted := marked,
      dispatched := some action.kind } after.2

/-- The courses of a pass over a resource that is not being deleted. -/
inductive Course (p : Pass) : List PassEvent → Except OperatorError Outcome →
    Prop where
  /-- What was observed ends the pass. -/
  | stopped {t₁ t₂ : List PassEvent} {s : Status} {d : Duration}
      {r : Except OperatorError Outcome}
      (observed : (p.observeRemote p.initialStatus).Walk t₁ (.stop s d))
      (ending : (p.quits s d).Walk t₂ r) : Course p (t₁ ++ t₂) r
  /-- An action that was sent before is given time. -/
  | held {t₁ t₂ : List PassEvent} {seen s : Status} {d : Duration}
      {r : Except OperatorError Outcome}
      (observed : (p.observeRemote p.initialStatus).Walk t₁ (.proceed seen))
      (held : p.trackInFlight seen (p.resource.nextAction? seen) = .stop s d)
      (ending : (p.quits s d).Walk t₂ r) : Course p (t₁ ++ t₂) r
  /-- Nothing is to be done. -/
  | settled {t₁ t₂ t₃ : List PassEvent} {s s' : Status} {d : Duration}
      {r : Except OperatorError Outcome} (chosen : p.Chooses t₁ s none)
      (settling : (p.settle s).Walk t₂ (s', d))
      (ending : (p.quits s' d).Walk t₃ r) : Course p (t₁ ++ (t₂ ++ t₃)) r
  /-- The action failed for good before. -/
  | declined {t₁ t₂ : List PassEvent} {s : Status} {action : CorrectiveAction}
      {r : Except OperatorError Outcome} (chosen : p.Chooses t₁ s (some action))
      (failed : s.failedAction = some action.signature)
      (ending : (p.quits (declineFailed s) p.settings.resyncInterval).Walk t₂
        r) : Course p (t₁ ++ t₂) r
  /-- The precondition of the action does not hold. -/
  | waited {t₁ t₂ : List PassEvent} {s : Status} {action : CorrectiveAction}
      {expected : StateRule} {r : Except OperatorError Outcome}
      (chosen : p.Chooses t₁ s (some action))
      (fresh : s.failedAction ≠ some action.signature)
      (unmet : check (p.forgetFailed s) action = .unmet expected)
      (ending : (p.quits (p.waitFor (p.forgetFailed s) action expected).1
        (p.waitFor (p.forgetFailed s) action expected).2).Walk t₂ r) :
        Course p (t₁ ++ t₂) r
  /-- The action can never be sent. -/
  | illegal {t₁ t₂ : List PassEvent} {s : Status} {action : CorrectiveAction}
      {r : Except OperatorError Outcome} (chosen : p.Chooses t₁ s (some action))
      (fresh : s.failedAction ≠ some action.signature)
      (noRule : check (p.forgetFailed s) action = .noRule)
      (ending :
      (p.quits (p.declineIllegal (p.forgetFailed s) action)
        p.settings.resyncInterval).Walk t₂ r) : Course p (t₁ ++ t₂) r
  /-- The credentials for the action cannot be read. -/
  | uncredited {t₁ t₂ t₃ : List PassEvent} {s : Status}
      {action : CorrectiveAction} {e : OperatorError}
      {r : Except OperatorError Outcome} (sends : p.Sends t₁ s action)
      (credentials : (p.readCredentials action).Walk t₂ (.error e))
      (ending : (p.quits (p.afterMissingCredentials s action e).1
        (p.afterMissingCredentials s action e).2).Walk t₃ r) :
        Course p (t₁ ++ (t₂ ++ t₃)) r
  /-- The mark of the action cannot be stored. -/
  | unmarked {t₁ t₂ : List PassEvent} {s : Status} {action : CorrectiveAction}
      {c : Credentials} {e : OperatorError} (sends : p.Sends t₁ s action)
      (credentials : (p.readCredentials action).Walk t₂ (.ok c)) :
      Course p
        (t₁
          ++ (t₂
            ++ [.store (.saveStatus (p.markDispatched s action)) (.error e)]))
              (.error e)
  /-- The mark is stored, and the action is sent. -/
  | sent {t₁ t₂ t₃ : List PassEvent} {s : Status} {action : CorrectiveAction}
      {c : Credentials} {call : RemoteCall} {reply : Reply call.Answer}
      {r : Except OperatorError Outcome} (sends : p.Sends t₁ s action)
      (credentials : (p.readCredentials action).Walk t₂ (.ok c))
      (target : p.callOf s.identity action c = some call)
      (ending : (p.sentEnding s action call reply).Walk t₃ r) :
      Course p
        (t₁
          ++ (t₂
            ++ .saved (p.markDispatched s action) :: .remote call reply :: t₃))
              r

/-- An action that is chosen has a call: one that works on the object on record
is chosen only if there is one. -/
theorem Chooses.callOf {s : Status} {action : CorrectiveAction}
    (hdel : p.resource.deletionRequested = false)
    (h : p.Chooses t s (some action)) (c : Credentials) :
    ∃ call, p.callOf s.identity action c = some call := by
  obtain ⟨seen, -, needed, free⟩ := h
  have hkept := inherits_trackInFlight p seen (some action)
  rw [free] at hkept
  rw [show s.identity = seen.identity from hkept.1]
  -- the action was chosen by what was seen, and without an identity only those
  -- come first that need none
  apply isSome_callOf
  cases hid : seen.identity with
  | some id => exact .inl rfl
  | none =>
    rw [ManagedResource.nextAction?_of_unidentified hdel hid] at needed
    rcases ManagedResource.firstAction?_cases needed with rfl | ⟨id, -, rfl⟩
      | ⟨request, -, rfl, -⟩
    · exact .inr (.inl rfl)
    · exact .inr (.inr (.inl ⟨id, rfl⟩))
    · exact .inr (.inr (.inr ⟨request, rfl⟩))

theorem Chooses.isUpkeep {s : Status} {action : CorrectiveAction}
    (hdel : p.resource.deletionRequested = false)
    (h : p.Chooses t s (some action)) : action.IsUpkeep := by
  obtain ⟨seen, -, needed, -⟩ := h
  exact ManagedResource.isUpkeep_of_nextAction? hdel needed

/-- The identity on record when an action is sent is the one it was chosen
with. -/
theorem Sends.callOf {s : Status} {action : CorrectiveAction}
    (hdel : p.resource.deletionRequested = false) (h : p.Sends t s action)
    (c : Credentials) : ∃ call, p.callOf s.identity action c = some call := by
  obtain ⟨chosen, hchosen, -, -, rfl⟩ := h
  obtain ⟨call, hcall⟩ := hchosen.callOf hdel c
  refine ⟨call, ?_⟩
  rw [← hcall]
  exact congrArg (fun id => p.callOf id action c)
    (inherits_forgetFailed p chosen).1

/-- To send an action its credentials are read, and its mark is stored. -/
theorem walk_dispatch_cases {s : Status} {action : CorrectiveAction}
    (callable : ∀ c, ∃ call, p.callOf s.identity action c = some call)
    (h : (p.dispatch s p.resource.status action).Walk t r) :
    (∃ t₁ t₂ e, t = t₁ ++ t₂ ∧ (p.readCredentials action).Walk t₁ (.error e)
        ∧ (p.quits (p.afterMissingCredentials s action e).1
          (p.afterMissingCredentials s action e).2).Walk t₂ r)
      ∨ (∃ t₁ c e,
        t = t₁ ++ [.store (.saveStatus (p.markDispatched s action)) (.error e)]
        ∧ (p.readCredentials action).Walk t₁ (.ok c) ∧ r = .error e)
      ∨ ∃ (t₁ t₂ : List PassEvent) (c : Credentials) (call : RemoteCall)
        (reply : Reply call.Answer),
        t = t₁ ++ .saved (p.markDispatched s action) :: .remote call reply :: t₂
          ∧ (p.readCredentials action).Walk t₁ (.ok c)
          ∧ p.callOf s.identity action c = some call
          ∧ (p.sentEnding s action call reply).Walk t₂ r := by
  unfold dispatch at h
  obtain ⟨t₁, credentials, t₂, rfl, hcredentials, hrest⟩ :=
    Program.walk_bind_iff.mp h
  cases credentials with
  | error e => exact .inl ⟨t₁, t₂, e, rfl, hcredentials, hrest⟩
  | ok c =>
    obtain ⟨answer, t₃, rfl, hanswer⟩ := walk_askStore_bind_iff.mp hrest
    cases answer with
    | error e =>
      obtain ⟨rfl, rfl⟩ := Program.walk_pure_iff.mp hanswer
      exact .inr (.inl ⟨t₁, c, e, rfl, hcredentials, rfl⟩)
    | ok _ =>
      obtain ⟨call, hcall⟩ := callable c
      obtain ⟨t₄, result, t₅, rfl, hcarry, hresult⟩ :=
        Program.walk_bind_iff.mp hanswer
      obtain ⟨reply, rfl, rfl⟩ := (walk_carryOut_iff hcall).mp hcarry
      -- success and failure of the call share their ending, up to the status
      have ending : (p.sentEnding s action call reply).Walk t₅ r := by
        unfold sentEnding
        cases ha : p.answerOf call reply with
        | ok found =>
          rw [ha] at hresult
          exact hresult
        | error e =>
          rw [ha] at hresult
          exact hresult
      exact .inr
        (.inr ⟨t₁, t₅, c, call, reply, rfl, hcredentials, hcall, ending⟩)

/-- A pass that is about to send an action takes one of three courses. -/
theorem course_of_walk_dispatch {t₁ : List PassEvent} {s : Status}
    {action : CorrectiveAction} (hdel : p.resource.deletionRequested = false)
    (sends : p.Sends t₁ s action)
    (h : (p.dispatch s p.resource.status action).Walk t r) :
    p.Course (t₁ ++ t) r := by
  rcases walk_dispatch_cases (sends.callOf hdel) h with
    ⟨t₂, t₃, e, rfl, credentials, ending⟩ | ⟨t₂, c, e, rfl, credentials, rfl⟩
      | ⟨t₂, t₃, c, call, reply, rfl, credentials, target, ending⟩
  · exact .uncredited sends credentials ending
  · exact .unmarked sends credentials
  · exact .sent sends credentials target ending

/-- A pass that has chosen an action takes one of the courses that follow. -/
theorem course_of_walk_act {t₁ : List PassEvent} {s : Status}
    {action : CorrectiveAction} (hdel : p.resource.deletionRequested = false)
    (chosen : p.Chooses t₁ s (some action))
    (h : (p.act s p.resource.status action).Walk t r) :
    p.Course (t₁ ++ t) r := by
  unfold act at h
  split at h
  next failed => exact .declined chosen failed h
  next fresh =>
    simp only at h
    split at h
    next met =>
      exact course_of_walk_dispatch hdel (⟨s, chosen, fresh, met, rfl⟩) h
    next expected unmet => exact .waited chosen fresh unmet h
    next noRule => exact .illegal chosen fresh noRule h

/-- What a pass over a resource that stays does after its first stage. -/
def onward (p : Pass) : Step → PassProgram (Except OperatorError Outcome)
  | .stop s d => p.quits s d
  | .proceed seen =>
    match p.trackInFlight seen (p.resource.nextAction? seen) with
    | .stop s d => p.quits s d
    | .proceed s =>
      match p.resource.nextAction? seen with
      | none => p.settle s >>= fun settled => p.quits settled.1 settled.2
      | some action => p.act s p.resource.status action

theorem run_eq_of_stays (hdel : p.resource.deletionRequested = false) :
    p.run = p.observeRemote p.initialStatus >>= p.onward := by
  unfold run
  simp only [hdel, Bool.false_eq_true, ↓reduceIte]
  rfl

/-- After its first stage a pass over a resource that stays goes by what that
came to. -/
theorem walk_onward {t₁ t₂ : List PassEvent} {step : Step}
    (hdel : p.resource.deletionRequested = false) (h : p.run.Walk (t₁ ++ t₂) r)
    (observed : (p.observeRemote p.initialStatus).Walk t₁ step) :
    (p.onward step).Walk t₂ r := by
  rw [run_eq_of_stays hdel] at h
  obtain ⟨t₁', step, t₂', htrace, observed', hrest⟩ :=
    Program.walk_bind_iff.mp h
  obtain ⟨rfl, rfl, rfl⟩ := observed.unique observed' htrace
  exact hrest

/-- Every pass over a resource that is not being deleted takes one of the
courses. -/
theorem course_of_walk (hdel : p.resource.deletionRequested = false)
    (h : p.run.Walk t r) : p.Course t r := by
  rw [run_eq_of_stays hdel] at h
  obtain ⟨t₁, step, t₂, rfl, observed, hrest⟩ := Program.walk_bind_iff.mp h
  unfold onward at hrest
  cases step with
  | stop s d => exact .stopped observed hrest
  | proceed seen =>
    simp only at hrest
    split at hrest
    next s d held => exact .held observed held hrest
    next s free =>
      have chosen : p.Chooses t₁ s (p.resource.nextAction? seen) :=
        ⟨seen, observed, rfl, free⟩
      split at hrest
      next hnone =>
        obtain ⟨t₃, ⟨s', d⟩, t₄, rfl, settling, ending⟩ :=
          Program.walk_bind_iff.mp hrest
        exact .settled (hnone ▸ chosen) settling ending
      next action hsome => exact course_of_walk_act hdel (hsome ▸ chosen) hrest

end DatabaseOperator.Pass
