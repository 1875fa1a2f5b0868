import DatabaseOperator.Proofs.Pass.Sent

/-!
# Verdicts on actions

The status names two actions that are over: the one that was completed last, and
one that failed for good. Both verdicts are passed where the answer to an action
arrives, and where a pass finds nothing left to do. All else hands them on.

- `Status.verdicts`: both of them.
- `Pass.verdicts_of_walk_observeRemote`, `Pass.Chooses.verdicts`: a pass comes
  to act with the verdicts it began with.
- `Pass.lasting_of_walk_settle`, `Pass.lastCompletedAction_completeOneShot`:
  what a pass records that has nothing left to do.
- `Pass.lastCompletedAction_afterAnswer`: what an answer completes.
- `Pass.lastCompletedAction_of_saved_deletion`: a deletion completes nothing.
-/

namespace DatabaseOperator

/-- The verdicts on actions that are over: the one that was completed last, and
the one that failed for good. -/
def Status.verdicts (s : Status) : Option String × Option String :=
  (s.lastCompletedAction, s.failedAction)

theorem Status.lastCompletedAction_eq_of_verdicts {s s' : Status}
    (h : s.verdicts = s'.verdicts) :
    s.lastCompletedAction = s'.lastCompletedAction :=
  congrArg Prod.fst h

theorem Status.failedAction_eq_of_verdicts {s s' : Status}
    (h : s.verdicts = s'.verdicts) : s.failedAction = s'.failedAction :=
  congrArg Prod.snd h

/-- A status without what is merely reported, the count of failures and the
wallet. -/
def Status.lasting (s : Status) : Status :=
  { s with phase := .pending, conditions := [], consecutiveFailures := 0,
           walletSecret := none }

/-- The signature that is on record as completed once the remote took the
action, if the action is complete with that. -/
def CorrectiveAction.completes? : CorrectiveAction → Option String
  | pdb request => some request.signature
  | _ => none

namespace Pass

variable {p : Pass} {s s' seen : Status} {t t₁ t₂ : List PassEvent}
    {r : Except OperatorError Outcome}

/-! ## Observing -/

theorem verdicts_afterReadError (p : Pass) (s : Status) (e : RemoteError) :
    (p.afterReadError s e).status.verdicts = s.verdicts := by
  unfold afterReadError
  cases e.errorClass <;> rfl

theorem verdicts_afterMismatch (p : Pass) (s : Status)
    (direct : Option LifecycleState) (listed : Snapshot) :
    (p.afterMismatch s direct listed).status.verdicts = s.verdicts := by
  unfold afterMismatch
  simp only
  split <;> rfl

theorem verdicts_afterMissing (p : Pass) (s : Status) :
    (p.afterMissing s).status.verdicts = s.verdicts := by
  unfold afterMissing
  split
  next => rfl
  next =>
    split
    next => rfl
    next => split <;> rfl

theorem verdicts_mergeReads (p : Pass) (s : Status)
    (direct : Except RemoteError Snapshot) (listed : Option Snapshot) :
    (p.mergeReads s direct listed).status.verdicts = s.verdicts := by
  unfold mergeReads
  split
  next =>
    split
    next => rfl
    next => exact verdicts_afterMismatch p s _ _
  next => rfl
  next =>
    split
    next => exact verdicts_afterMismatch p s _ _
    next => rfl
  next =>
    split
    next => exact verdicts_afterMissing p s
    next => exact verdicts_afterReadError p s _

theorem verdicts_awaitCreated (p : Pass) (s : Status)
    (pending : PendingAction) :
    (p.awaitCreated s pending).status.verdicts = s.verdicts := by
  unfold awaitCreated
  simp only
  split <;> rfl

theorem Recovery.verdicts {step : Step} (h : p.Recovery s t step) :
    step.status.verdicts = s.verdicts := by
  cases h with
  | unmarked | irrelevant | repeatable | adopted => rfl
  | blind | unseen => exact verdicts_awaitCreated p s _

/-- The first stage of a pass passes no verdict. -/
theorem verdicts_of_walk_observeRemote {step : Step}
    (h : (p.observeRemote p.initialStatus).Walk t step) :
    step.status.verdicts = p.resource.status.verdicts := by
  cases hid : p.initialStatus.identity with
  | none => exact ((walk_observeRemote_of_none hid).mp h).verdicts
  | some id =>
    obtain ⟨direct, ⟨-, -, rfl⟩ | ⟨-, reply, -, rfl⟩⟩ :=
      walk_refresh_iff.mp ((walk_observeRemote_of_some hid).mp h)
    · exact verdicts_mergeReads p p.initialStatus _ _
    · exact verdicts_mergeReads p p.initialStatus _ _

theorem verdicts_trackInFlight (p : Pass) (s : Status)
    (action : Option CorrectiveAction) :
    (p.trackInFlight s action).status.verdicts = s.verdicts := by
  unfold trackInFlight
  split
  next => rfl
  next =>
    split
    next =>
      simp only
      split <;> rfl
    next => split <;> rfl

/-- A pass that has chosen what to do has the verdicts it began with. -/
theorem Chooses.verdicts {action : Option CorrectiveAction}
    (h : p.Chooses t s action) : s.verdicts = p.resource.status.verdicts := by
  obtain ⟨seen, observed, -, free⟩ := h
  have hkept := verdicts_trackInFlight p seen action
  rw [free] at hkept
  exact hkept.trans (verdicts_of_walk_observeRemote observed)

/-! ## Coming to act -/

/-- An action is sent with the completed action on record that the pass began
with. -/
theorem Sends.lastCompletedAction {action : CorrectiveAction}
    (h : p.Sends t s action) :
    s.lastCompletedAction = p.resource.status.lastCompletedAction := by
  obtain ⟨chosen, hchosen, -, -, rfl⟩ := h
  exact (lastCompletedAction_forgetFailed p chosen).trans
    (Status.lastCompletedAction_eq_of_verdicts hchosen.verdicts)

/-- No action that is sent is on record as one that failed for good. -/
theorem failedAction_of_sends {action : CorrectiveAction}
    (h : p.Sends t s action) : s.failedAction = none := by
  obtain ⟨chosen, -, -, -, rfl⟩ := h
  show (p.forgetFailed chosen).facts.failedAction = none
  rw [facts_forgetFailed]
  rfl

/-! ## Settling -/

theorem lasting_reportState (p : Pass) (s : Status) (state : LifecycleState) :
    (p.reportState s state).status.lasting = s.lasting := by
  unfold reportState
  simp only
  repeat' split
  all_goals rfl

/-- After its beginning the ending of a pass that needs no action only reports,
counts, and stores a wallet. -/
theorem lasting_of_walk_settle {settled : Status × Duration}
    (h : (p.settle s).Walk t settled) :
    settled.1.lasting = (p.completeOneShot (p.forgetObstacles s)).lasting := by
  cases settles_of_walk h with
  | unseen | pending | equipped | plain => rfl
  | @reported state _ _ _ reported =>
    have hreport :=
      lasting_reportState p (p.completeOneShot (p.forgetObstacles s)) state
    rw [reported] at hreport
    exact hreport

theorem lastCompletedAction_of_walk_settle {settled : Status × Duration}
    (h : (p.settle s).Walk t settled) :
    settled.1.lastCompletedAction
      = (p.completeOneShot (p.forgetObstacles s)).lastCompletedAction := by
  show settled.1.lasting.lastCompletedAction = _
  rw [lasting_of_walk_settle h]
  rfl

theorem facts_forgetObstacles (p : Pass) (s : Status) :
    (p.forgetObstacles s).facts
      = { s with waiting := none, failedAction := none }.facts := by
  unfold forgetObstacles
  simp only
  split
  next => exact Status.facts_clearFailed _ _
  next => rfl

theorem lastCompletedAction_forgetObstacles (p : Pass) (s : Status) :
    (p.forgetObstacles s).lastCompletedAction = s.lastCompletedAction := by
  show (p.forgetObstacles s).facts.lastCompletedAction = _
  rw [facts_forgetObstacles]
  rfl

/-- A pass with nothing left to do takes the declared action for completed if it
is one that ends with an object, and one is on record. -/
theorem lastCompletedAction_completeOneShot {request : PdbRequest}
    (hrequest : p.resource.pdbRequest = some request) (s : Status) :
    (p.completeOneShot s).lastCompletedAction
      = if s.identity.isSome && request.action.givesIdentity
        then some request.signature
        else s.lastCompletedAction := by
  unfold completeOneShot
  simp only [hrequest]
  cases s.identity.isSome && request.action.givesIdentity with
  | false => rfl
  | true =>
    by_cases hsame : s.lastCompletedAction = some request.signature
    · simp [hsame]
    · simp [hsame]

/-! ## Answers -/

theorem lastCompletedAction_afterSuccess (p : Pass) (s : Status)
    (action : CorrectiveAction) (found : Option Snapshot) :
    (p.afterSuccess s action found).1.lastCompletedAction
      = (action.completes? <|> s.lastCompletedAction) := by
  cases action with
  | pdb request =>
    obtain ⟨kind⟩ := request
    cases kind <;> cases found <;> rfl
  | provision | bind _ | updateAttributes _ | changeState _ | delete _ =>
    cases found <;> rfl

theorem lastCompletedAction_afterFailure (p : Pass) (s : Status)
    (action : CorrectiveAction) (e : RemoteError) :
    (p.afterFailure s action e).1.lastCompletedAction
      = s.lastCompletedAction := by
  unfold afterFailure
  simp only
  cases action.createsObject && e.errorClass == .transient
    <;> cases e.errorClass <;> rfl

/-- The answer to an action completes it, if it is one that is complete with
that, and else nothing. -/
theorem lastCompletedAction_afterAnswer (p : Pass) (s : Status)
    (action : CorrectiveAction)
    (answer : Except RemoteError (Option Snapshot)) :
    (p.afterAnswer s action answer).1.lastCompletedAction
      = s.lastCompletedAction
      ∨ ∃ request found, action = .pdb request ∧ answer = .ok found
        ∧ (p.afterAnswer s action answer).1.lastCompletedAction
          = some request.signature := by
  cases answer with
  | error e => exact .inl (lastCompletedAction_afterFailure p s action e)
  | ok found =>
    have hcompleted := lastCompletedAction_afterSuccess p s action found
    cases action with
    | pdb request => exact .inr ⟨request, found, rfl, rfl, hcompleted⟩
    | provision | bind _ | updateAttributes _ | changeState _ | delete _ =>
      exact .inl hcompleted

/-! ## Deleting -/

theorem verdicts_of_walk_identify {step : Step}
    (h : (p.identify s).Walk t step) : step.status.verdicts = s.verdicts := by
  cases hid : s.identity with
  | none => exact ((walk_identify_of_none hid).mp h).verdicts
  | some id =>
    obtain ⟨-, rfl⟩ := (walk_identify_of_some (by simp [hid])).mp h
    rfl

theorem verdicts_of_walk_locate {id : String} {observed : Option LifecycleState}
    (h : (p.locate s id).Walk t (.ok (s', observed))) :
    s'.verdicts = s.verdicts := by
  obtain ⟨found, hfound⟩ := sighted_of_walk_locate h
  cases found <;> cases hfound <;> rfl

theorem lastCompletedAction_afterDeleteFailure (p : Pass) (s : Status)
    (e : RemoteError) :
    (p.afterDeleteFailure s e).1.lastCompletedAction
      = s.lastCompletedAction := by
  unfold afterDeleteFailure
  cases e.errorClass <;> rfl

/-- The teardown of an object completes nothing. -/
theorem ObjectTeardown.lastCompletedAction {known : Status} {id : String}
    (h : p.ObjectTeardown known id t r) (hs : .saved s ∈ t) :
    s.lastCompletedAction = known.lastCompletedAction := by
  have hkept : ∀ {found : Status} {t₁ observed}, (p.locate known id).Walk t₁
      (.ok (found, observed)) →
        found.lastCompletedAction = known.lastCompletedAction :=
    fun located => Status.lastCompletedAction_eq_of_verdicts
      (verdicts_of_walk_locate located)
  cases h with
  | unread located failed ending =>
    obtain rfl :=
      eq_of_saved_mem_append_finish (saved_not_mem_locate located) ending hs
    have hread : (Step.stop _ _).status.verdicts = known.verdicts :=
      failed ▸ verdicts_afterReadError p known _
    exact Status.lastCompletedAction_eq_of_verdicts hread
  | gone located _ ending =>
    exact absurd hs
      (saved_not_mem_append_release (saved_not_mem_locate located) ending)
  | given located _ ending =>
    obtain rfl :=
      eq_of_saved_mem_append_finish (saved_not_mem_locate located) ending hs
    have hfound := hkept located
    exact hfound
  | unmarked located =>
    exact absurd hs
      (saved_not_mem_append_refused (saved_not_mem_locate located))
  | deleted located _ ending =>
    have hfound := hkept located
    rcases eq_of_saved_mem_sent (saved_not_mem_locate located) ending hs
      with rfl | rfl
    · exact hfound
    · exact hfound
  | vanished located _ _ ending =>
    have hfound := hkept located
    rcases eq_or_mem_of_saved_mem_sent (saved_not_mem_locate located) hs
      with rfl | hs
    · exact hfound
    · exact absurd hs (saved_not_mem_release ending)
  | kept located _ _ _ ending =>
    have hfound := hkept located
    rcases eq_of_saved_mem_sent (saved_not_mem_locate located) ending hs
      with rfl | rfl
    · exact hfound
    · exact (lastCompletedAction_afterDeleteFailure p _ _).trans hfound

/-- A deletion completes nothing. -/
theorem lastCompletedAction_of_saved_deletion
    (hdel : p.resource.deletionRequested = true) (h : p.run.Walk t r)
    (hs : .saved s ∈ t) :
    s.lastCompletedAction = p.resource.status.lastCompletedAction := by
  cases teardown_of_walk hdel h with
  | detached _ ending => exact absurd hs (saved_not_mem_release ending)
  | awaited _ identified ending =>
    have quiet := quiet_of_walk_identify identified
    obtain rfl := eq_of_saved_mem_append_finish
      (saveStatus_not_mem_of_quiet quiet) ending hs
    exact Status.lastCompletedAction_eq_of_verdicts
      (verdicts_of_walk_identify identified)
  | objectless _ identified _ ending =>
    have quiet := quiet_of_walk_identify identified
    exact absurd hs (saved_not_mem_append_release
      (saveStatus_not_mem_of_quiet quiet) ending)
  | known _ knows teardown =>
    have hs := saved_mem_of_quiet (quiet_of_knows knows) hs
    exact (teardown.lastCompletedAction hs).trans
      (Status.lastCompletedAction_eq_of_verdicts
        (verdicts_of_walk_identify knows.1))

end Pass

end DatabaseOperator
