import DatabaseOperator.Proofs.Pass.Course
import DatabaseOperator.Proofs.Pass.Settling
import DatabaseOperator.Proofs.Pass.Teardown

/-!
# What one status inherits from another

The identity of the remote object is written by one function, which leaves an
identity on record alone. The mark of an action is written where the action is
sent, and elsewhere only taken back. So a stage that neither sends an action nor
adopts an object hands on the identity it was given, and the mark or none.

- `Pass.inherits_mergeReads`, `Pass.inherits_of_walk_settle` and so on: what
  each stage hands on.
- `Pass.Chooses.inherits`, `Pass.Sends.inherits`: what a pass has inherited when
  it comes to act.
-/

namespace DatabaseOperator

namespace Pass

variable {p : Pass} {s s' : Status} {t : List PassEvent}

/-! ## Reading -/

theorem inherits_observe {id : String} (h : s.identity = some id)
    (found : Snapshot) : (observe s found).Inherits s :=
  ⟨(identity_observe_of_some h found).trans h.symm, .inl rfl⟩

theorem identity_observe_of_none (h : s.identity = none) (found : Snapshot) :
    (observe s found).identity = some found.id := by
  simp [observe, h]

theorem inherits_afterReadError (p : Pass) (s : Status) (e : RemoteError) :
    (p.afterReadError s e).status.Inherits s := by
  unfold afterReadError
  cases e.errorClass <;> exact ⟨rfl, .inl rfl⟩

theorem inherits_afterMismatch {id : String} (h : s.identity = some id)
    (direct : Option LifecycleState) (listed : Snapshot) :
    (p.afterMismatch s direct listed).status.Inherits s := by
  unfold afterMismatch
  simp only
  split <;> exact inherits_observe h listed

theorem inherits_afterMissing (p : Pass) (s : Status) :
    (p.afterMissing s).status.Inherits s := by
  unfold afterMissing
  split
  next => exact .of_facts (Status.facts_reportProgressing ..)
  next =>
    split
    next => exact ⟨rfl, .inl rfl⟩
    next =>
      split
      next => exact ⟨rfl, .inl rfl⟩
      next => exact ⟨rfl, .inr rfl⟩

theorem inherits_mergeReads {id : String} (h : s.identity = some id)
    (direct : Except RemoteError Snapshot) (listed : Option Snapshot) :
    (p.mergeReads s direct listed).status.Inherits s := by
  have hagreed :
      ∀ found, (observe { s with consistencyRetries := 0 } found).Inherits s :=
    fun found =>
      inherits_observe (s := { s with consistencyRetries := 0 }) h found
  unfold mergeReads
  split
  next =>
    split
    next => exact hagreed _
    next => exact inherits_afterMismatch h _ _
  next => exact hagreed _
  next =>
    split
    next => exact inherits_afterMismatch h _ _
    next => exact inherits_observe h _
  next =>
    split
    next => exact inherits_afterMissing p s
    next => exact inherits_afterReadError p s _

theorem inherits_of_walk_refresh {id : String} {step : Step}
    (h : s.identity = some id) (hwalk : (p.refresh s id).Walk t step) :
    step.status.Inherits s := by
  obtain ⟨direct, ⟨-, -, rfl⟩ | ⟨-, reply, -, rfl⟩⟩ := walk_refresh_iff.mp hwalk
  · exact inherits_mergeReads h _ _
  · exact inherits_mergeReads h _ _

/-- A create is waited for until the longest wait is over. -/
theorem awaitCreated_of_young {pending : PendingAction}
    (h : Instant.age pending.since p.now < p.settings.maxWait) :
    ∃ s' d, p.awaitCreated s pending = .stop s' d ∧ s'.facts = s.facts := by
  unfold awaitCreated
  simp only [h, ↓reduceIte]
  exact ⟨_, _, rfl, Status.facts_reportProgressing ..⟩

theorem awaitCreated_of_old {pending : PendingAction}
    (h : ¬ Instant.age pending.since p.now < p.settings.maxWait) :
    p.awaitCreated s pending = .proceed { s with inFlight := none } := by
  unfold awaitCreated
  simp only [h, ↓reduceIte]

theorem inherits_awaitCreated (p : Pass) (s : Status)
    (pending : PendingAction) :
    (p.awaitCreated s pending).status.Inherits s := by
  by_cases h : Instant.age pending.since p.now < p.settings.maxWait
  · obtain ⟨s', d, hstop, hfacts⟩ : ∃ s' d,
        p.awaitCreated s pending = .stop s' d ∧ s'.facts = s.facts :=
      awaitCreated_of_young h
    rw [hstop]
    exact .of_facts hfacts
  · rw [awaitCreated_of_old h]
    exact .unmarked s

/-- A search that is to go on later leaves the facts as they are. -/
theorem Recovery.facts_of_stop {d : Duration}
    (h : p.Recovery s t (.stop s' d)) : s'.facts = s.facts := by
  -- only a wait stops here, and a wait only reports
  have hawait : ∀ {pending : PendingAction},
      .stop s' d = p.awaitCreated s pending → s'.facts = s.facts := by
    intro pending hstep
    by_cases hyoung : Instant.age pending.since p.now < p.settings.maxWait
    · obtain ⟨s'', d', hstop, hfacts⟩ : ∃ s'' d',
          p.awaitCreated s pending = .stop s'' d' ∧ s''.facts = s.facts :=
        awaitCreated_of_young hyoung
      rw [hstop] at hstep
      cases hstep
      exact hfacts
    · rw [awaitCreated_of_old hyoung] at hstep
      cases hstep
  generalize hstep : Step.stop s' d = step at h
  cases h with
  | unmarked | irrelevant | repeatable | adopted => cases hstep
  | blind | unseen => exact hawait hstep

/-- The search for a lost create hands on what it was given, or adopts the only
live object that is listed. -/
theorem Recovery.inherits_or_adopts {step : Step} (h : p.Recovery s t step) :
    step.status.Inherits s
      ∨ ∃ pending reply found, s.inFlight = some pending
        ∧ isCreateSignature pending.signature = true
        ∧ p.resource.listFilter.displayName.isSome = true
        ∧ t = [.remote (.list p.resource.listFilter) reply]
        ∧ soleLive reply.items = some found
        ∧ step = .proceed (observe s found) := by
  cases h with
  | unmarked => exact .inl (.refl s)
  | irrelevant | repeatable => exact .inl (.unmarked s)
  | blind | unseen => exact .inl (inherits_awaitCreated p s _)
  | adopted marked create named sole =>
    exact .inr ⟨_, _, _, marked, create, named, rfl, sole, rfl⟩

/-- An object on record is read, and nothing else is adopted. -/
theorem inherits_of_walk_observeRemote {id : String} {step : Step}
    (h : p.resource.status.identity = some id)
    (hwalk : (p.observeRemote p.initialStatus).Walk t step) :
    step.status.Inherits p.resource.status := by
  have hinit : p.initialStatus.identity = some id := h
  have hrefresh := (walk_observeRemote_of_some hinit).mp hwalk
  exact (inherits_of_walk_refresh hinit hrefresh).trans ⟨rfl, .inl rfl⟩

/-! ## Choosing -/

/-- What is chosen with has been observed. -/
theorem Chooses.inherits {action : Option CorrectiveAction}
    (h : p.Chooses t s action) :
    ∃ seen, (p.observeRemote p.initialStatus).Walk t (.proceed seen)
      ∧ p.resource.nextAction? seen = action
      ∧ s.Inherits seen := by
  obtain ⟨seen, observed, needed, free⟩ := h
  refine ⟨seen, observed, needed, ?_⟩
  have hkept := inherits_trackInFlight p seen action
  rw [free] at hkept
  exact hkept

theorem inherits_waitFor (p : Pass) (s : Status) (action : CorrectiveAction)
    (expected : StateRule) : (p.waitFor s action expected).1.Inherits s := by
  unfold waitFor recordWait
  simp only
  split
  next =>
    split
    next => exact .of_facts (Status.facts_reportWaiting ..)
    next => exact ⟨rfl, .inl rfl⟩
  next => exact ⟨rfl, .inl rfl⟩

theorem inherits_declineFailed (s : Status) : (declineFailed s).Inherits s :=
  ⟨rfl, .inl rfl⟩

theorem inherits_declineIllegal (p : Pass) (s : Status)
    (action : CorrectiveAction) : (p.declineIllegal s action).Inherits s :=
  ⟨rfl, .inl rfl⟩

theorem inherits_afterMissingCredentials (p : Pass) (s : Status)
    (action : CorrectiveAction) (e : OperatorError) :
    (p.afterMissingCredentials s action e).1.Inherits s :=
  ⟨rfl, .inl rfl⟩

/-- What is sent with has been chosen with. -/
theorem Sends.inherits {action : CorrectiveAction} (h : p.Sends t s action) :
    ∃ seen, (p.observeRemote p.initialStatus).Walk t (.proceed seen)
      ∧ p.resource.nextAction? seen = some action
      ∧ s.Inherits seen := by
  obtain ⟨chosen, hchosen, -, -, rfl⟩ := h
  obtain ⟨seen, observed, needed, hkept⟩ := hchosen.inherits
  have hforgot := (inherits_forgetFailed p chosen).trans hkept
  exact ⟨seen, observed, needed, Status.Inherits.trans ⟨rfl, .inl rfl⟩ hforgot⟩

/-! ## Settling -/

theorem inherits_forgetObstacles (p : Pass) (s : Status) :
    (p.forgetObstacles s).Inherits s := by
  unfold forgetObstacles
  simp only
  split
  next =>
    exact (Status.Inherits.of_facts (Status.facts_clearFailed _ _)).trans
      ⟨rfl, .inl rfl⟩
  next => exact ⟨rfl, .inl rfl⟩

theorem inherits_completeOneShot (p : Pass) (s : Status) :
    (p.completeOneShot s).Inherits s := by
  unfold completeOneShot
  split
  next =>
    split
    next => exact ⟨rfl, .inr rfl⟩
    next => exact .refl s
  next => exact .refl s

theorem inherits_reportState (p : Pass) (s : Status) (state : LifecycleState) :
    (p.reportState s state).status.Inherits s := by
  unfold reportState
  simp only
  repeat' split
  all_goals exact ⟨rfl, .inl rfl⟩

/-- The ending of a pass that needs no action leaves the object alone. -/
theorem inherits_of_walk_settle {r : Status × Duration}
    (h : (p.settle s).Walk t r) : r.1.Inherits s := by
  have hbegin : (p.completeOneShot (p.forgetObstacles s)).Inherits s :=
    (inherits_completeOneShot p _).trans (inherits_forgetObstacles p s)
  refine Status.Inherits.trans ?_ hbegin
  cases settles_of_walk h with
  | unseen => exact .of_facts (Status.facts_reportProgressing ..)
  | @reported state _ _ _ reported =>
    have hreport :=
      inherits_reportState p (p.completeOneShot (p.forgetObstacles s)) state
    rw [reported] at hreport
    exact hreport
  | pending | equipped | plain => exact ⟨rfl, .inl rfl⟩

/-! ## Sending -/

theorem inherits_completePdb (s : Status) (request : PdbRequest) :
    (completePdb s request).Inherits s := by
  unfold completePdb
  simp only
  split <;> exact ⟨rfl, .inr rfl⟩

/-- An action that the remote took leaves an identity on record alone. -/
theorem inherits_afterSuccess {id : String} (h : s.identity = some id)
    (action : CorrectiveAction) (found : Option Snapshot) :
    (p.afterSuccess s action found).1.Inherits s := by
  have hreset :
      { s with consecutiveFailures := 0 }.Inherits s := ⟨rfl, .inl rfl⟩
  unfold afterSuccess
  simp only
  refine Status.Inherits.trans
    (.of_facts (Status.facts_reportProgressing ..)) ?_
  cases found with
  | none =>
    split
    next => exact (inherits_completePdb _ _).trans hreset
    next => exact (Status.Inherits.unmarked _).trans hreset
    next => exact hreset
  | some found =>
    have hseen :=
      (inherits_observe (s := { s with consecutiveFailures := 0 }) h
        found).trans hreset
    split
    next => exact (inherits_completePdb _ _).trans hseen
    next => exact (Status.Inherits.unmarked _).trans hseen
    next => exact hseen

/-- An action that the remote took, and that reports an object, brings its
identity. -/
theorem identity_afterSuccess_of_none (h : s.identity = none)
    (found : Snapshot) :
    (p.afterSuccess s .provision (some found)).1.identity = some found.id :=
  identity_observe_of_none (s := { s with consecutiveFailures := 0 }) h found

theorem inherits_afterFailure (p : Pass) (s : Status)
    (action : CorrectiveAction) (e : RemoteError) :
    (p.afterFailure s action e).1.Inherits s := by
  unfold afterFailure
  simp only
  cases action.createsObject && e.errorClass == .transient with
  | true => cases e.errorClass <;> exact ⟨rfl, .inl rfl⟩
  | false => cases e.errorClass <;> exact ⟨rfl, .inr rfl⟩

/-! ## Tearing down -/

theorem inherits_of_walk_locate {id : String} {observed : Option LifecycleState}
    (h : s.identity = some id)
    (hwalk : (p.locate s id).Walk t (.ok (s', observed))) : s'.Inherits s := by
  obtain ⟨found, hfound⟩ := sighted_of_walk_locate hwalk
  cases found with
  | none =>
    cases hfound
    exact .refl s
  | some found =>
    cases hfound
    exact inherits_observe h found

theorem inherits_afterDeleteFailure (p : Pass) (s : Status) (e : RemoteError) :
    (p.afterDeleteFailure s e).1.Inherits s := by
  unfold afterDeleteFailure
  cases e.errorClass <;> exact ⟨rfl, .inr rfl⟩

/-! ## What is stored -/

theorem saved_not_mem_locate {id : String}
    {found : Except RemoteError (Status × Option LifecycleState)}
    (h : (p.locate s' id).Walk t found) : .saved s ∉ t := by
  obtain ⟨direct, ⟨-, rfl, -⟩ | ⟨-, reply, rfl, -⟩⟩ :=
    walk_locate_iff.mp h <;> simp

/-- The teardown of an object stores what it was begun with, or the mark of the
delete call. -/
theorem ObjectTeardown.inherits {known : Status} {id : String}
    {r : Except OperatorError Outcome} (hknown : known.identity = some id)
    (h : p.ObjectTeardown known id t r) (hs : .saved s ∈ t) :
    s.Inherits known ∨ s.Inherits (p.markDeleted known) := by
  -- the mark of the delete call hides the one that is known, and the identity
  -- is the same
  have hmarked : ∀ {found : Status} {t₁ observed}, (p.locate known id).Walk t₁
      (.ok (found, observed)) →
        (p.markDeleted found).Inherits (p.markDeleted known) :=
    fun located => ⟨(inherits_of_walk_locate hknown located).1, .inl rfl⟩
  cases h with
  | unread located failed ending =>
    obtain rfl :=
      eq_of_saved_mem_append_finish (saved_not_mem_locate located) ending hs
    have hkept : (Step.stop _ _).status.Inherits known :=
      failed ▸ inherits_afterReadError p known _
    exact .inl hkept
  | gone located _ ending =>
    exact absurd hs
      (saved_not_mem_append_release (saved_not_mem_locate located) ending)
  | given located _ ending =>
    obtain rfl :=
      eq_of_saved_mem_append_finish (saved_not_mem_locate located) ending hs
    have hkept := inherits_of_walk_locate hknown located
    exact .inl
      (Status.Inherits.trans (.of_facts (Status.facts_reportDeleting ..)) hkept)
  | unmarked located =>
    exact absurd hs
      (saved_not_mem_append_refused (saved_not_mem_locate located))
  | deleted located _ ending =>
    refine .inr ?_
    rcases eq_of_saved_mem_sent (saved_not_mem_locate located) ending hs
      with rfl | rfl
    · exact hmarked located
    · have hkept := hmarked located
      exact Status.Inherits.trans ⟨rfl, .inl rfl⟩ hkept
  | vanished located _ _ ending =>
    rcases eq_or_mem_of_saved_mem_sent (saved_not_mem_locate located) hs
      with rfl | hs
    · exact .inr (hmarked located)
    · exact absurd hs (saved_not_mem_release ending)
  | kept located _ _ _ ending =>
    refine .inr ?_
    rcases eq_of_saved_mem_sent (saved_not_mem_locate located) ending hs
      with rfl | rfl
    · exact hmarked located
    · exact (inherits_afterDeleteFailure p _ _).trans (hmarked located)

end Pass

end DatabaseOperator
