import DatabaseOperator.Manifest.Managed
import DatabaseOperator.Proofs.Pass.Missing
import DatabaseOperator.Proofs.Pass.Settling

/-!
# What it takes to be reported as ready

Ready is what is left when nothing speaks against it. A pass that reports it has
observed its object, needs no action, follows none, and has the wallet stored if
there is to be one. What it does not ask is whether the object can be used: a
state that is none of the special ones is ready too.

- `Status.readyFlag`: what a status says of readiness, and what the reports make
  of it.
- `ManagedResource.SeeksObject`: the resources for which an object is wanted, as
  for every declared database.
- `Pass.SetsReady`: a pass reports its resource as ready.
- `Pass.Calm`, `Pass.reportState_eq_proceed_iff`: the states that stand in the
  way of nothing.
- `Pass.Converged`, `Pass.converged_of_settle`: what holds of such a pass.
- `Pass.reported_ready_unsound_iff`: when it is reported of an object that is in
  no sound state.
-/

namespace DatabaseOperator

/-! ## The condition -/

namespace Status

/-- What a status says of readiness, if anything. -/
def readyFlag (s : Status) : Option String :=
  (s.condition? ConditionType.ready).map Condition.status

/-- The status says that the resource is ready. -/
def SaysReady (s : Status) : Prop :=
  s.readyFlag = some (flagText true)

/-- The status says that the resource is not ready. -/
def Withholds (s : Status) : Prop :=
  s.readyFlag = some (flagText false)

variable (s : Status) (stamp : Stamp) (value : Bool) (reason message : String)

@[simp] theorem readyFlag_set_ready :
    (s.set stamp ConditionType.ready value reason message).readyFlag
      = some (flagText value) := by
  obtain ⟨c, hc, hstatus, -⟩ :=
    find?_setCondition stamp ConditionType.ready (flagText value) reason message
      s.conditions
  show Option.map Condition.status (List.find? _ (setCondition ..)) = _
  rw [hc, Option.map_some, hstatus]

@[simp] theorem readyFlag_set_progressing :
    (s.set stamp ConditionType.progressing value reason message).readyFlag
      = s.readyFlag :=
  congrArg (Option.map Condition.status)
    (find?_setCondition_of_ne (by decide) _ _ _ _ _)

@[simp] theorem readyFlag_set_failed :
    (s.set stamp ConditionType.failed value reason message).readyFlag
      = s.readyFlag :=
  congrArg (Option.map Condition.status)
    (find?_setCondition_of_ne (by decide) _ _ _ _ _)

@[simp] theorem readyFlag_reportReady :
    (s.reportReady stamp message).readyFlag = some (flagText true) := by
  simp [reportReady]

@[simp] theorem readyFlag_reportRetrying :
    (s.reportRetrying stamp reason message).readyFlag
      = some (flagText false) := by
  simp [reportRetrying, setUnderWay]

@[simp] theorem readyFlag_reportProgressing (phase : Phase) :
    (s.reportProgressing stamp phase reason message).readyFlag
      = some (flagText false) :=
  readyFlag_reportRetrying ..

@[simp] theorem readyFlag_reportWaiting :
    (s.reportWaiting stamp reason message).readyFlag = some (flagText false) :=
  readyFlag_reportRetrying ..

@[simp] theorem readyFlag_reportFailed :
    (s.reportFailed stamp reason message).readyFlag
      = some (flagText false) := by
  simp [reportFailed]

@[simp] theorem readyFlag_reportTerminated :
    (s.reportTerminated stamp message).readyFlag = some (flagText false) := by
  simp [reportTerminated]

end Status

/-! ## Resources that want an object -/

namespace ManagedResource

/-- Something is to be done about the resource while its object is not known:
the object is made, or the one that is declared is bound. -/
def SeeksObject (r : ManagedResource) : Prop :=
  r.firstAction?.isSome = true

theorem seeksObject_of_request {r : ManagedResource} {request : PdbRequest}
    (h : r.pdbRequest = some request)
    (gives : request.action.givesIdentity = true) : r.SeeksObject := by
  unfold SeeksObject firstAction?
  simp [h, Option.filter, gives]

theorem seeksObject_of_adopts {r : ManagedResource} {id : String}
    (h : r.adoptIdentity = some id) : r.SeeksObject := by
  unfold SeeksObject firstAction?
  rw [h]
  split <;> rfl

theorem seeksObject_of_canProvision {r : ManagedResource}
    (h : r.canProvision = true) : r.SeeksObject := by
  unfold SeeksObject firstAction?
  rw [if_pos h]
  split
  next => rfl
  next => split <;> rfl

end ManagedResource

/-- Every declared database wants an object, with or without a compartment to
fall back on. -/
theorem ManagedDatabase.seeksObject_view (db : ManagedDatabase)
    (compartment : String) :
    db.view.SeeksObject
      ∧ (db.view.withDefaultCompartment compartment).SeeksObject := by
  have hview : db.view.SeeksObject := by
    cases db with
    | autonomous db => exact ManagedResource.seeksObject_of_canProvision rfl
    | pluggable db =>
      cases gives : db.spec.action.givesIdentity with
      | true => exact ManagedResource.seeksObject_of_request rfl gives
      | false =>
        have hadopts : (ManagedResource.ofPluggable db).adoptIdentity
            = some db.spec.pdbName := by
          simp [ManagedResource.ofPluggable, gives]
        exact ManagedResource.seeksObject_of_adopts hadopts
  exact ⟨hview, hview⟩

namespace Pass

variable {p : Pass} {s s' seen : Status} {state : LifecycleState} {d : Duration}
    {t : List PassEvent} {o : Outcome}

/-- The direct read and the list disagree on the state of the object, or only
the list has it. -/
def Disputed (p : Pass) (t : List PassEvent) : Prop :=
  ∃ id direct listed, p.Reads id t direct (some listed)
    ∧ ((∃ found, direct = .answered found ∧ found.state ≠ listed.state)
      ∨ direct.isNotFound = true)

/-- A pass reports its resource as ready: the status that it leaves says so, and
not only because an earlier pass said so. A pass says nothing of its own that
lets the resource go, looks again at reads which disagree, or declines an
action. -/
structure SetsReady (p : Pass) (t : List PassEvent) (o : Outcome) : Prop where
  ready : o.status.SaysReady
  held : o.finalized = false
  undisputed : ¬ p.Disputed t
  undeclined : o.status.phase ≠ .failed

/-! ## Reports of other things -/

theorem SetsReady.not_withholds (h : p.SetsReady t o) :
    ¬ o.status.Withholds := by
  intro hflag
  have hready := h.ready
  rw [Status.SaysReady, hflag] at hready
  exact absurd hready (by decide)

theorem withholds_afterReadError (p : Pass) (s : Status) (e : RemoteError) :
    (p.afterReadError s e).status.Withholds := by
  unfold afterReadError
  cases e.errorClass <;> simp [Step.status, Status.Withholds]

theorem withholds_afterMissing (h : p.afterMissing s = .stop s' d) :
    s'.Withholds := by
  unfold afterMissing at h
  split at h
  next =>
    cases h
    simp [Status.Withholds]
  next =>
    split at h
    next => cases h
    next =>
      split at h
      next => cases h
      next =>
        cases h
        simp [Status.Withholds]

/-- Reads that end the pass say that the resource is not ready, unless they
disagree. -/
theorem withholds_mergeReads {direct : Except RemoteError Snapshot}
    {listed : Option Snapshot} (h : p.mergeReads s direct listed = .stop s' d) :
    s'.Withholds
      ∨ ∃ other, listed = some other
        ∧ ((∃ found, direct = .ok found ∧ found.state ≠ other.state)
          ∨ ∃ e, direct = .error e ∧ e.isNotFound = true) := by
  unfold mergeReads at h
  split at h
  next found other =>
    split at h
    next => cases h
    next differ => exact .inr ⟨other, rfl, .inl ⟨found, rfl, differ⟩⟩
  next => cases h
  next e other =>
    split at h
    next absent => exact .inr ⟨other, rfl, .inr ⟨e, rfl, absent⟩⟩
    next => cases h
  next e =>
    split at h
    next => exact .inl (withholds_afterMissing h)
    next =>
      have hstatus := withholds_afterReadError p s e
      rw [h] at hstatus
      exact .inl hstatus

/-- Reads that disagree end the pass. -/
theorem not_disputed_of_walk_observeRemote {rest : List PassEvent}
    (h : (p.observeRemote p.initialStatus).Walk t (.proceed seen)) :
    ¬ p.Disputed (t ++ rest) := by
  rintro ⟨id, direct, listed, reads, hdispute⟩
  obtain ⟨direct', listed', reads', hstep⟩ :=
    reads_of_walk_observeRemote reads.known h rest
  obtain ⟨rfl, rfl⟩ := reads.unique reads'
  have hmismatch :
      ∃ state, p.mergeReads p.initialStatus (p.outcomeOf direct) (some listed)
        = p.afterMismatch p.initialStatus state listed := by
    rcases hdispute with ⟨found, rfl, differ⟩ | absent
    · exact ⟨some found.state, by simp [mergeReads, differ]⟩
    · cases direct with
      | failed e =>
        have hmissing : e.isNotFound = true := absent
        exact ⟨none, by simp [mergeReads, hmissing]⟩
      | answered | hung => cases absent
  obtain ⟨state, hmismatch⟩ := hmismatch
  obtain ⟨s', d, hstop⟩ := afterMismatch_eq_stop p p.initialStatus state listed
  rw [hmismatch, hstop] at hstep
  cases hstep

/-- A lost create that is still to show its object is not ready. -/
theorem Recovery.withholds (h : p.Recovery s t (.stop s' d)) :
    s'.Withholds := by
  have hawait : ∀ {pending : PendingAction},
      p.awaitCreated s pending = .stop s' d → s'.Withholds := by
    intro pending h
    unfold awaitCreated at h
    simp only at h
    split at h
    next =>
      cases h
      simp [Status.Withholds]
    next => cases h
  generalize hstep : Step.stop s' d = step at h
  cases h with
  | unmarked | irrelevant | repeatable | adopted => cases hstep
  | blind | unseen => exact hawait hstep.symm

/-- What is observed and ends a pass is not that the resource is ready. -/
theorem withholds_of_walk_observeRemote {rest : List PassEvent}
    (h : (p.observeRemote p.initialStatus).Walk t (.stop s d)) :
    s.Withholds ∨ p.Disputed (t ++ rest) := by
  cases hid : p.resource.status.identity with
  | none =>
    have hunknown : p.initialStatus.identity = none := hid
    exact .inl ((walk_observeRemote_of_none hunknown).mp h).withholds
  | some id =>
    obtain ⟨direct, listed, reads, hmerge⟩ :=
      reads_of_walk_observeRemote hid h rest
    rcases withholds_mergeReads hmerge.symm with hflag | ⟨other, rfl, hdispute⟩
    · exact .inl hflag
    · refine .inr ⟨id, direct, other, reads, ?_⟩
      rcases hdispute with ⟨found, hok, differ⟩ | ⟨e, herror, absent⟩
      · exact .inl ⟨found, outcomeOf_eq_ok_iff.mp hok, differ⟩
      · rw [eq_failed_of_isNotFound herror absent]
        exact .inr absent

theorem withholds_trackInFlight {action : Option CorrectiveAction}
    (h : p.trackInFlight s action = .stop s' d) : s'.Withholds := by
  unfold trackInFlight at h
  split at h
  next => cases h
  next =>
    split at h
    next =>
      simp only at h
      split at h
      next =>
        cases h
        simp [Status.Withholds]
      next => cases h
    next => split at h <;> cases h

theorem withholds_reportState (h : p.reportState s state = .stop s' d) :
    s'.Withholds := by
  unfold reportState at h
  simp only at h
  repeat' split at h
  all_goals cases h
  all_goals simp [Status.Withholds]

theorem withholds_waitFor (p : Pass) (s : Status) (action : CorrectiveAction)
    (expected : StateRule) : (p.waitFor s action expected).1.Withholds := by
  unfold waitFor
  simp only
  split <;> simp [Status.Withholds]

theorem withholds_afterAnswer (p : Pass) (s : Status)
    (action : CorrectiveAction)
    (answer : Except RemoteError (Option Snapshot)) :
    (p.afterAnswer s action answer).1.Withholds := by
  cases answer with
  | ok found => exact Status.readyFlag_reportProgressing ..
  | error e =>
    show (p.afterFailure s action e).1.Withholds
    unfold afterFailure
    simp only
    cases e.errorClass <;> simp [Status.Withholds]

/-! ## The report -/

/-- The states in which nothing is reported but that the resource is ready. -/
inductive Calm (s : Status) : LifecycleState → Prop where
  | available : Calm s .available
  | mounted : Calm s .mounted
  | stopped : Calm s .stopped
  | unavailable : Calm s .unavailable
  | unplugged (unexpected : teardownExpected s = false) : Calm s .unplugged

/-- Those are the states that leave the rest of the ending to do. -/
theorem reportState_eq_proceed_iff :
    p.reportState s state = .proceed s ↔ Calm s state := by
  constructor
  · intro h
    cases state with
    | available => exact .available
    | mounted => exact .mounted
    | stopped => exact .stopped
    | unavailable => exact .unavailable
    | unplugged =>
      rw [reportState_unplugged] at h
      split at h
      next => cases h
      next unexpected => exact .unplugged (by simpa using unexpected)
    | terminated =>
      rw [reportState_terminated] at h
      split at h <;> cases h
    | terminating =>
      -- the removal is under way, whoever has begun it
      unfold reportState at h
      cases hexpected : teardownExpected s <;>
        simp [hexpected, LifecycleState.isUnrecognised,
          LifecycleState.isTornDown, LifecycleState.isTransitional] at h
    | _ => cases h
  · intro h
    cases h with
    | unplugged unexpected =>
      rw [reportState_unplugged, unexpected]
      rfl
    | _ => rfl

/-- A status that is reported as ready is the one that the ending began with,
but for the wallet. -/
theorem Settles.converged (h : p.Settles s t (s', d))
    (hready : ¬ s'.Withholds) :
    ∃ state wallet, s.lifecycleState = some state ∧ Calm s state
      ∧ s' = p.reportConverged { s with walletSecret := wallet } state
      ∧ ∀ target, p.resource.wallet = some target → state.isReady = true →
        s.identity.isSome = true →
        HoldsWallet target.secretName t := by
  generalize hr : (s', d) = r at h
  cases h with
  | unseen =>
    cases hr
    exact absurd (by simp [Status.Withholds]) hready
  | reported _ reported =>
    cases hr
    exact absurd (withholds_reportState reported) hready
  | pending =>
    cases hr
    exact absurd (by simp [Status.Withholds]) hready
  | @equipped state target id _ outcome seen calm _ wanted _ stored =>
    cases hr
    refine ⟨state, some target.secretName, seen,
      reportState_eq_proceed_iff.mp calm, rfl, fun other hother _ _ => ?_⟩
    obtain rfl := Option.some.inj (wanted.symm.trans hother)
    exact stored.holdsWallet
  | @plain state seen calm unasked =>
    cases hr
    refine ⟨state, s.walletSecret, seen, reportState_eq_proceed_iff.mp calm,
      rfl, ?_⟩
    intro target htarget isReady known
    rcases unasked with hidle | hnone | hunknown
    · rw [isReady] at hidle
      cases hidle
    · rw [htarget] at hnone
      cases hnone
    · rw [hunknown] at known
      cases known

/-! ## Whole passes -/

/-- A pass over a resource that stays reports it as ready only at the end of one
that needs no action. -/
theorem Course.settles_of_setsReady (h : p.Course t (.ok o))
    (hready : p.SetsReady t o) :
    ∃ t₁ t₂ t₃ s d, t = t₁ ++ (t₂ ++ t₃) ∧ p.Chooses t₁ s none
      ∧ (p.settle s).Walk t₂ (o.status, d) := by
  have hends : ∀ {s : Status} {d : Duration} {rest : List PassEvent},
      (p.quits s d).Walk rest (.ok o) → ¬ s.Withholds := by
    intro s d rest ending withholds
    obtain rfl := ended_of_walk_finish ending
    exact hready.not_withholds withholds
  generalize hr : Except.ok o = r at h
  cases h with
  | stopped observed ending =>
    subst hr
    rcases withholds_of_walk_observeRemote observed with hflag | hdispute
    · exact absurd hflag (hends ending)
    · exact absurd hdispute hready.undisputed
  | held _ held ending =>
    subst hr
    exact absurd (withholds_trackInFlight held) (hends ending)
  | settled chosen settling ending =>
    subst hr
    obtain rfl := ended_of_walk_finish ending
    exact ⟨_, _, _, _, _, rfl, chosen, settling⟩
  | declined _ _ ending =>
    subst hr
    obtain rfl := ended_of_walk_finish ending
    exact absurd rfl hready.undeclined
  | waited _ _ _ ending =>
    subst hr
    exact absurd (withholds_waitFor ..) (hends ending)
  | illegal _ _ _ ending =>
    subst hr
    exact absurd (Status.readyFlag_reportFailed ..) (hends ending)
  | uncredited _ _ ending =>
    subst hr
    exact absurd (Status.readyFlag_reportRetrying ..) (hends ending)
  | unmarked => cases hr
  | sent _ _ _ ending =>
    subst hr
    obtain rfl := ended_of_walk_finish ending
    exact absurd (withholds_afterAnswer ..) hready.not_withholds

/-- What a deletion learns of its object does not touch the conditions. -/
theorem readyFlag_of_walk_locate {id : String}
    {observed : Option LifecycleState}
    (h : (p.locate s id).Walk t (.ok (s', observed))) :
    s'.readyFlag = s.readyFlag := by
  obtain ⟨found, hfound⟩ := sighted_of_walk_locate h
  cases found <;> cases hfound <;> rfl

/-- Neither does the search for a lost create, if it finds what it looks for. -/
theorem readyFlag_of_walk_identify (h : (p.identify s).Walk t (.proceed s')) :
    s'.readyFlag = s.readyFlag := by
  cases hid : s.identity with
  | some id =>
    obtain ⟨-, hstep⟩ := (walk_identify_of_some (by simp [hid])).mp h
    cases hstep
    rfl
  | none =>
    have hawait : ∀ {pending : PendingAction},
        p.awaitCreated s pending = .proceed s' →
          s'.readyFlag = s.readyFlag := by
      intro pending hstep
      unfold awaitCreated at hstep
      simp only at hstep
      split at hstep
      next => cases hstep
      next =>
        cases hstep
        rfl
    generalize hstep : Step.proceed s' = step at h
    cases (walk_identify_of_none hid).mp h with
    | unmarked | irrelevant | repeatable | adopted =>
      cases hstep
      rfl
    | blind | unseen => exact hawait hstep.symm

/-- A deletion does not report its resource as ready. -/
theorem Teardown.not_setsReady (h : p.Teardown t (.ok o)) :
    ¬ p.SetsReady t o := by
  intro hready
  -- a deletion ends with a status that withholds readiness, or lets its
  -- resource go
  have hends : ∀ {g : Progress} {d : Duration} {rest : List PassEvent},
      (finish g d).Walk rest (.ok o) → ¬ g.status.Withholds := by
    intro g d rest ending withholds
    obtain rfl := ended_of_walk_finish ending
    exact hready.not_withholds withholds
  have hreleases : ∀ {g : Progress} {rest : List PassEvent},
      ¬ (release g).Walk rest (.ok o) := by
    intro g rest ending
    obtain ⟨answer, -, hr⟩ := walk_release_iff.mp ending
    cases answer with
    | ok _ =>
      cases hr
      cases hready.held
    | error e => cases hr
  generalize hr : Except.ok o = r at h
  cases h with
  | detached _ ending | objectless _ _ _ ending =>
    subst hr
    exact hreleases ending
  | awaited _ _ ending =>
    subst hr
    exact hends ending (Status.readyFlag_reportProgressing ..)
  | known _ knows teardown =>
    -- the condition is withdrawn before the object is looked for
    have hknown := readyFlag_of_walk_identify knows.1
    rw [show p.deletingStatus.readyFlag = some (flagText false)
      from Status.readyFlag_reportProgressing ..] at hknown
    cases teardown with
    | unread _ failed ending =>
      subst hr
      refine hends ending ?_
      unfold afterReadError at failed
      split at failed <;> cases failed <;> simp [unsent, Status.Withholds]
    | gone _ _ ending | vanished _ _ _ ending =>
      subst hr
      exact hreleases ending
    | given _ _ ending =>
      subst hr
      exact hends ending (Status.readyFlag_reportProgressing ..)
    | unmarked => cases hr
    | deleted located _ ending =>
      subst hr
      exact hends ending ((readyFlag_of_walk_locate located).trans hknown)
    | kept _ _ _ _ ending =>
      subst hr
      refine hends ending ?_
      unfold deleteSent afterDeleteFailure
      simp only
      split <;> simp [Status.Withholds]

/-! ## What holds of a resource that is ready -/

/-- Once an object is on record, the action that it completes is not needed, nor
was it before. -/
theorem nextAction?_completeOneShot (p : Pass) (s : Status) :
    p.resource.nextAction? (p.completeOneShot s)
      = p.resource.nextAction? s := by
  unfold completeOneShot
  split
  next request hrequest =>
    split
    next complete =>
      simp only [Bool.and_eq_true] at complete
      simp [ManagedResource.nextAction?, ManagedResource.stateAction?,
        ManagedResource.attributesAction?, ManagedResource.oneShotAction?,
        hrequest, complete.1.2]
    next => rfl
  next => rfl

theorem grounds_forgetObstacles (p : Pass) (s : Status) :
    (p.forgetObstacles s).grounds = s.grounds := by
  show (p.forgetObstacles s).facts.grounds = s.grounds
  rw [facts_forgetObstacles]
  rfl

/-- A pass that goes on without having been told the state of its object has not
found the object, which has come to an end. -/
theorem shown_or_misses_of_walk_refresh {id : String}
    (hid : s.identity = some id) (h : (p.refresh s id).Walk t (.proceed seen)) :
    Shown seen t
      ∨ seen.lifecycleState.any LifecycleState.isTerminal = true
      ∧ ∃ reply, p.Misses id t reply := by
  have hknown :
      seen.identity = some id := (inherits_of_walk_refresh hid h).1.trans hid
  obtain ⟨direct, ⟨unconsulted, rfl, hmerge⟩ | ⟨-, reply, rfl, hmerge⟩⟩ :=
    walk_refresh_iff.mp h
  · rcases mergeReads_eq_proceed_cases hmerge.symm with ⟨found, hok, hstate⟩
      | ⟨found, hnone, -⟩
      | ⟨e, herror, absent, -⟩
    · obtain rfl := outcomeOf_eq_ok_iff.mp hok
      exact .inl ⟨id, found.state, hknown, hstate, _, List.mem_singleton_self _,
        .read rfl⟩
    · cases hnone
    · -- the list is consulted about an object that is not found
      rw [herror] at unconsulted
      simp [consultsList, absent] at unconsulted
  · rcases mergeReads_eq_proceed_cases hmerge.symm with ⟨found, hok, hstate⟩
      | ⟨found, hlisted, hstate⟩
      | ⟨e, herror, absent, hlisted, hmissing⟩
    · obtain rfl := outcomeOf_eq_ok_iff.mp hok
      exact .inl ⟨id, found.state, hknown, hstate, _, List.mem_cons_self ..,
        .read rfl⟩
    · obtain ⟨hmem, rfl⟩ := mem_of_listedAs hlisted
      have hreport := reports_of_mem_items p.resource.listFilter hmem
      exact .inl ⟨_, found.state, hknown, hstate, _, by simp, hreport⟩
    · obtain rfl := eq_failed_of_isNotFound herror absent
      exact .inr ⟨isTerminal_of_afterMissing hmissing, reply, _, [], rfl,
        absent, hlisted⟩

theorem shown_or_misses_of_walk_observeRemote {id : String}
    (hid : seen.identity = some id)
    (h : (p.observeRemote p.initialStatus).Walk t (.proceed seen)) :
    Shown seen t
      ∨ seen.lifecycleState.any LifecycleState.isTerminal = true
      ∧ ∃ reply, p.Misses id t reply := by
  cases hinit : p.initialStatus.identity with
  | none =>
    exact .inl (((walk_observeRemote_of_none hinit).mp h).shown hinit
      (by rw [hid]; rfl))
  | some known =>
    have hrefresh := (walk_observeRemote_of_some hinit).mp h
    have hkept : seen.identity = some known :=
      (inherits_of_walk_refresh hinit hrefresh).1.trans hinit
    obtain rfl := Option.some.inj (hid.symm.trans hkept)
    exact shown_or_misses_of_walk_refresh hinit hrefresh

/-- A pass over such a resource that has nothing left to do knows its object. -/
theorem exists_identity_of_idle (hdel : p.resource.deletionRequested = false)
    (hseeks : p.resource.SeeksObject)
    (idle : p.resource.nextAction? seen = none) :
    ∃ id, seen.identity = some id := by
  cases hid : seen.identity with
  | some id => exact ⟨id, rfl⟩
  | none =>
    rw [ManagedResource.nextAction?_of_unidentified hdel hid] at idle
    rw [ManagedResource.SeeksObject, idle] at hseeks
    cases hseeks

/-- What holds of a pass that reports its resource as ready, and of the status
that it leaves. -/
structure Converged (p : Pass) (t : List PassEvent) (s : Status) (id : String)
    (state : LifecycleState) : Prop where
  identity : s.identity = some id
  lifecycle : s.lifecycleState = some state
  /-- The object was reported in that state, unless it was not found and is
  known to have been unplugged. -/
  observed : (∃ e ∈ t, Reports id state e) ∨ state = .unplugged ∧ ∃ reply,
    p.Misses id t reply
  calm : Calm s state
  needless : p.resource.nextAction? s = none
  unmarked : s.inFlight = none
  equipped : ∀ target, p.resource.wallet = some target → state.isReady = true →
    HoldsWallet target.secretName t

theorem Calm.isTransitional (h : Calm s state) :
    state.isTransitional = false := by
  cases h <;> rfl

theorem Calm.eq_unplugged (h : Calm s state) (hend : state.isTerminal = true) :
    state = .unplugged := by
  cases h <;> first | rfl | cases hend

theorem Calm.of_eq (h : Calm s state)
    (hexpected : teardownExpected s' = teardownExpected s) : Calm s' state := by
  cases h with
  | available => exact .available
  | mounted => exact .mounted
  | stopped => exact .stopped
  | unavailable => exact .unavailable
  | unplugged unexpected => exact .unplugged (hexpected.trans unexpected)

theorem Misses.append {id : String} {reply : Reply (List Snapshot)}
    (h : p.Misses id t reply) (more : List PassEvent) :
    p.Misses id (t ++ more) reply := by
  obtain ⟨direct, rest, rfl, absent, unlisted⟩ := h
  exact ⟨direct, rest ++ more, rfl, absent, unlisted⟩

/-- Up to its end the ending changes nothing of what the next action is chosen
by. -/
theorem grounds_of_free (free : p.trackInFlight seen none = .proceed s) :
    (p.forgetObstacles s).grounds = seen.grounds := by
  rw [grounds_forgetObstacles]
  obtain ⟨s₁, hfree, rfl | rfl⟩ := trackInFlight_none p seen
  · cases hfree.symm.trans free
    rfl
  · cases hfree.symm.trans free
    rfl

/-- So it begins with the object and the actions on record as they were
observed. -/
theorem known_of_free (free : p.trackInFlight seen none = .proceed s) :
    (p.forgetObstacles s).identity = seen.identity
      ∧ (p.forgetObstacles s).lifecycleState = seen.lifecycleState
      ∧ (p.forgetObstacles s).lastCompletedAction
        = seen.lastCompletedAction := by
  have hgrounds := grounds_of_free free
  exact ⟨(congrArg Status.identity hgrounds :),
    (congrArg Status.lifecycleState hgrounds :),
    (congrArg Status.lastCompletedAction hgrounds :)⟩

theorem lifecycleState_of_free (free : p.trackInFlight seen none = .proceed s) :
    (p.completeOneShot (p.forgetObstacles s)).lifecycleState
      = seen.lifecycleState :=
  (lifecycleState_completeOneShot p _).trans (known_of_free free).2.1

theorem teardownExpected_of_free
    (free : p.trackInFlight seen none = .proceed s) :
    teardownExpected (p.completeOneShot (p.forgetObstacles s))
      = teardownExpected (p.completeOneShot seen) :=
  teardownExpected_completeOneShot (known_of_free free).1
    (known_of_free free).2.2

/-- A pass that settles, and reports its resource as ready at the end, leaves it
as it should be, as far as that is asked for. -/
theorem converged_of_settle {t₁ t₂ t₃ : List PassEvent}
    (hdel : p.resource.deletionRequested = false)
    (hseeks : p.resource.SeeksObject)
    (observed : (p.observeRemote p.initialStatus).Walk t₁ (.proceed seen))
    (idle : p.resource.nextAction? seen = none)
    (free : p.trackInFlight seen none = .proceed s)
    (settling : (p.settle s).Walk t₂ (s', d)) (hready : ¬ s'.Withholds) :
    ∃ id state, p.Converged (t₁ ++ (t₂ ++ t₃)) s' id state
      ∧ seen.lifecycleState = some state
      ∧ Calm (p.completeOneShot seen) state := by
  obtain ⟨id, hid⟩ := exists_identity_of_idle hdel hseeks idle
  obtain ⟨state, wallet, hstate, calm, rfl, equipped⟩ :=
    (settles_of_walk settling).converged hready
  have hgrounds := grounds_of_free free
  have hseen : seen.lifecycleState = some state :=
    (lifecycleState_of_free free).symm.trans hstate
  have hknown :
      (p.completeOneShot (p.forgetObstacles s)).identity = some id := by
    rw [(inherits_completeOneShot p _).1, (known_of_free free).1, hid]
  have hunmarked : s.inFlight = none := by
    rw [trackInFlight_none_of_settled
      (by rw [hseen]; exact calm.isTransitional)] at free
    cases free
    rfl
  refine ⟨id, state,
    ⟨hknown, hstate, ?_, calm.of_eq rfl, ?_, ?_, fun target htarget isReady =>
      ?_⟩, hseen, calm.of_eq (teardownExpected_of_free free).symm⟩
  · rcases shown_or_misses_of_walk_observeRemote hid observed
      with ⟨id', state', hid', hstate', e, he, hreport⟩
      | ⟨hend, reply, hmisses⟩
    · obtain rfl := Option.some.inj (hid.symm.trans hid')
      obtain rfl := Option.some.inj (hseen.symm.trans hstate')
      exact .inl ⟨e, List.mem_append_left _ he, hreport⟩
    · rw [hseen] at hend
      exact .inr ⟨calm.eq_unplugged hend, reply, hmisses.append _⟩
  · rw [← ManagedResource.nextAction?_grounds]
    show p.resource.nextAction? (p.completeOneShot (p.forgetObstacles s)) = none
    rw [nextAction?_completeOneShot,
      ManagedResource.nextAction?_eq_of_grounds hgrounds, idle]
  · have hkept := (inherits_completeOneShot p (p.forgetObstacles s)).trans
      (inherits_forgetObstacles p s)
    rcases hkept.2 with hsame | hnone
    · exact hsame.trans hunmarked
    · exact hnone
  · refine (equipped target htarget isReady (by rw [hknown]; rfl)).mono
      fun e he => ?_
    exact List.mem_append_right _ (List.mem_append_left _ he)

/-! ## Reported without being usable -/

/-- A pass with nothing left to do reports its resource as ready in every calm
state that asks for no wallet. -/
theorem setsReady_of_calm {looked rest : List PassEvent}
    (hdel : p.resource.deletionRequested = false) (h : p.run.Walk t (.ok o))
    (ht : t = looked ++ rest)
    (observed : (p.observeRemote p.initialStatus).Walk looked (.proceed seen))
    (idle : p.resource.nextAction? seen = none)
    (hstate : seen.lifecycleState = some state)
    (calm : Calm (p.completeOneShot seen) state)
    (walletless : state.isReady = false) :
    p.SetsReady t o ∧ o.status.lifecycleState = some state := by
  obtain ⟨t₁, rest', step, rfl, observed', goes⟩ :=
    (course_of_walk hdel h).observes
  obtain ⟨rfl, rfl, rfl⟩ := observed.unique observed' ht.symm
  generalize hr : Except.ok o = r at goes
  cases goes with
  | acts needed =>
    rw [idle] at needed
    cases needed
  | @settles _ s s' d _ _ _ _ free settling ending =>
    subst hr
    obtain rfl := ended_of_walk_finish ending
    have hbegin := (lifecycleState_of_free free).trans hstate
    have hcalm :=
      reportState_eq_proceed_iff (p := p).mpr
        (calm.of_eq (teardownExpected_of_free free))
    generalize hend : (s', d) = ended at settling
    cases settles_of_walk settling with
    | unseen unseen =>
      rw [hbegin] at unseen
      cases unseen
    | reported seen' reported =>
      obtain rfl := Option.some.inj (hbegin.symm.trans seen')
      rw [hcalm] at reported
      cases reported
    | pending seen' _ ready | equipped seen' _ ready =>
      obtain rfl := Option.some.inj (hbegin.symm.trans seen')
      rw [walletless] at ready
      cases ready
    | plain seen' =>
      cases hend
      exact ⟨⟨Status.readyFlag_reportReady .., rfl,
        not_disputed_of_walk_observeRemote observed, Phase.noConfusion⟩, hbegin⟩

/-- The object is on record in a state in which it can be used, or from which it
can be started. -/
def ShowsSound (s : Status) : Prop :=
  ∃ state ∈ [LifecycleState.available, .mounted, .stopped], s.lifecycleState
    = some state

theorem not_showsSound (hstate : s.lifecycleState = some state)
    (unsound : state ∉ [LifecycleState.available, .mounted, .stopped]) :
    ¬ ShowsSound s := by
  rintro ⟨other, sound, hother⟩
  obtain rfl := Option.some.inj (hstate.symm.trans hother)
  exact unsound sound

/-- The pass goes on from what it has observed, with nothing left to do, though
the object was observed as unavailable, or as unplugged while no removal counts
as completed. -/
inductive IdlesUnsound (p : Pass) : List PassEvent → Prop where
  | unavailable {looked rest : List PassEvent} {seen : Status}
      (observed : (p.observeRemote p.initialStatus).Walk looked (.proceed seen))
      (idle : p.resource.nextAction? seen = none)
      (unavailable : seen.lifecycleState = some .unavailable) :
      IdlesUnsound p (looked ++ rest)
  | unplugged {looked rest : List PassEvent} {seen : Status}
      (observed : (p.observeRemote p.initialStatus).Walk looked (.proceed seen))
      (idle : p.resource.nextAction? seen = none)
      (unplugged : seen.lifecycleState = some .unplugged)
      (unexpected : teardownExpected (p.completeOneShot seen) = false) :
      IdlesUnsound p (looked ++ rest)

theorem IdlesUnsound.setsReady (hdel : p.resource.deletionRequested = false)
    (h : p.run.Walk t (.ok o)) (idles : p.IdlesUnsound t) :
    p.SetsReady t o ∧ ¬ ShowsSound o.status := by
  cases idles with
  | unavailable observed idle unavailable =>
    obtain ⟨ready, hstate⟩ :=
      setsReady_of_calm hdel h rfl observed idle unavailable .unavailable rfl
    exact ⟨ready, not_showsSound hstate (by decide)⟩
  | unplugged observed idle unplugged unexpected =>
    obtain ⟨ready, hstate⟩ :=
      setsReady_of_calm hdel h rfl observed idle unplugged
        (.unplugged unexpected) rfl
    exact ⟨ready, not_showsSound hstate (by decide)⟩

/-- **What is reported as ready.** A pass that reports a resource as ready, for
which an object is wanted, leaves it converged: the object was observed in a
state that stands in the way of nothing, no action is needed and none is
followed, and a declared wallet is in its Secret if the state is one to be used.
The resource is reported as ready with an object in no sound state exactly if it
stays and

1. the pass goes on from what it has observed, and needs no action; and
2. the object was observed as unavailable, or as unplugged while no removal
   counts as completed. -/
theorem reported_ready_unsound_iff (hseeks : p.resource.SeeksObject)
    (h : p.run.Walk t (.ok o)) :
    (p.SetsReady t o → ∃ id state, p.Converged t o.status id state)
      ∧ (p.SetsReady t o ∧ ¬ ShowsSound o.status
        ↔ p.resource.deletionRequested = false ∧ p.IdlesUnsound t) := by
  cases hdel : p.resource.deletionRequested with
  | true =>
    have hnever := (teardown_of_walk hdel h).not_setsReady
    refine ⟨fun ready => absurd ready hnever, fun unsound =>
      absurd unsound.1 hnever, ?_⟩
    rintro ⟨hstays, -⟩
    cases hstays
  | false =>
    have hconverged :
        p.SetsReady t o → (∃ id state, p.Converged t o.status id state)
          ∧ (¬ ShowsSound o.status → p.IdlesUnsound t) := by
      intro ready
      obtain ⟨t₁, t₂, t₃, s, d, rfl, ⟨seen, observed, idle, free⟩, settling⟩ :=
        (course_of_walk hdel h).settles_of_setsReady ready
      obtain ⟨id, state, converged, hseen, calm⟩ :=
        converged_of_settle hdel hseeks observed idle free settling
          ready.not_withholds
      refine ⟨⟨id, state, converged⟩, fun unsound => ?_⟩
      cases calm with
      | available => exact absurd ⟨_, by simp, converged.lifecycle⟩ unsound
      | mounted => exact absurd ⟨_, by simp, converged.lifecycle⟩ unsound
      | stopped => exact absurd ⟨_, by simp, converged.lifecycle⟩ unsound
      | unavailable => exact .unavailable observed idle hseen
      | unplugged unexpected => exact .unplugged observed idle hseen unexpected
    refine ⟨fun ready => (hconverged ready).1, ?_, fun idles =>
      idles.2.setsReady hdel h⟩
    rintro ⟨ready, unsound⟩
    exact ⟨rfl, (hconverged ready).2 unsound⟩

/-- A pass over a database that is on record, and that is to be open. -/
def boundPass : Pass :=
  .ofSized 2 { identity := some "ocid1.adb.1" } ⟨1700000000, 0⟩

/-- A remote that has the database in some state. -/
def stateRemote (state : LifecycleState) : Simulation :=
  { remote :=
      { objects := .ofList [("ocid1.adb.1",
          { id := "ocid1.adb.1", state,
            attributes :=
              { displayName := some "sales", cpuCoreCount := some 2 } })] } }

/-- A database that is found unplugged, though nothing was done to unplug it, is
reported as ready. -/
theorem unplugged_database_reported_ready :
    boundPass.resource.SeeksObject
      ∧ ∃ o, boundPass.run.Walk
        (boundPass.run.transcript Simulation.answer (stateRemote .unplugged))
        (.ok o)
        ∧ boundPass.SetsReady
          (boundPass.run.transcript Simulation.answer (stateRemote .unplugged))
          o
        ∧ o.status.lifecycleState = some .unplugged
        ∧ ∃ id state, boundPass.Converged
            (boundPass.run.transcript Simulation.answer
              (stateRemote .unplugged)) o.status id state := by
  have hseeks : boundPass.resource.SeeksObject :=
    ManagedResource.seeksObject_of_canProvision rfl
  obtain ⟨o, ho, hstate⟩ :
    ∃ o, (boundPass.run.interpret Simulation.answer (stateRemote .unplugged)).1
      = .ok o
      ∧ o.status.lifecycleState = some .unplugged := ⟨_, rfl, rfl⟩
  have hwalk := Program.walk_transcript Simulation.answer boundPass.run
    (stateRemote .unplugged)
  rw [ho] at hwalk
  have hobserved :=
    Program.walk_transcript Simulation.answer
      (boundPass.observeRemote boundPass.initialStatus) (stateRemote .unplugged)
  obtain ⟨after, htrace⟩ : ∃ after, boundPass.run.transcript Simulation.answer
    (stateRemote .unplugged)
      = (boundPass.observeRemote boundPass.initialStatus).transcript
        Simulation.answer (stateRemote .unplugged)
        ++ [.saved after] := ⟨_, rfl⟩
  have hidles : boundPass.IdlesUnsound
      (boundPass.run.transcript Simulation.answer
        (stateRemote .unplugged)) := by
    rw [htrace]
    exact .unplugged hobserved rfl rfl rfl
  obtain ⟨hconverged, hunsound⟩ := reported_ready_unsound_iff hseeks hwalk
  obtain ⟨ready, -⟩ := hunsound.mpr ⟨rfl, hidles⟩
  exact ⟨hseeks, o, hwalk, ready, hstate, hconverged ready⟩

/-- So is one that is found to be unavailable. -/
theorem unavailable_database_reported_ready :
    ∃ t o, boundPass.run.Walk t (.ok o) ∧ boundPass.SetsReady t o
      ∧ o.status.lifecycleState = some .unavailable := by
  obtain ⟨found, after, htrace⟩ : ∃ found after,
    boundPass.run.transcript Simulation.answer (stateRemote .unavailable)
      = [.remote (.get "ocid1.adb.1") (.answered found), .saved after] :=
        ⟨_, _, rfl⟩
  have hwalk := Program.walk_transcript Simulation.answer boundPass.run
    (stateRemote .unavailable)
  rw [htrace] at hwalk
  refine ⟨_, _, hwalk, ⟨rfl, rfl, ?_, Phase.noConfusion⟩, rfl⟩
  rintro ⟨id, direct, listed, reads, -⟩
  cases reads

end Pass

end DatabaseOperator
