import DatabaseOperator.Proofs.Pluggable.Finality

/-!
# A pluggable database that was removed

Where a pluggable database is neither found nor listed, it may have been removed
by the operator. That it was is told by the action that was completed last, and
by nothing else: the mark of an action that was sent does not count in the end,
and is taken back anyway when the action fails. So the removal is recognised if
its answer arrived and was stored, and not if either was lost, even where the
removal had its effect.

- `Pass.removalOnRecord?`: the state of the object, as far as a removal is on
  record as completed.
- `Pass.ends_of_missing`: how a pass ends that finds its object neither directly
  nor in the list.
- `Status.Pursues`: what is on record after a request was sent, and
  `pursues_of_reaches`: what stays there.
- `lastCompletedAction_of_reaches`: what a run has completed.
- `removal_recognised_iff`: when a removal is recognised that was sent.
-/

namespace DatabaseOperator

variable {request : PdbRequest}

namespace Pass

variable {p : Pass} {s s' : Status} {id : String} {t : List PassEvent}
    {r : Except OperatorError Outcome} {state : LifecycleState}

/-! ## Objects that are missing -/

/-- The state of an object that is gone, if the action that was completed last
has removed it. -/
def removalOnRecord? (s : Status) : Option LifecycleState :=
  s.lastCompletedAction.bind removedState?

theorem teardownExpected_eq (s : Status) :
    teardownExpected s = (removalOnRecord? s).isSome := by
  unfold teardownExpected removalOnRecord?
  cases s.lastCompletedAction with
  | none => rfl
  | some signature => exact (isSome_removedState? signature).symm

/-- The status reports that the object has disappeared. -/
def ReportsMissing (s : Status) : Prop :=
  s.phase = .failed ∧ ∃ c, s.condition? ConditionType.failed = some c
    ∧ c.status = flagText true
    ∧ c.reason = Reason.remoteObjectMissing

theorem reportsMissing_reportFailed (s : Status) (stamp : Stamp)
    (message : String) :
    ReportsMissing
      (s.reportFailed stamp Reason.remoteObjectMissing message) := by
  obtain ⟨c, hc, hstatus, hreason, -⟩ :=
    Status.condition?_reportFailed s stamp Reason.remoteObjectMissing message
  exact ⟨rfl, c, hc, hstatus, hreason⟩

/-- How a pass ends without its object: the removal on record is reported, or
none is, and then the resource is reported as ready or the object as missing. -/
inductive EndsMissing (known : Status) (s : Status) : Prop where
  | removed {state : LifecycleState}
      (recorded : removalOnRecord? known = some state)
      (reported : s.lifecycleState = some state)
      (phase : s.phase = .terminated)
  | ready (unrecorded : removalOnRecord? known = none)
      (phase : s.phase = .ready)
  | missing (unrecorded : removalOnRecord? known = none)
      (missing : ReportsMissing s)

/-- An unplugged object is reported as removed or as ready. -/
theorem reportState_unplugged (p : Pass) (s : Status) :
    p.reportState s .unplugged
      = if teardownExpected s then
          .stop
            ({ s with consecutiveFailures := 0 }.reportTerminated p.stamp
              "remote reports UNPLUGGED")
            p.settings.resyncInterval
        else .proceed s := by
  unfold reportState
  cases teardownExpected s <;> rfl

/-- A terminated object is reported as removed or as missing. -/
theorem reportState_terminated (p : Pass) (s : Status) :
    p.reportState s .terminated
      = if teardownExpected s then
          .stop
            ({ s with consecutiveFailures := 0 }.reportTerminated p.stamp
              "remote reports TERMINATED")
            p.settings.resyncInterval
        else
          .stop
            (s.reportFailed p.stamp Reason.remoteObjectMissing
              "remote object was terminated outside this controller")
            p.settings.resyncInterval := by
  unfold reportState
  cases teardownExpected s <;> rfl

theorem completeOneShot_of_works (declares : p.resource.Declares request)
    (works : request.action.givesIdentity = false) (s : Status) :
    p.completeOneShot s = s := by
  unfold completeOneShot
  simp [declares.requested, works]

theorem lifecycleState_forgetObstacles (p : Pass) (s : Status) :
    (p.forgetObstacles s).lifecycleState = s.lifecycleState := by
  show (p.forgetObstacles s).facts.lifecycleState = _
  rw [facts_forgetObstacles]
  rfl

/-- An object that is gone, and of which nothing is needed, is reported by what
is on record of its removal. -/
theorem endsMissing_of_walk_settle {known : Status} {d : Duration}
    (declares : p.resource.Declares request)
    (works : request.action.givesIdentity = false)
    (hstate : s.lifecycleState = some state)
    (gone : state = .unplugged ∨ state = .terminated)
    (hrecord : removalOnRecord? s = removalOnRecord? known)
    (agreed : ∀ other, removalOnRecord? known = some other → other = state)
    (h : (p.settle s).Walk t (s', d)) : EndsMissing known s' := by
  have hbegin :
      removalOnRecord? (p.forgetObstacles s) = removalOnRecord? known := by
    rw [← hrecord]
    unfold removalOnRecord?
    rw [lastCompletedAction_forgetObstacles]
  have hseen : (p.forgetObstacles s).lifecycleState = some state :=
    (lifecycleState_forgetObstacles p s).trans hstate
  have settles := settles_of_walk h
  rw [completeOneShot_of_works declares works] at settles
  generalize p.forgetObstacles s = begun at settles hbegin hseen
  cases hremoval : removalOnRecord? known with
  | some other =>
    have hexpected : teardownExpected begun = true := by
      rw [teardownExpected_eq, hbegin, hremoval]; rfl
    obtain rfl := agreed other hremoval
    rcases gone with rfl | rfl
    · have hreport := reportState_unplugged p begun
      rw [hexpected, if_pos rfl] at hreport
      obtain rfl := settles.eq_of_reported hseen hreport
      exact .removed hremoval hseen rfl
    · have hreport := reportState_terminated p begun
      rw [hexpected, if_pos rfl] at hreport
      obtain rfl := settles.eq_of_reported hseen hreport
      exact .removed hremoval hseen rfl
  | none =>
    have hexpected : teardownExpected begun = false := by
      rw [teardownExpected_eq, hbegin, hremoval]; rfl
    rcases gone with rfl | rfl
    · have hreport := reportState_unplugged p begun
      rw [hexpected, if_neg nofun] at hreport
      obtain rfl := settles.eq_of_calm hseen hreport rfl
      exact .ready hremoval rfl
    · have hreport := reportState_terminated p begun
      rw [hexpected, if_neg nofun] at hreport
      obtain rfl := settles.eq_of_reported hseen hreport
      exact .missing hremoval (reportsMissing_reportFailed ..)

theorem removedState?_lastSignature {signature : String}
    (h : s.lastCompletedAction = some signature) :
    removedState? (lastSignature s) = removalOnRecord? s := by
  simp [lastSignature, removalOnRecord?, h]

/-- The removal on record is the one that explains where an object is. -/
theorem eq_of_removalOnRecord? (hrecord : removalOnRecord? s = some state) :
    removedState? (lastSignature s) = some state := by
  obtain ⟨signature, hlast, -⟩ := Option.bind_eq_some_iff.mp hrecord
  rw [removedState?_lastSignature hlast, hrecord]

/-- An object that nothing explains is reported as missing and taken for
terminated, and no removal is on record. -/
theorem afterMissing_of_unexplained
    (old : s.inFlight.any p.awaitsAppearance = false)
    (unexplained : removedState? (lastSignature s) = none) :
    (∃ s' d, p.afterMissing s = .stop s' d ∧ ReportsMissing s'
      ∧ s'.lifecycleState = some .terminated
      ∧ s'.inFlight = none) ∧ removalOnRecord? s = none := by
  constructor
  · have hneither : isUnplugSignature (lastSignature s) = false
        ∧ isDeleteSignature (lastSignature s) = false := by
      have hnone := isSome_removedState? (lastSignature s)
      rw [unexplained] at hnone
      simpa [and_comm] using hnone.symm
    unfold afterMissing
    simp only [old, hneither, Bool.false_eq_true, ↓reduceIte]
    exact ⟨_, _, rfl, reportsMissing_reportFailed .., rfl, rfl⟩
  · cases hrecord : removalOnRecord? s with
    | none => rfl
    | some state =>
      rw [eq_of_removalOnRecord? hrecord] at unexplained
      cases unexplained

/-- A pass that finds its object neither directly nor in the list ends by what
is on record of its removal. -/
theorem ends_of_missing {e : RemoteError}
    (declares : p.resource.Declares request)
    (works : request.action.givesIdentity = false)
    (hdel : p.resource.deletionRequested = false) (h : p.run.Walk t r)
    (reads : p.Reads id t (.failed e) none) (absent : e.isNotFound = true)
    (old : p.resource.status.inFlight.any p.awaitsAppearance = false) :
    ∃ before rest s d, t = before ++ rest ∧ (∀ e ∈ before, p.Quiet e)
      ∧ (p.quits s d).Walk rest r
      ∧ EndsMissing p.resource.status s := by
  obtain ⟨before, rest, rfl, quiet, goes⟩ := rest_of_reads hdel h reads
  have hmerge : p.mergeReads p.initialStatus (p.outcomeOf (.failed e)) none
      = p.afterMissing p.initialStatus := by
    simp only [mergeReads, outcomeOf_failed]
    exact if_pos absent
  have hold : p.initialStatus.inFlight.any p.awaitsAppearance = false := old
  rw [hmerge] at goes
  -- only a removal on record explains where the object is
  cases hexplained : removedState? (lastSignature p.initialStatus) with
  | none =>
    obtain ⟨⟨s', d, hstop, missing, -⟩, unrecorded⟩ :=
      afterMissing_of_unexplained hold hexplained
    rw [hstop] at goes
    cases goes with
    | ends ending =>
      exact ⟨before, rest, s', d, rfl, quiet, ending,
        .missing unrecorded missing⟩
  | some state =>
    rw [afterMissing_eq_proceed_iff.mpr ⟨hold, state, hexplained, rfl⟩] at goes
    have gone := removedState?_cases hexplained
    have hend : (some state).any LifecycleState.isTerminal = true := by
      rcases gone with rfl | rfl <;> rfl
    cases goes with
    | acts needed =>
      -- nothing is needed of an object that has come to its end
      rw [ManagedResource.nextAction?_of_terminal hdel ?_ hend] at needed
      · cases needed
      · rw [show p.initialStatus.identity = some id from reads.known]
        rfl
    | @settles _ chosen s' d t₁ t₂ _ _ free settling ending =>
      refine ⟨before ++ t₁, t₂, s', d, (List.append_assoc ..).symm, ?_,
        ending, ?_⟩
      · exact List.forall_mem_append.mpr ⟨quiet, quiet_of_walk_settle settling⟩
      · -- what is under way may be forgotten on the way, but not what was
        -- completed
        obtain ⟨chosen', hproceed, hchosen⟩ :=
          trackInFlight_none p
            { p.initialStatus with lifecycleState := some state }
        rw [hproceed] at free
        cases free
        obtain ⟨hstate, hlast⟩ : chosen.lifecycleState = some state
            ∧ chosen.lastCompletedAction
              = p.resource.status.lastCompletedAction := by
          rcases hchosen with rfl | rfl <;> exact ⟨rfl, rfl⟩
        have hrecord :
            removalOnRecord? chosen = removalOnRecord? p.resource.status := by
          unfold removalOnRecord?
          rw [hlast]
        refine endsMissing_of_walk_settle declares works hstate gone hrecord
          (fun other hother => ?_) settling
        have hsame : removedState? (lastSignature p.initialStatus)
          = some other := eq_of_removalOnRecord? hother
        exact Option.some.inj (hsame.symm.trans hexplained)

end Pass

/-! ## What stays on record -/

/-- What is on record once a request was sent that works on a pluggable
database: the object is known, and no other action is marked. -/
structure Status.Pursues (s : Status) (request : PdbRequest) : Prop where
  identified : s.identity.isSome = true
  marked : ∀ pending, s.inFlight = some pending →
    pending.signature = request.signature

theorem Status.Pursues.of_inherits {s s' : Status} (h : s.Pursues request)
    (kept : s'.Inherits s) : s'.Pursues request := by
  obtain ⟨hid, hmark⟩ := kept
  refine ⟨by rw [hid]; exact h.identified, fun pending hpending => ?_⟩
  rcases hmark with hmark | hmark
  · exact h.marked pending (hmark.symm.trans hpending)
  · rw [hmark] at hpending
    cases hpending

/-- A mark of such a request gives no object time to appear. -/
theorem Status.Pursues.not_awaitsAppearance {s : Status} {p : Pass}
    (h : s.Pursues request) (works : request.action.givesIdentity = false) :
    s.inFlight.any p.awaitsAppearance = false := by
  cases hmark : s.inFlight with
  | none => rfl
  | some pending =>
    have hcreate : isCreateSignature request.signature = false := by
      rw [show isCreateSignature request.signature
        = request.action.isProvisioning from
        CorrectiveAction.isCreateSignature_signature (.pdb request)]
      exact (Bool.or_eq_false_iff.mp works).1
    simp [Pass.awaitsAppearance, h.marked pending hmark, hcreate,
      request.isBindSignature_signature]

namespace Pass

variable {p : Pass} {s : Status} {t : List PassEvent}
    {r : Except OperatorError Outcome}

theorem pursues_markDispatched (p : Pass) (hid : s.identity.isSome = true) :
    (p.markDispatched s (.pdb request)).Pursues request := by
  refine ⟨hid, fun pending hpending => ?_⟩
  rw [inFlight_markDispatched] at hpending
  cases hpending
  rfl

theorem pursues_afterAnswer (h : s.Pursues request) (action : CorrectiveAction)
    (answer : Except RemoteError (Option Snapshot)) :
    (p.afterAnswer s action answer).1.Pursues request := by
  obtain ⟨id, hid⟩ := Option.isSome_iff_exists.mp h.identified
  exact h.of_inherits (inherits_afterAnswer hid action answer)

/-- The request is on record after the pass that sends it, whatever becomes of
it. -/
theorem pursues_of_sent (declares : p.resource.Declares request)
    (works : request.action.givesIdentity = false)
    (hdel : p.resource.deletionRequested = false) (h : p.run.Walk t r)
    (sent : request.SentIn t) :
    (storedAfter p.resource.status t).Pursues request := by
  obtain ⟨name, password, reply, hmem⟩ := sent
  obtain ⟨looked, s, sends, hstored⟩ := sends_of_mem_call declares hdel h hmem
  obtain ⟨seen, -, needed, hkept⟩ := sends.inherits
  have hid : s.identity.isSome = true := by
    rw [hkept.1]
    exact ManagedResource.isSome_identity_of_nextAction? hdel needed works
  have hmarked : (p.markDispatched s (.pdb request)).Pursues request :=
    pursues_markDispatched p hid
  rcases hstored with ⟨-, hlast⟩ | ⟨-, hlast⟩
  · rw [hlast]
    exact pursues_afterAnswer hmarked _ _
  · rw [hlast]
    exact hmarked

/-- A pass that finds the request on record stores nothing else. -/
theorem pursues_of_saved (declares : p.resource.Declares request)
    (hdel : p.resource.deletionRequested = false)
    (pursued : p.resource.status.Pursues request) (h : p.run.Walk t r)
    (hs : .saved s ∈ t) : s.Pursues request := by
  obtain ⟨id, hid⟩ := Option.isSome_iff_exists.mp pursued.identified
  have hobserved : ∀ {t₁ step}, (p.observeRemote p.initialStatus).Walk t₁ step →
      step.status.Pursues request :=
    fun observed =>
      pursued.of_inherits (inherits_of_walk_observeRemote hid observed)
  -- only the declared request can be needed of an object on record
  have hmark : ∀ {t₁ s' action}, p.Sends t₁ s' action →
      action = .pdb request ∧ (p.markDispatched s' action).Pursues request := by
    intro t₁ s' action sends
    obtain ⟨seen, observed, needed, hkept⟩ := sends.inherits
    have hseen : seen.Pursues request := hobserved observed
    rw [declares.nextAction?_of_identified hdel hseen.identified] at needed
    split at needed
    next => cases needed
    next =>
      cases needed
      exact ⟨rfl, pursues_markDispatched p (hseen.of_inherits hkept).identified⟩
  cases stores_of_saved hdel h hs with
  | looked observed => exact hobserved observed
  | kept observed hkept =>
    exact Status.Pursues.of_inherits (hobserved observed) hkept
  | marked sends => exact (hmark sends).2
  | answered sends => exact pursues_afterAnswer (hmark sends).2 _ _

/-- What a pass completes of a request that works on a pluggable database: the
request, if the remote accepted it and the store took that. -/
theorem lastCompletedAction_stored (declares : p.resource.Declares request)
    (works : request.action.givesIdentity = false)
    (hdel : p.resource.deletionRequested = false) (h : p.run.Walk t r) :
    (request.TakenIn t ∧ AllStored t →
        (storedAfter p.resource.status t).lastCompletedAction
          = some request.signature)
      ∧ (¬ (request.TakenIn t ∧ AllStored t) →
        (storedAfter p.resource.status t).lastCompletedAction
          = p.resource.status.lastCompletedAction) := by
  constructor
  · rintro ⟨taken, stored⟩
    exact (fulfils_of_taken declares hdel h taken stored).completed works
  · intro incomplete
    rcases DatabaseOperator.storedAfter_cases p.resource.status t with hsame
      | hsaved
    · rw [hsame]
    · -- if anything was completed, it was the request
      rcases completed_cases hdel h hsaved with hsame
        | ⟨other, hother, -, taken | ⟨gives, -⟩⟩
      · exact hsame
      · -- the request was accepted, so that the status after the answer was
        -- refused
        obtain rfl : request = other :=
          Option.some.inj (declares.requested.symm.trans hother)
        obtain ⟨name, password, answer, hmem⟩ := taken
        obtain ⟨looked, s, sends, ⟨stored, -⟩ | ⟨-, hlast⟩⟩ :=
          sends_of_mem_call declares hdel h hmem
        · exact absurd ⟨⟨name, password, answer, hmem⟩, stored⟩ incomplete
        · rw [hlast]
          exact sends.lastCompletedAction
      · rw [Option.some.inj (declares.requested.symm.trans hother)] at works
        rw [works] at gives
        cases gives

end Pass

/-! ## Runs -/

/-- The remote accepted the request in the pass, and the store took all that the
pass gave to it. -/
def Turn.Completes (turn : Turn) (request : PdbRequest) : Prop :=
  request.TakenIn turn.trace ∧ Pass.AllStored turn.trace

variable {s₀ s : Status} {turns : List Turn}

theorem pursues_of_reaches (hrun : Reaches s₀ turns s)
    (asks : Asks turns request) (pursued : s₀.Pursues request) :
    s.Pursues request := by
  refine (hrun.invariant (P := fun s => s.Pursues request) pursued
    fun turn hturn hbegin s hs => ?_).1
  obtain ⟨declares, hdel⟩ := asks turn hturn
  exact Pass.pursues_of_saved declares hdel hbegin turn.walk hs

/-- A run that asks for one action on a pluggable database has completed it if
one of its passes has, and else has completed nothing. -/
theorem lastCompletedAction_of_reaches (hrun : Reaches s₀ turns s)
    (asks : Asks turns request) (works : request.action.givesIdentity = false) :
    ((∃ turn ∈ turns, turn.Completes request) →
      s.lastCompletedAction = some request.signature)
      ∧ ((¬ ∃ turn ∈ turns, turn.Completes request) →
        s.lastCompletedAction = s₀.lastCompletedAction) := by
  induction hrun with
  | start =>
    refine ⟨?_, fun _ => rfl⟩
    rintro ⟨_, hturn, -⟩
    cases hturn
  | @step turns s turn past begins ih =>
    obtain ⟨hdone, hnone⟩ := ih fun earlier hearlier =>
      asks earlier (List.mem_append_left _ hearlier)
    obtain ⟨declares, hdel⟩ :=
      asks turn (List.mem_append_right _ (List.mem_singleton_self _))
    obtain ⟨hcompletes, hkeeps⟩ :=
      Pass.lastCompletedAction_stored declares works hdel turn.walk
    -- the last pass completes the request, or leaves what the passes before it
    -- have completed
    by_cases hlast : turn.Completes request
    · refine ⟨fun _ => hcompletes hlast, fun hno => ?_⟩
      exact absurd ⟨turn, List.mem_append_right _ (List.mem_singleton_self _),
        hlast⟩ hno
    · have hkept : turn.stored.lastCompletedAction = s.lastCompletedAction := by
        rw [← begins]
        exact hkeeps hlast
      rw [hkept]
      refine ⟨?_, fun hno => hnone ?_⟩
      · rintro ⟨earlier, hearlier, hcompleted⟩
        rcases List.mem_append.mp hearlier with hearlier | hearlier
        · exact hdone ⟨earlier, hearlier, hcompleted⟩
        · rw [List.mem_singleton.mp hearlier] at hcompleted
          exact absurd hcompleted hlast
      · rintro ⟨earlier, hearlier, hcompleted⟩
        exact hno ⟨earlier, List.mem_append_left _ hearlier, hcompleted⟩

theorem PdbAction.givesIdentity_of_removes {action : PdbAction}
    {gone : LifecycleState} (h : action.removedState? = some gone) :
    action.givesIdentity = false := by
  cases action <;> first | rfl | cases h

/-- **When a removal is recognised.** In a run over a pluggable database whose
spec stays as it is, from a pass that sends the declared removal on, a pass that
finds the pluggable database neither directly nor in the list reports it as
removed, in the state in which the removal has left it, exactly if

1. a pass of the run got the answer of the remote, and the store took the status
   after it; or
2. such a removal was on record as completed when the run began.

Otherwise it reports the resource as ready or the object as missing, or another
removal that was on record. -/
theorem removal_recognised_iff {sender last : Turn} {after : List Turn}
    {gone : LifecycleState} {id : String} {e : RemoteError}
    (hrun : Reaches sender.pass.resource.status (sender :: after)
      last.pass.resource.status)
    (asks : Asks (sender :: after ++ [last]) request)
    (removes : request.action.removedState? = some gone)
    (sent : request.SentIn sender.trace)
    (reads : last.pass.Reads id last.trace (.failed e) none)
    (absent : e.isNotFound = true) (stored : Pass.AllStored last.trace) :
    ((last.stored.lifecycleState = some gone ∧ last.stored.phase = .terminated)
        ↔ (∃ turn ∈ sender :: after, turn.Completes request)
          ∨ Pass.removalOnRecord? sender.pass.resource.status = some gone)
      ∧ (¬ (last.stored.lifecycleState = some gone
          ∧ last.stored.phase = .terminated) →
        last.stored.phase = .ready ∨ Pass.ReportsMissing last.stored
          ∨ ∃ other, other ≠ gone
            ∧ Pass.removalOnRecord? sender.pass.resource.status = some other
            ∧ last.stored.lifecycleState = some other
            ∧ last.stored.phase = .terminated) := by
  have works := PdbAction.givesIdentity_of_removes removes
  obtain ⟨declares, hdel⟩ := asks sender (by simp)
  obtain ⟨declares', hdel'⟩ := asks last (by simp)
  -- the request is on record since it was sent, so that nothing delays the last
  -- pass
  have hbegan : sender.stored.Pursues request :=
    Pass.pursues_of_sent declares works hdel sender.walk sent
  have hpursued : last.pass.resource.status.Pursues request :=
    pursues_of_reaches hrun.tail
      (fun turn hturn => asks turn (by simp [hturn])) hbegan
  -- so it ends by the removal that it finds on record
  obtain ⟨before, rest, s, d, ht, quiet, ending, hends⟩ :=
    Pass.ends_of_missing declares' works hdel' last.walk reads absent
      (hpursued.not_awaitsAppearance works)
  have hlast : last.stored = s := by
    rw [Turn.stored, ht, storedAfter_append, Pass.storedAfter_of_quiet _ quiet]
    rcases Pass.storedAfter_finish_cases ending with ⟨-, hlast⟩ | ⟨refused, -⟩
    · exact hlast
    · refine absurd (fun s' e' hmem => stored s' e' ?_) refused
      rw [ht]
      exact List.mem_append_right _ hmem
  rw [hlast]
  obtain ⟨hdone, hnone⟩ :=
    lastCompletedAction_of_reaches hrun
      (fun turn hturn => asks turn (List.mem_append_left _ hturn)) works
  -- which removal that is depends on whether a pass of the run has completed
  -- the request
  have hcompleted : (∃ turn ∈ sender :: after, turn.Completes request) →
      Pass.removalOnRecord? last.pass.resource.status = some gone := by
    intro hdid
    rw [Pass.removalOnRecord?, hdone hdid, Option.bind_some,
      PdbRequest.removedState?_signature, removes]
  have huncompleted : (¬ ∃ turn ∈ sender :: after, turn.Completes request) →
      Pass.removalOnRecord? last.pass.resource.status
        = Pass.removalOnRecord? sender.pass.resource.status := by
    intro hdidNot
    rw [Pass.removalOnRecord?, hnone hdidNot, Pass.removalOnRecord?]
  have hunknown : Pass.removalOnRecord? last.pass.resource.status = none →
      ¬ ((∃ turn ∈ sender :: after, turn.Completes request)
        ∨ Pass.removalOnRecord? sender.pass.resource.status = some gone) := by
    intro unrecorded hknown
    by_cases hdid : ∃ turn ∈ sender :: after, turn.Completes request
    · rw [hcompleted hdid] at unrecorded
      cases unrecorded
    · rw [huncompleted hdid, hknown.resolve_left hdid] at unrecorded
      cases unrecorded
  -- each way to end agrees with both sides of the equivalence
  cases hends with
  | @removed state recorded reported phase =>
    -- a removal on record is the one requested if it was completed in the run,
    -- and else one from before
    by_cases hdid : ∃ turn ∈ sender :: after, turn.Completes request
    · obtain rfl : state = gone :=
        Option.some.inj (recorded.symm.trans (hcompleted hdid))
      exact ⟨⟨fun _ => .inl hdid, fun _ => ⟨reported, phase⟩⟩, fun hnot =>
        absurd ⟨reported, phase⟩ hnot⟩
    · rw [huncompleted hdid] at recorded
      rw [recorded, reported]
      refine ⟨⟨fun h => .inr h.1, fun h => ⟨h.resolve_left hdid, phase⟩⟩,
        fun hnot => .inr (.inr ?_)⟩
      exact ⟨state, fun hsame => hnot ⟨congrArg some hsame, phase⟩, rfl,
        rfl, phase⟩
  | ready unrecorded phase =>
    -- with nothing on record the phase tells, here and below
    refine ⟨⟨fun h => ?_, fun h => absurd h (hunknown unrecorded)⟩, fun _ =>
      .inl phase⟩
    rw [phase] at h
    cases h.2
  | missing unrecorded missing =>
    refine ⟨⟨fun h => ?_, fun h => absurd h (hunknown unrecorded)⟩, fun _ =>
      .inr (.inl missing)⟩
    rw [missing.1] at h
    cases h.2

/-- A pluggable database that was unplugged is reported as unplugged by the next
pass. -/
theorem unplugging_recognised :
    (Pass.pdbFollowing .unplug .unplug).stored.lifecycleState = some .unplugged
      ∧ (Pass.pdbFollowing .unplug .unplug).stored.phase = .terminated := by
  obtain ⟨after, htrace⟩ : ∃ after, (Pass.pdbFollowing .unplug .unplug).trace
      = [.remote (.get "pdb1") (.failed (.notFound "pdb1")),
        .remote (.list { displayName := some "pdb1" }) (.answered []),
        .saved after] := ⟨_, rfl⟩
  have hrun : Reaches (Pass.pdbRemoval .unplug).pass.resource.status
    [Pass.pdbRemoval .unplug]
    (Pass.pdbFollowing .unplug .unplug).pass.resource.status := .cons rfl .start
  have hreads : (Pass.pdbFollowing .unplug .unplug).pass.Reads "pdb1"
      (Pass.pdbFollowing .unplug .unplug).trace (.failed (.notFound "pdb1"))
      none := by
    rw [htrace]
    exact .listed rfl rfl
  have hstored : Pass.AllStored (Pass.pdbFollowing .unplug .unplug).trace := by
    intro s e
    rw [htrace]
    simp
  exact (removal_recognised_iff hrun pdbFollowing_asks rfl
    pdbRemoval_unplugs.1.sentIn hreads rfl hstored).1.mpr
    (.inl ⟨_, List.mem_singleton_self _, pdbRemoval_unplugs⟩)

/-- A pluggable database whose removal had its effect, but no answer, is
reported as missing. -/
theorem unplugging_missed_after_lost_answer :
    Reaches {}
        [Pass.pdbBinding .unplug ["unplug_pdb"],
          Pass.pdbRemoval .unplug ["unplug_pdb"]]
        (Pass.pdbFollowing .unplug .unplug ["unplug_pdb"]).pass.resource.status
      ∧ (Pass.pdbSpec .unplug).request.SentIn
        (Pass.pdbRemoval .unplug ["unplug_pdb"]).trace
      ∧ (Pass.removedPdbRemote .unplug ["unplug_pdb"]).remote.objects.get?
          "pdb1"
        = none
      ∧ (Pass.pdbFollowing .unplug .unplug ["unplug_pdb"]).pass.Reads "pdb1"
        (Pass.pdbFollowing .unplug .unplug ["unplug_pdb"]).trace
        (.failed (.notFound "pdb1")) none
      ∧ Pass.ReportsMissing
        (Pass.pdbFollowing .unplug .unplug ["unplug_pdb"]).stored := by
  obtain ⟨marked, failed, found, hremoval⟩ : ∃ marked failed found,
    (Pass.pdbRemoval .unplug ["unplug_pdb"]).trace
      = [.remote (.get "pdb1") (.answered found), .saved marked,
        .remote (.unplugPdb (Pass.pdbSpec .unplug).request)
          (.failed (.transient "connection reset")),
        .saved failed] := ⟨_, _, _, rfl⟩
  obtain ⟨after, hfollowing⟩ : ∃ after,
    (Pass.pdbFollowing .unplug .unplug ["unplug_pdb"]).trace
      = [.remote (.get "pdb1") (.failed (.notFound "pdb1")),
        .remote (.list { displayName := some "pdb1" }) (.answered []),
        .saved after] := ⟨_, rfl⟩
  refine ⟨.cons rfl (.cons rfl .start),
    ⟨none, none, .failed (.transient "connection reset"), ?_⟩, rfl, ?_, ?_⟩
  · rw [hremoval]
    exact List.mem_cons_of_mem _
      (List.mem_cons_of_mem _ (List.mem_cons_self ..))
  · rw [hfollowing]
    exact .listed rfl rfl
  · exact Pass.reportsMissing_reportFailed _ _ _

end DatabaseOperator
