import DatabaseOperator.Proofs.Pass.Readiness
import DatabaseOperator.Proofs.Status.Reports

/-!
# Resources at rest

A pass that needs no action brings the status to where it stays: whatever state
the object is in, the next pass finds the same, has the same to say, and so has
nothing to write. Only a wallet that is missing keeps a resource from coming to
rest.

- `Pass.AtRest`: a pass begins with a status that says all that it has to say.
- `Pass.AtRest.keeps`: such a pass writes nothing and sends nothing.
- `Pass.atRest_of_settled`: what a pass that needed no action leaves behind is
  at rest.
- `Pass.second_pass_idle`: so the pass after it is idle.
- `Pass.rest_lasts`: and so are all that follow.
-/

namespace DatabaseOperator

variable {t t₁ t₂ : List PassEvent}

/-! ## Wallets that are missing -/

/-- A wallet that is missing is not in its Secret, as far as the exchanges
show. -/
theorem Materialization.not_holdsWallet {target : WalletTarget}
    {identity : String} {e : WalletError}
    (h : Materialization target identity t (.error e)) :
    ¬ HoldsWallet target.secretName t := by
  generalize hr : Except.error e = r at h
  intro holds
  cases h with
  | present | written => cases hr
  | unchecked | passwordless | unread | undelivered | empty | unwritten =>
    cases holds with
    | present hmem => simp at hmem
    | written full hmem => simp at hmem

/-- A wallet is missing only after the Secret was not found to have content. -/
theorem Materialization.unfound {target : WalletTarget} {identity : String}
    {e : WalletError} (h : Materialization target identity t (.error e)) :
    ∃ answer, answer ≠ .ok true
      ∧ .store (.secretHasData target.secretName) answer ∈ t := by
  generalize hr : Except.error e = r at h
  cases h with
  | present | written => cases hr
  | unchecked | passwordless | unread | undelivered | empty | unwritten =>
    exact ⟨_, by simp, List.mem_cons_self ..⟩

theorem HoldsWallet.of_append {name : String}
    (h : HoldsWallet name (t₁ ++ t₂)) :
    HoldsWallet name t₁ ∨ HoldsWallet name t₂ := by
  cases h with
  | present hmem =>
    rcases List.mem_append.mp hmem with hmem | hmem
    · exact .inl (.present hmem)
    · exact .inr (.present hmem)
  | written full hmem =>
    rcases List.mem_append.mp hmem with hmem | hmem
    · exact .inl (.written full hmem)
    · exact .inr (.written full hmem)

/-- Looking at objects shows nothing of Secrets. -/
theorem not_holdsWallet_of_looks {name : String} (h : ∀ e ∈ t, Looks e) :
    ¬ HoldsWallet name t := by
  intro holds
  cases holds with
  | present hmem => cases h _ hmem
  | written full hmem => cases h _ hmem

namespace Pass

variable {p q : Pass} {s s' seen : Status} {id : String} {found : Snapshot}
    {state : LifecycleState} {d : Duration} {r : Except OperatorError Outcome}
    {o : Outcome}

theorem not_holdsWallet_of_walk_finish {g : Progress} {name : String}
    (h : (finish g d).Walk t r) : ¬ HoldsWallet name t := by
  intro holds
  rcases walk_finish_iff.mp h with ⟨-, rfl, -⟩ | ⟨-, answer, rfl, -⟩
  · cases holds with
    | present hmem => simp at hmem
    | written full hmem => simp at hmem
  · cases holds with
    | present hmem => simp at hmem
    | written full hmem => simp at hmem

/-! ## Stages that have nothing to change -/

theorem trackInFlight_none_eq_self_iff :
    p.trackInFlight s none = .proceed s
      ↔ s.inFlight = none
      ∨ s.lifecycleState.any LifecycleState.isTransitional = true := by
  cases hstate : s.lifecycleState.any LifecycleState.isTransitional with
  | false =>
    rw [trackInFlight_none_of_settled hstate]
    constructor
    · intro h
      have hsame : { s with inFlight := none } = s := Step.proceed.inj h
      rw [← hsame]
      exact .inl rfl
    · rintro (hunmarked | himpossible)
      · rw [← hunmarked]
      · cases himpossible
  | true =>
    have hkept : p.trackInFlight s none = .proceed s := by
      unfold trackInFlight
      split
      next => rfl
      next => simp only [Option.filter_none, hstate, ↓reduceIte]
    exact ⟨fun _ => .inr rfl, fun _ => hkept⟩

/-- What is left of an action that is not needed any more is left by the next
pass too. -/
theorem trackInFlight_none_cases
    (free : p.trackInFlight seen none = .proceed s) :
    s.inFlight = none
      ∨ seen.lifecycleState.any LifecycleState.isTransitional = true := by
  cases hstate : seen.lifecycleState.any LifecycleState.isTransitional with
  | true => exact .inr rfl
  | false =>
    rw [trackInFlight_none_of_settled hstate] at free
    cases free
    exact .inl rfl

theorem forgetObstacles_of_clear
    (h : s.waiting = none ∧ s.failedAction = none) :
    p.forgetObstacles s = s := by
  obtain ⟨hwaiting, hfailed⟩ := h
  cases s
  cases hwaiting
  cases hfailed
  rfl

/-- An action that was completed by its object is not completed again. -/
theorem completeOneShot_again
    (hrequest : q.resource.pdbRequest = p.resource.pdbRequest)
    (hid : s'.identity = s.identity)
    (hlast :
      s'.lastCompletedAction = (p.completeOneShot s).lastCompletedAction) :
    q.completeOneShot s' = s' := by
  unfold completeOneShot
  rw [hrequest]
  cases hp : p.resource.pdbRequest with
  | none => rfl
  | some request =>
    rw [lastCompletedAction_completeOneShot hp, ← hid] at hlast
    simp only
    cases hgives : s'.identity.isSome && request.action.givesIdentity with
    | false => simp
    | true =>
      rw [hgives] at hlast
      simp [hlast]

/-- What is said of a state depends on nothing but the state and whether a
removal is on record. -/
theorem reportState_cases (state : LifecycleState) (expected : Bool) :
    (∀ (p : Pass) (s : Status), teardownExpected s = expected →
      (p.reportState s state).status = s)
      ∨ (∃ reason message, ∀ (p : Pass) (s : Status),
        teardownExpected s = expected →
        (p.reportState s state).status = s.reportFailed p.stamp reason message)
      ∨ (∃ phase reason message, ∀ (p : Pass) (s : Status),
        teardownExpected s = expected →
        (p.reportState s state).status
          = s.reportProgressing p.stamp phase reason message)
      ∨ ∃ message, ∀ (p : Pass) (s : Status), teardownExpected s = expected →
        (p.reportState s state).status
          = { s with consecutiveFailures := 0 }.reportTerminated p.stamp
            message := by
  by_cases hfailed : state = .failed
  · refine .inr
      (.inl ⟨Reason.remoteFailed, "remote reports " ++ state.text,
        fun p s _ => ?_⟩)
    simp only [reportState, hfailed, ↓reduceIte, Step.status]
  by_cases hmissing : state = .terminated ∧ expected = false
  · obtain ⟨rfl, rfl⟩ := hmissing
    refine .inr
      (.inl ⟨Reason.remoteObjectMissing,
        "remote object was terminated outside this controller",
      fun p s hexpected => ?_⟩)
    rw [reportState_terminated, hexpected]
    rfl
  have hpresent :
      ¬ (state = .terminated ∧ (!expected) = true) := by simpa using hmissing
  cases hunrecognised : state.isUnrecognised with
  | true =>
    refine .inr
      (.inr
        (.inl ⟨.updating, Reason.remoteTransition,
          "remote reports unrecognised state " ++ state.text,
      fun p s hexpected => ?_⟩))
    simp only [reportState, hfailed, hexpected, hpresent, hunrecognised,
      ↓reduceIte, Step.status]
  | false =>
    cases hremoved : state.isTornDown && expected with
    | true =>
      refine .inr
        (.inr (.inr ⟨"remote reports " ++ state.text, fun p s hexpected => ?_⟩))
      simp only [reportState, hfailed, hexpected, hpresent, hunrecognised,
        hremoved, Bool.false_eq_true, ↓reduceIte, Step.status]
    | false =>
      cases htransitional : state.isTransitional with
      | true =>
        refine .inr
          (.inr
            (.inl ⟨transitionPhase state, Reason.remoteTransition,
              "remote reports " ++ state.text,
          fun p s hexpected => ?_⟩))
        simp only [reportState, hfailed, hexpected, hpresent, hunrecognised,
          hremoved, htransitional, Bool.false_eq_true, ↓reduceIte, Step.status]
      | false =>
        refine .inl fun p s hexpected => ?_
        simp only [reportState, hfailed, hexpected, hpresent, hunrecognised,
          hremoved, htransitional, Bool.false_eq_true, ↓reduceIte, Step.status]

/-- So a state is reported in the same words by every pass for the same
generation, whenever that is. -/
theorem status_reportState_again
    (hgeneration : q.resource.generation = p.resource.generation) (s : Status)
    (state : LifecycleState) :
    (q.reportState (p.reportState s state).status state).status
      = (p.reportState s state).status := by
  have hstamp : q.stamp.generation = p.stamp.generation := hgeneration
  have hexpected :
      teardownExpected (p.reportState s state).status = teardownExpected s :=
    (congrArg teardownExpected (lasting_reportState p s state) :)
  rcases reportState_cases state (teardownExpected s) with hcalm
    | ⟨reason, message, hsaid⟩
    | ⟨phase, reason, message, hsaid⟩ | ⟨message, hsaid⟩
  · rw [hcalm q _ hexpected]
  · rw [hsaid q _ hexpected, hsaid p s rfl]
    exact Status.reportFailed_again s reason message hstamp
  · rw [hsaid q _ hexpected, hsaid p s rfl]
    exact Status.reportProgressing_again s phase reason message hstamp
  · rw [hsaid q _ hexpected, hsaid p s rfl]
    exact Status.reportTerminated_again _ message hstamp

/-! ## Rest -/

/-- The pass begins with a status that says all there is to say: what is
observed is on record, nothing is to be done about it, nothing is in the way,
and the state is reported, with the wallet if it is one to be used. -/
structure AtRest (p : Pass) (found : Snapshot) : Prop where
  observed : p.reread found = p.resource.status
  idle : p.resource.nextAction? p.resource.status = none
  free : p.trackInFlight p.resource.status none = .proceed p.resource.status
  clear : p.resource.status.waiting = none
    ∧ p.resource.status.failedAction = none
  complete : p.completeOneShot p.resource.status = p.resource.status
  reported : (p.reportState p.resource.status found.state).status
    = p.resource.status
  converged : Calm p.resource.status found.state →
    p.reportConverged p.resource.status found.state = p.resource.status
  equipped : ∀ target, p.resource.wallet = some target →
    found.state.isReady = true →
      p.resource.status.walletSecret = some target.secretName

/-- Every look into the Secret of the wallet finds that it has content. -/
def FindsWallet (p : Pass) (t : List PassEvent) : Prop :=
  ∀ target answer, p.resource.wallet = some target →
    .store (.secretHasData target.secretName) answer ∈ t → answer = .ok true

/-- A status at rest is what settling ends with. -/
theorem AtRest.eq_of_settles (h : p.AtRest found)
    (settles : p.Settles p.resource.status t (s', d))
    (wallet : p.FindsWallet t) : s' = p.resource.status := by
  have hstate : p.resource.status.lifecycleState = some found.state := by
    rw [← h.observed]
    rfl
  generalize hs : (s', d) = settled at settles
  cases settles with
  | unseen unseen =>
    rw [hstate] at unseen
    cases unseen
  | reported seen reported =>
    cases hs
    obtain rfl := Option.some.inj (hstate.symm.trans seen)
    have hsaid := h.reported
    rw [reported] at hsaid
    exact hsaid
  | pending _ _ _ wanted _ missing =>
    obtain ⟨answer, hunfound, hmem⟩ := missing.unfound
    exact absurd (wallet _ answer wanted hmem) hunfound
  | @equipped _ target _ _ _ seen calm ready wanted =>
    cases hs
    obtain rfl := Option.some.inj (hstate.symm.trans seen)
    have hsame : { p.resource.status with
      walletSecret := some target.secretName } = p.resource.status := by
      rw [← h.equipped target wanted ready]
    rw [hsame]
    exact h.converged (reportState_eq_proceed_iff.mp calm)
  | plain seen calm =>
    cases hs
    obtain rfl := Option.some.inj (hstate.symm.trans seen)
    exact h.converged (reportState_eq_proceed_iff.mp calm)

/-- A pass over a resource at rest that sees the same again only looks, and
leaves everything as it is. -/
theorem AtRest.keeps (h : p.AtRest found)
    (stays : p.resource.deletionRequested = false) (walk : p.run.Walk t r)
    (sees : p.Sees id found t) (wallet : p.FindsWallet t) :
    (∀ e ∈ t, p.Quiet e)
      ∧ ∃ o, r = .ok o ∧ o.status = p.resource.status ∧ o.dispatched = none
        ∧ o.finalized = false := by
  obtain ⟨t₁, rest, step, rfl, observed, goes⟩ :=
    (course_of_walk stays walk).observes
  obtain rfl := sees.reread observed
  rw [h.observed] at goes
  cases goes with
  | acts needed =>
    rw [h.idle] at needed
    cases needed
  | @settles _ s s' d t₂ t₃ _ idle free settling ending =>
    obtain rfl : p.resource.status = s :=
      Step.proceed.inj (h.free.symm.trans free)
    have hsettles := settles_of_walk settling
    rw [forgetObstacles_of_clear h.clear, h.complete] at hsettles
    have hwallet : p.FindsWallet t₂ := fun target answer htarget hmem =>
      wallet target answer htarget
        (List.mem_append_right _ (List.mem_append_left _ hmem))
    obtain rfl := h.eq_of_settles hsettles hwallet
    -- nothing has changed, so nothing is written
    rcases walk_finish_iff.mp ending with ⟨-, rfl, rfl⟩ | ⟨hchanged, -⟩
    · refine ⟨?_, _, rfl, rfl, rfl, rfl⟩
      rw [List.append_nil]
      exact List.forall_mem_append.mpr ⟨quiet_of_walk_observeRemote observed,
        quiet_of_walk_settle settling⟩
    · exact absurd rfl hchanged

/-! ## Coming to rest -/

/-- What is on record of the object, and of having looked at it. -/
def sighting (s : Status) : Status :=
  { identity := s.identity
    lifecycleState := s.lifecycleState
    snapshot := s.snapshot
    consistencyRetries := s.consistencyRetries
    observedGeneration := s.observedGeneration }

theorem sighting_completeOneShot (p : Pass) (s : Status) :
    sighting (p.completeOneShot s) = sighting s := by
  unfold completeOneShot
  split
  next => split <;> rfl
  next => rfl

theorem sighting_forgetObstacles (p : Pass) (s : Status) :
    sighting (p.forgetObstacles s) = sighting s := by
  show sighting (p.forgetObstacles s).facts = sighting s
  rw [facts_forgetObstacles]
  rfl

/-- The status with which settling begins has the object on record as it was
seen. -/
theorem sighting_of_free (free : p.trackInFlight seen none = .proceed s) :
    sighting (p.completeOneShot (p.forgetObstacles s)) = sighting seen := by
  rw [sighting_completeOneShot, sighting_forgetObstacles]
  obtain ⟨s₁, hfree, rfl | rfl⟩ := trackInFlight_none p seen
  · cases hfree.symm.trans free
    rfl
  · cases hfree.symm.trans free
    rfl

/-- Nor is anything in the way then. -/
theorem clear_of_begin (p : Pass) (s : Status) :
    (p.completeOneShot (p.forgetObstacles s)).waiting = none
      ∧ (p.completeOneShot (p.forgetObstacles s)).failedAction = none := by
  have hforgotten : (p.forgetObstacles s).facts
      = { s with waiting := none, failedAction := none }.facts :=
    facts_forgetObstacles p s
  have hwaiting : (p.forgetObstacles s).waiting = none :=
    (congrArg Status.waiting hforgotten :)
  have hfailed : (p.forgetObstacles s).failedAction = none :=
    (congrArg Status.failedAction hforgotten :)
  unfold completeOneShot
  split
  next => split <;> exact ⟨hwaiting, hfailed⟩
  next => exact ⟨hwaiting, hfailed⟩

/-- Seeing again what is on record changes nothing. -/
theorem reread_of_sighting
    (hgeneration : q.resource.generation = p.resource.generation)
    (h : sighting q.resource.status = sighting (p.reread found)) :
    q.reread found = q.resource.status := by
  have hid : q.resource.status.identity
      = (p.resource.status.identity <|> some found.id) :=
    (congrArg Status.identity h :)
  have hstate : q.resource.status.lifecycleState = some found.state :=
    (congrArg Status.lifecycleState h :)
  have hsnapshot : q.resource.status.snapshot
      = if found.attributes.isEmpty then p.resource.status.snapshot
        else some found.attributes :=
    (congrArg Status.snapshot h :)
  have hretries : q.resource.status.consistencyRetries = 0 :=
    (congrArg Status.consistencyRetries h :)
  have hobserved :
      q.resource.status.observedGeneration = q.resource.generation :=
    (congrArg Status.observedGeneration h :).trans hgeneration.symm
  have hknown : (q.resource.status.identity <|> some found.id)
      = q.resource.status.identity := by
    rw [hid]
    cases p.resource.status.identity <;> rfl
  have hkept : (if found.attributes.isEmpty then q.resource.status.snapshot
    else some found.attributes)
      = q.resource.status.snapshot := by
    rw [hsnapshot]
    split <;> rfl
  unfold reread observe initialStatus
  simp only [hknown, hkept]
  rw [← hstate, ← hretries, ← hobserved]

/-- A calm state is reported by being reported as ready. -/
theorem reportConverged_again {s₀ : Status}
    (hgeneration : q.resource.generation = p.resource.generation)
    (calm : Calm s₀ state) (hs : s = p.reportConverged s₀ state) :
    (q.reportState s state).status = s ∧ q.reportConverged s state = s := by
  subst hs
  have hproceed : q.reportState (p.reportConverged s₀ state) state
      = .proceed (p.reportConverged s₀ state) :=
    reportState_eq_proceed_iff.mpr (calm.of_eq rfl)
  refine ⟨by rw [hproceed]; rfl, ?_⟩
  have hstamp : q.stamp.generation = p.stamp.generation := hgeneration
  exact Status.reportReady_again _ _ hstamp

/-- What settling ends with has been said, and the wallet is on record, if it is
in its Secret. -/
theorem said_of_settles
    (hgeneration : q.resource.generation = p.resource.generation)
    (hstate : s.lifecycleState = some state) (known : s.identity.isSome = true)
    (wallet : ∀ target, p.resource.wallet = some target → state.isReady = true →
      HoldsWallet target.secretName t) (settles : p.Settles s t (s', d)) :
    (q.reportState s' state).status = s'
      ∧ (Calm s' state → q.reportConverged s' state = s')
      ∧ ∀ target, p.resource.wallet = some target → state.isReady = true →
        s'.walletSecret = some target.secretName := by
  generalize hs : (s', d) = settled at settles
  -- each way to settle says the same again, if what is seen is the same
  cases settles with
  | unseen unseen =>
    rw [hstate] at unseen
    cases unseen
  | @reported _ s'' _ seen reported =>
    cases hs
    obtain rfl := Option.some.inj (hstate.symm.trans seen)
    have hsaid : (p.reportState s state).status = s' := by rw [reported]; rfl
    -- a state that is reported by itself is not calm, and not one with a wallet
    have hrestless : ¬ Calm s' state := by
      intro calm
      have hlast :
          s'.lasting = s.lasting := hsaid ▸ lasting_reportState p s state
      have hexpected : teardownExpected s = teardownExpected s' :=
        (congrArg teardownExpected hlast.symm :)
      have hproceed : p.reportState s state = .proceed s :=
        reportState_eq_proceed_iff.mpr (calm.of_eq hexpected)
      rw [reported] at hproceed
      cases hproceed
    refine ⟨?_, fun calm => absurd calm hrestless, fun target _ ready =>
      absurd ?_ hrestless⟩
    · have hagain := status_reportState_again hgeneration s state
      rwa [hsaid] at hagain
    · rcases LifecycleState.isReady_iff.mp ready with rfl | rfl
      · exact .available
      · exact .mounted
  | pending seen _ ready wanted _ missing =>
    -- the wallet is in its Secret, so that it cannot be missing
    obtain rfl := Option.some.inj (hstate.symm.trans seen)
    exact absurd (wallet _ wanted ready) missing.not_holdsWallet
  | @equipped _ target _ _ _ seen calm ready wanted =>
    cases hs
    obtain rfl := Option.some.inj (hstate.symm.trans seen)
    have hcalm : Calm { s with walletSecret := some target.secretName } state :=
      (reportState_eq_proceed_iff.mp calm).of_eq rfl
    obtain ⟨hreported, hconverged⟩ :=
      reportConverged_again hgeneration hcalm rfl
    refine ⟨hreported, fun _ => hconverged, fun target' wanted' _ => ?_⟩
    obtain rfl := Option.some.inj (wanted.symm.trans wanted')
    rfl
  | plain seen calm unasked =>
    cases hs
    obtain rfl := Option.some.inj (hstate.symm.trans seen)
    obtain ⟨hreported, hconverged⟩ :=
      reportConverged_again hgeneration (reportState_eq_proceed_iff.mp calm) rfl
    refine ⟨hreported, fun _ => hconverged, fun target wanted ready => ?_⟩
    -- a wallet is asked for, and the object known and ready
    rcases unasked with idle | unwanted | unknown
    · rw [ready] at idle
      cases idle
    · rw [wanted] at unwanted
      cases unwanted
    · rw [unknown] at known
      cases known

/-- A pass that needed no action leaves a status at rest, if a wallet that is
asked for is in its Secret: the next pass begins with it, whenever that is, and
whatever its list is asked for. -/
theorem atRest_of_settled {filter : ListFilter}
    (idle : p.resource.nextAction? (p.reread found) = none)
    (free : p.trackInFlight (p.reread found) none = .proceed s)
    (settling : (p.settle s).Walk t (s', d))
    (wallet : ∀ target, p.resource.wallet = some target →
      found.state.isReady = true → HoldsWallet target.secretName t)
    (next :
      q.resource = { p.resource with listFilter := filter, status := s' }) :
    q.AtRest found := by
  -- settling begins with `s₀`; it changes nothing of it but what it says
  generalize hbegin : p.completeOneShot (p.forgetObstacles s) = s₀
  have hstatus : q.resource.status = s' := by rw [next]
  have hgeneration :
      q.resource.generation = p.resource.generation := by rw [next]
  have hlast :
      s'.lasting = s₀.lasting := hbegin ▸ lasting_of_walk_settle settling
  have hsighting :
      sighting s₀ = sighting (p.reread found) := hbegin ▸ sighting_of_free free
  have hstate : s₀.lifecycleState = some found.state :=
    (congrArg Status.lifecycleState hsighting :)
  have hknown : s₀.identity.isSome = true := by
    have hid : s₀.identity = (p.resource.status.identity <|> some found.id) :=
      (congrArg Status.identity hsighting :)
    rw [hid]
    cases p.resource.status.identity <;> rfl
  obtain ⟨hreported, hconverged, hequipped⟩ :=
    said_of_settles (q := q) hgeneration hstate hknown wallet
      (hbegin ▸ settles_of_walk settling)
  -- what is under way then was forgotten, or its object is changing
  have hunmarked : s'.inFlight = none
      ∨ s'.lifecycleState.any LifecycleState.isTransitional = true := by
    have hmark : s'.inFlight = s₀.inFlight := (congrArg Status.inFlight hlast :)
    have hsame : s'.lifecycleState = (p.reread found).lifecycleState :=
      ((congrArg Status.lifecycleState hlast :) : s'.lifecycleState
        = s₀.lifecycleState).trans hstate
    rw [hmark, hsame]
    refine (trackInFlight_none_cases free).imp_left fun hnone => ?_
    have hkept := (inherits_completeOneShot p (p.forgetObstacles s)).trans
      (inherits_forgetObstacles p s)
    rw [hbegin] at hkept
    exact hkept.2.elim (fun hsame => hsame.trans hnone) id
  rw [← hstatus] at hreported hconverged hequipped hunmarked
  refine ⟨?_, ?_, trackInFlight_none_eq_self_iff.mpr hunmarked, ?_, ?_,
    hreported, hconverged, ?_⟩
  · -- seeing the same again leaves the status as it is
    refine reread_of_sighting hgeneration ?_
    rw [hstatus, ← hsighting]
    exact (congrArg sighting hlast :)
  · -- the grounds are those by which nothing was needed
    have hgrounds : s'.grounds = s₀.grounds := (congrArg Status.grounds hlast :)
    rw [next]
    show p.resource.nextAction? s' = none
    rw [ManagedResource.nextAction?_eq_of_grounds hgrounds, ← hbegin,
      nextAction?_completeOneShot, ManagedResource.nextAction?_eq_of_grounds
        (grounds_of_free free), idle]
  · -- waits and failures were cleared before settling
    have hclear := clear_of_begin p s
    rw [hbegin] at hclear
    rw [hstatus]
    exact ⟨(congrArg Status.waiting hlast :).trans hclear.1,
      (congrArg Status.failedAction hlast :).trans hclear.2⟩
  · refine completeOneShot_again (p := p) (s := p.forgetObstacles s)
      (by rw [next]) ?_ ?_
    · rw [hstatus, ← (inherits_completeOneShot p (p.forgetObstacles s)).1,
        hbegin]
      exact (congrArg Status.identity hlast :)
    · rw [hstatus, hbegin]
      exact (congrArg Status.lastCompletedAction hlast :)
  · intro target wanted
    exact hequipped target (by rw [← wanted, next])

/-! ## The passes after it -/

/-- Exchanges of no consequence send nothing and store nothing. -/
theorem idle_of_quiet (quiet : ∀ e ∈ t, p.Quiet e) :
    p.actionsSent t = [] ∧ ∀ s answer, .store (.saveStatus s) answer ∉ t :=
  ⟨actionsSent_of_quiet quiet, fun _ _ => saveStatus_not_mem_of_quiet quiet⟩

/-- A pass that sees its object, needs no action, and has a wallet that is asked
for in its Secret, leaves a resource at rest. -/
theorem atRest_of_idle {looked rest : List PassEvent} {filter : ListFilter}
    (stays : p.resource.deletionRequested = false)
    (walk : p.run.Walk (looked ++ rest) (.ok o))
    (idle : p.Chooses looked s none) (sees : p.Sees id found (looked ++ rest))
    (wallet : ∀ target, p.resource.wallet = some target →
      found.state.isReady = true →
        HoldsWallet target.secretName (looked ++ rest))
    (next : q.resource
      = { p.resource with listFilter := filter, status := o.status }) :
    q.AtRest found := by
  obtain ⟨seen, observed, hidle, -⟩ := idle
  obtain hseen : seen = p.reread found :=
    Step.proceed.inj (sees.reread observed)
  rw [hseen] at observed hidle
  obtain ⟨t₁, rest', step, htrace, observed', goes⟩ :=
    (course_of_walk stays walk).observes
  obtain ⟨rfl, rfl, rfl⟩ := observed.unique observed' htrace
  generalize hr : Except.ok o = r at goes
  cases goes with
  | acts needed =>
    rw [hidle] at needed
    cases needed
  | @settles _ _ s' d t₂ t₃ _ _ free settling ending =>
    subst hr
    obtain rfl := ended_of_walk_finish ending
    refine atRest_of_settled hidle free settling
      (fun target wanted ready => ?_) next
    -- a wallet is brought by settling, neither before nor after it
    rcases (wallet target wanted ready).of_append with holds | holds
    · exact absurd holds
        (not_holdsWallet_of_looks (looks_of_walk_observeRemote observed))
    · rcases holds.of_append with holds | holds
      · exact holds
      · exact absurd holds (not_holdsWallet_of_walk_finish ending)

/-- **Idle at rest.** A pass over a resource that stays and whose object is on
record sees the object, needs no action for it and succeeds, and a wallet that
is asked for is in its Secret. Then a pass that begins with the status it left,
at any time, and sees the object and the wallet again, sends nothing, stores
nothing, and leaves the status as it is, whatever state the object is in. -/
theorem second_pass_idle {looked rest u : List PassEvent} {filter : ListFilter}
    (stays : p.resource.deletionRequested = false)
    (first : p.run.Walk (looked ++ rest) (.ok o))
    (idle : p.Chooses looked s none) (sees : p.Sees id found (looked ++ rest))
    (wallet : ∀ target, p.resource.wallet = some target →
      found.state.isReady = true →
        HoldsWallet target.secretName (looked ++ rest))
    (next : q.resource
      = { p.resource with listFilter := filter, status := o.status })
    (second : q.run.Walk u r) (again : q.Sees id found u)
    (present : q.FindsWallet u) :
    q.actionsSent u = [] ∧ (∀ s answer, .store (.saveStatus s) answer ∉ u)
      ∧ ∃ o', r = .ok o' ∧ o'.status = o.status ∧ o'.dispatched = none
        ∧ o'.finalized = false := by
  have hrest := atRest_of_idle stays first idle sees wallet next
  have hstays : q.resource.deletionRequested = false := by
    rw [next]
    exact stays
  obtain ⟨quiet, o', rfl, hstatus, hfinal⟩ :=
    hrest.keeps hstays second again present
  obtain ⟨hsent, hstored⟩ := idle_of_quiet quiet
  rw [next] at hstatus
  exact ⟨hsent, hstored, o', rfl, hstatus, hfinal⟩

/-- A pass over a database that is on record, and that is to have a wallet. -/
def walletedPass (status : Status) (now : Instant) : Pass :=
  let p : Pass := .ofSized 2 status now
  { p with
    resource :=
      { p.resource with wallet := some { secretName := "sales-wallet" } } }

/-- A world with the database and its wallet. -/
def walletedWorld : Simulation :=
  { stateRemote .available with
    store :=
      { secrets := .ofList [("sales-wallet", .ofList [(walletKey, ⟨#[1]⟩)])] } }

/-- The first pass there. -/
def walletedTurn : Turn :=
  .simulated Simulation.answer
    (walletedPass { identity := some "ocid1.adb.1" } ⟨1700000000, 0⟩)
    walletedWorld

/-- A condition that it sets. -/
def restingCondition (type : String) (value : Bool) (reason message : String) :
    Condition where
  type := type
  status := flagText value
  reason := reason
  message := message
  lastTransitionTime := "2023-11-14T22:13:20+00:00"

/-- The status that it leaves. -/
def restingStatus : Status where
  phase := .ready
  identity := some "ocid1.adb.1"
  lifecycleState := some .available
  snapshot := some { displayName := some "sales", cpuCoreCount := some 2 }
  walletSecret := some "sales-wallet"
  conditions :=
    [restingCondition ConditionType.ready true Reason.converged
      "remote reports AVAILABLE",
      restingCondition ConditionType.progressing false Reason.converged
        "remote reports AVAILABLE",
        restingCondition ConditionType.failed false Reason.noFailure ""]

/-- A later pass there. -/
def restingTurn : Turn :=
  .simulated Simulation.answer (walletedPass restingStatus ⟨1700009999, 0⟩)
    walletedWorld

/-- The first pass reports the database as ready with its wallet, and the later
pass has nothing to do. -/
theorem walleted_database_idle :
    walletedTurn.stored = restingStatus
      ∧ restingTurn.pass.actionsSent restingTurn.trace = []
      ∧ ∀ s answer, .store (.saveStatus s) answer ∉ restingTurn.trace := by
  have hleft : walletedTurn.stored = restingStatus := by decide +kernel
  obtain ⟨o, hresult, hstatus⟩ : ∃ o, walletedTurn.result = .ok o
    ∧ o.status = walletedTurn.stored := ⟨_, rfl, rfl⟩
  obtain ⟨found, htrace, hlooks, hagain⟩ : ∃ found, walletedTurn.trace
        = [.remote (.get "ocid1.adb.1") (.answered found)]
          ++ [.store (.secretHasData "sales-wallet") (.ok true),
            .saved walletedTurn.stored]
      ∧ (walletedTurn.pass.observeRemote
        walletedTurn.pass.initialStatus).transcript Simulation.answer
        walletedWorld
        = [.remote (.get "ocid1.adb.1") (.answered found)]
      ∧ restingTurn.trace
        = [.remote (.get "ocid1.adb.1") (.answered found),
          .store (.secretHasData "sales-wallet") (.ok true)] :=
    ⟨_, rfl, rfl, rfl⟩
  have hfirst := walletedTurn.walk
  rw [hresult, htrace] at hfirst
  have hobserved := Program.walk_transcript Simulation.answer
    (walletedTurn.pass.observeRemote walletedTurn.pass.initialStatus)
      walletedWorld
  rw [hlooks] at hobserved
  have hidle : walletedTurn.pass.Chooses
      [.remote (.get "ocid1.adb.1") (.answered found)] _ none :=
    ⟨_, hobserved, rfl, rfl⟩
  have hsees : walletedTurn.pass.Sees "ocid1.adb.1" found
      ([.remote (.get "ocid1.adb.1") (.answered found)]
        ++ [.store (.secretHasData "sales-wallet") (.ok true),
          .saved walletedTurn.stored]) :=
    .of_alone (.alone rfl rfl)
  have hwallet : ∀ target, walletedTurn.pass.resource.wallet = some target →
    found.state.isReady = true →
      HoldsWallet target.secretName
        ([.remote (.get "ocid1.adb.1") (.answered found)]
        ++ [.store (.secretHasData "sales-wallet") (.ok true),
          .saved walletedTurn.stored]) := by
    rintro target wanted -
    cases wanted
    exact .present (by simp)
  have hnext : restingTurn.pass.resource
      = { walletedTurn.pass.resource with
          listFilter := restingTurn.pass.resource.listFilter
          status := o.status } := by
    rw [hstatus, hleft]
    rfl
  have hsees' :
      restingTurn.pass.Sees "ocid1.adb.1" found restingTurn.trace := by
    rw [hagain]
    exact .of_alone (.alone rfl rfl)
  have hpresent : restingTurn.pass.FindsWallet restingTurn.trace := by
    intro target answer wanted hmem
    cases wanted
    rw [hagain] at hmem
    simpa using hmem
  obtain ⟨hsent, hstored, -⟩ :=
    second_pass_idle rfl hfirst hidle hsees hwallet hnext restingTurn.walk
      hsees' hpresent
  exact ⟨hleft, hsent, hstored⟩

/-- Rest does not depend on the time, the settings, or what the list is asked
for. -/
theorem AtRest.of_same {filter : ListFilter} (h : p.AtRest found)
    (same : q.resource = { p.resource with listFilter := filter }) :
    q.AtRest found := by
  have hstatus : q.resource.status = p.resource.status := by rw [same]
  have hgeneration :
      q.resource.generation = p.resource.generation := by rw [same]
  refine ⟨?_, ?_, ?_, ?_, ?_, ?_, fun calm => ?_, ?_⟩
  · refine reread_of_sighting hgeneration ?_
    rw [hstatus, h.observed]
  · rw [same]
    exact h.idle
  · rw [hstatus]
    exact trackInFlight_none_eq_self_iff.mpr
      (trackInFlight_none_eq_self_iff.mp h.free)
  · rw [hstatus]
    exact h.clear
  · rw [hstatus]
    refine completeOneShot_again (p := p) (s := p.resource.status)
      (by rw [same]) rfl ?_
    rw [h.complete]
  · have hsaid :=
      status_reportState_again hgeneration p.resource.status found.state
    rwa [h.reported, ← hstatus] at hsaid
  · rw [hstatus] at calm ⊢
    exact (reportConverged_again hgeneration calm (h.converged calm).symm).2
  · rw [same]
    exact h.equipped

/-- Rest lasts: as long as the spec is the same and the same is seen, no pass
sends or stores anything. -/
theorem rest_lasts {s₀ : Status} {turns : List Turn} (hrest : p.AtRest found)
    (hbegin : p.resource.status = s₀)
    (stays : p.resource.deletionRequested = false) (run : Reaches s₀ turns s)
    (same : ∀ turn ∈ turns, ∃ filter, turn.pass.resource
      = { p.resource with
        listFilter := filter, status := turn.pass.resource.status })
    (sees : ∀ turn ∈ turns, turn.pass.Sees id found turn.trace)
    (wallet : ∀ turn ∈ turns, turn.pass.FindsWallet turn.trace) :
    s = s₀ ∧ ∀ turn ∈ turns, ∀ e ∈ turn.trace, turn.pass.Quiet e := by
  induction run with
  | start => exact ⟨rfl, by simp⟩
  | @step turns s turn past begins ih =>
    obtain ⟨rfl, hquiet⟩ :=
      ih (fun earlier hmem => same earlier (List.mem_append_left _ hmem))
        (fun earlier hmem => sees earlier (List.mem_append_left _ hmem))
      fun earlier hmem => wallet earlier (List.mem_append_left _ hmem)
    have hlast : turn ∈ turns ++ [turn] := by simp
    obtain ⟨filter, hsame⟩ := same turn hlast
    have hstays : turn.pass.resource.deletionRequested = false := by
      rw [hsame]
      exact stays
    rw [begins, ← hbegin] at hsame
    obtain ⟨quiet, -⟩ :=
      (hrest.of_same hsame).keeps hstays turn.walk (sees turn hlast)
      (wallet turn hlast)
    refine ⟨?_, fun other hother => ?_⟩
    · rw [Turn.stored, storedAfter_of_quiet _ quiet, begins]
    · rcases List.mem_append.mp hother with hother | hother
      · exact hquiet other hother
      · rw [List.mem_singleton.mp hother]
        exact quiet

end Pass

end DatabaseOperator
