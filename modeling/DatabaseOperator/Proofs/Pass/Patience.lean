import DatabaseOperator.Proofs.Pass.Weighing

/-!
# How long a mark holds a pass back

A pass that is held back leaves the mark as it finds it, text and all, and a
text that cannot be read stands for the present whenever it is looked at. So a
mark that can be read, and does not lie in the future, holds back for no longer
than the longest wait. One that lies in the future holds back until the longest
wait after that, and one that cannot be read holds back for ever.

- `Pass.Resumes`: a pass begins with the status that another one left, over the
  same spec.
- `Pass.proceed_again`: what has let a pass go on lets the one go on that
  resumes it and is shown the same.
- `Pass.HoldsBack.weighs_again`: such a pass weighs the mark that has held the
  first one back.
- `held_back_for_ever`: a mark that cannot be read holds back a whole run of
  such passes.
- `Pass.holdsBack_again_iff`: when a mark holds back again, and when for longer
  than the longest wait.
-/

namespace DatabaseOperator

namespace Pass

variable {p q : Pass} {m : PendingAction} {s s' seen : Status} {id : String}
    {t u t₁ t₂ : List PassEvent} {step : Step} {action : CorrectiveAction}
    {r r' : Except OperatorError Outcome} {o : Outcome}

/-! ## Resuming -/

/-- A pass begins with a status, over the same spec and by the same intervals as
another pass. Its delays after failures may be drawn anew, and its list may be
narrowed to a compartment that the status tells of. -/
structure Resumes (q p : Pass) (s : Status) : Prop where
  settings : ∃ backoff, q.settings = { p.settings with backoff }
  resource : ∃ compartment,
    q.resource
      = { p.resource with
        listFilter :=
          { p.resource.listFilter with compartmentId := compartment },
          status := s }

namespace Resumes

variable (h : q.Resumes p s)

include h

theorem maxWait : q.settings.maxWait = p.settings.maxWait := by
  obtain ⟨⟨_, hsettings⟩, -⟩ := h
  rw [hsettings]

theorem callTimeout : q.settings.callTimeout = p.settings.callTimeout := by
  obtain ⟨⟨_, hsettings⟩, -⟩ := h
  rw [hsettings]

theorem status : q.resource.status = s := by
  obtain ⟨-, _, hresource⟩ := h
  rw [hresource]

theorem deletionRequested :
    q.resource.deletionRequested = p.resource.deletionRequested := by
  obtain ⟨-, _, hresource⟩ := h
  rw [hresource]

theorem hardLink : q.resource.hardLink = p.resource.hardLink := by
  obtain ⟨-, _, hresource⟩ := h
  rw [hresource]

theorem displayName :
    q.resource.listFilter.displayName = p.resource.listFilter.displayName := by
  obtain ⟨-, _, hresource⟩ := h
  rw [hresource]

theorem retryToken : q.resource.retryToken = p.resource.retryToken := by
  obtain ⟨-, _, hresource⟩ := h
  rw [hresource]
  rfl

theorem nextAction?_eq (s' : Status) :
    q.resource.nextAction? s' = p.resource.nextAction? s' := by
  obtain ⟨-, _, hresource⟩ := h
  rw [hresource]
  rfl

end Resumes

/-! ## The pass that resumes -/

theorem Unshown.of_resumes {shown : List Sight} (h : p.Unshown shown)
    (resumes : q.Resumes p s) : q.Unshown shown := by
  cases h with
  | blind nameless token =>
    exact .blind (resumes.displayName.trans nameless)
      (resumes.retryToken.trans token)
  | unseen named unseen =>
    rw [← resumes.displayName] at named
    exact .unseen named unseen

/-- The precondition of an action that is to bring an object holds as long as
there is none. -/
theorem isSome_identity_of_unmet {expected : StateRule}
    (stays : p.resource.deletionRequested = false)
    (needed : p.resource.nextAction? seen = some action)
    (same : s.identity = seen.identity)
    (unmet : check s action = .unmet expected) :
    seen.identity.isSome = true := by
  cases hid : seen.identity with
  | some => rfl
  | none =>
    have hmet : check s action = .met := by
      rw [ManagedResource.nextAction?_of_unidentified stays hid] at needed
      unfold check
      rw [same, hid]
      rcases ManagedResource.firstAction?_cases needed with rfl | ⟨_, -, rfl⟩
        | ⟨request, -, rfl, gives⟩
      · rfl
      · rfl
      · obtain ⟨kind⟩ := request
        cases kind with
        | create | clone | plug | map => rfl
        | unplug | modify | delete => cases gives
    rw [hmet] at unmet
    cases unmet

/-- An object that is known to a pass and to the one that resumes it, which is
shown the same, was on record. -/
theorem identity_of_sights
    (observed : (p.observeRemote p.initialStatus).Walk t₁ (.proceed seen))
    (known : seen.identity = some id)
    (known' : q.resource.status.identity = some id)
    (again : (q.observeRemote q.initialStatus).Walk t₂ step)
    (shown : sights t₂ = sights t₁) : p.resource.status.identity = some id := by
  cases hid : p.resource.status.identity with
  | some recorded =>
    have hkept : seen.identity = some recorded :=
      (inherits_of_walk_observeRemote hid observed).1.trans hid
    exact hkept.symm.trans known
  | none =>
    have hunknown : p.initialStatus.identity = none := hid
    rcases
        ((walk_observeRemote_of_none hunknown).mp observed).inherits_or_adopts
      with hkept | ⟨_, reply, _, -, -, -, rfl, -, -⟩
    · have hsame : seen.identity = p.initialStatus.identity := hkept.1
      rw [known, hunknown] at hsame
      cases hsame
    · -- an object that was adopted is in the list that was read, while one on
      -- record is read directly
      obtain ⟨direct, listed, htells, -⟩ :=
        tells_of_walk_observeRemote known' again
      rw [shown] at htells
      cases htells

/-- A pass that goes on without an object has no action under way. -/
theorem unmarked_of_unknown
    (observed : (p.observeRemote p.initialStatus).Walk t₁ (.proceed seen))
    (unknown : seen.identity = none) : seen.inFlight = none := by
  cases hid : p.resource.status.identity with
  | some known =>
    have hkept : seen.identity = some known :=
      (inherits_of_walk_observeRemote hid observed).1.trans hid
    rw [hkept] at unknown
    cases unknown
  | none =>
    have hunknown : p.initialStatus.identity = none := hid
    generalize hstep : Step.proceed seen = step at observed
    have hawaited : ∀ {pending}, Step.proceed seen
        = p.awaitCreated p.initialStatus pending → seen.inFlight = none := by
      intro pending hproceed
      unfold awaitCreated at hproceed
      simp only at hproceed
      split at hproceed <;> cases hproceed
      rfl
    cases (walk_observeRemote_of_none hunknown).mp observed with
    | unmarked unmarked =>
      cases hstep
      exact unmarked
    | irrelevant | repeatable =>
      cases hstep
      rfl
    | blind | unseen => exact hawaited hstep
    | adopted =>
      cases hstep
      rw [identity_observe_of_none hunknown] at unknown
      cases unknown

/-- What lets an action go ahead lets it go ahead again, once the mark is as it
was left. -/
theorem trackInFlight_again {seen' : Status} {needed : Option CorrectiveAction}
    (free : p.trackInFlight seen needed = .proceed s)
    (mark : seen'.inFlight = s.inFlight)
    (state : seen'.lifecycleState = seen.lifecycleState) :
    q.trackInFlight seen' needed = .proceed seen' := by
  cases hmark : s.inFlight with
  | none => exact trackInFlight_of_unmarked (mark.trans hmark) needed
  | some pending =>
    -- the mark was kept since the remote is in the middle of a change
    unfold trackInFlight at free
    split at free
    next unmarked =>
      cases free
      rw [hmark] at unmarked
      cases unmarked
    next pending' marked =>
      split at free
      next =>
        simp only at free
        split at free <;> cases free
        cases hmark
      next other =>
        split at free
        next transitional =>
          cases free
          unfold trackInFlight
          simp only [mark.trans marked, other, state, transitional, ↓reduceIte]
        next =>
          cases free
          cases hmark

/-- A pass that begins as another one went on, and is shown the same, goes on in
the same way. -/
theorem proceed_again (stays : p.resource.deletionRequested = false)
    (first : p.run.Walk (t₁ ++ t₂) r)
    (observed : (p.observeRemote p.initialStatus).Walk t₁ (.proceed seen))
    (needed : p.resource.nextAction? seen = some action)
    (known : seen.identity.isSome = true) (resumes : q.Resumes p s)
    (same : s.grounds = seen.grounds) (second : q.run.Walk u r')
    (shown : sights u = sights (t₁ ++ t₂)) :
    SameMarks seen p.resource.status ∧ ∃ u₁ u₂ seen', u = u₁ ++ u₂
      ∧ (q.observeRemote q.initialStatus).Walk u₁ (.proceed seen')
      ∧ q.resource.nextAction? seen' = some action
      ∧ seen'.grounds = seen.grounds ∧ SameMarks seen' s := by
  obtain ⟨id, hid⟩ := Option.isSome_iff_exists.mp known
  have hstays : q.resource.deletionRequested = false :=
    resumes.deletionRequested.trans stays
  have hgrounds :
      q.resource.status.grounds = seen.grounds := by rw [resumes.status, same]
  have hknown : q.resource.status.identity = some id :=
    (congrArg Status.identity hgrounds :).trans hid
  obtain ⟨t₁', rest, step, htrace, observed', hfirst⟩ :=
    sights_of_walk stays first
  obtain ⟨rfl, rfl, rfl⟩ := observed.unique observed' htrace
  obtain ⟨u₁, u₂, step', rfl, again, hsecond⟩ := sights_of_walk hstays second
  have hshown : sights u₁ = sights t₁ := by rw [← hsecond, shown, hfirst]
  have hlasting :
      seen.lifecycleState.any LifecycleState.isTerminal = false := by
    rw [Bool.eq_false_iff]
    intro hend
    rw [ManagedResource.nextAction?_of_terminal stays known hend] at needed
    cases needed
  have hrecorded := identity_of_sights observed hid hknown again hshown
  obtain ⟨hmarks, seen', rfl, hkept, hmarks'⟩ :=
    proceed_of_sights hrecorded hknown resumes.callTimeout observed hlasting
      hgrounds again hshown
  rw [resumes.status] at hmarks'
  refine ⟨hmarks, u₁, u₂, seen', rfl, again, ?_, hkept, hmarks'⟩
  rw [resumes.nextAction?_eq, ManagedResource.nextAction?_eq_of_grounds hkept,
    needed]

theorem grounds_recordWait (p : Pass) (s : Status) (signature : String) :
    (p.recordWait s signature).grounds = s.grounds := by
  unfold recordWait
  split <;> rfl

theorem inFlight_recordWait (p : Pass) (s : Status) (signature : String) :
    (p.recordWait s signature).inFlight = s.inFlight := by
  unfold recordWait
  split <;> rfl

theorem failedAction_recordWait (p : Pass) (s : Status) (signature : String) :
    (p.recordWait s signature).failedAction = s.failedAction := by
  unfold recordWait
  split <;> rfl

theorem forgetFailed_of_none (h : s.failedAction = none) :
    p.forgetFailed s = s := by
  unfold forgetFailed
  rw [h]
  rfl

/-- The wait for an action goes on if it is on record, and the grounds for it
are the same. -/
theorem waits_again {expected : StateRule}
    (stays : p.resource.deletionRequested = false)
    (chosen : p.Chooses t₁ s (some action))
    (unmet : check (p.forgetFailed s) action = .unmet expected)
    (marked : (p.recordWait (p.forgetFailed s) action.signature).waiting
      = some m)
    (left : s'.facts = (p.recordWait (p.forgetFailed s) action.signature).facts)
    (first : p.run.Walk (t₁ ++ t₂) r) (resumes : q.Resumes p s')
    (second : q.run.Walk u r') (shown : sights u = sights (t₁ ++ t₂)) :
    q.Weighs m u := by
  have hstays : q.resource.deletionRequested = false :=
    resumes.deletionRequested.trans stays
  obtain ⟨hsignature, -⟩ := sinceClamped_waitingSince marked
  obtain ⟨seen, observed, needed, free⟩ := chosen
  -- what was left has the grounds that were seen, the mark that was kept, and
  -- no failure
  have hchosen : s.grounds = seen.grounds := by
    have hkept := grounds_trackInFlight p seen (some action)
    rwa [free] at hkept
  have hgrounds : s'.grounds = seen.grounds := by
    have hleft : s'.grounds
      = (p.recordWait (p.forgetFailed s) action.signature).grounds :=
        (congrArg Status.grounds left :)
    rw [hleft, grounds_recordWait, grounds_forgetFailed, hchosen]
  have hmark : s'.inFlight = s.inFlight := by
    rw [Status.inFlight_eq_of_facts left, inFlight_recordWait]
    exact (congrArg Status.inFlight (facts_forgetFailed p s) :)
  have hfailed : s'.failedAction = none := by
    have hleft : s'.failedAction
        = (p.recordWait (p.forgetFailed s) action.signature).failedAction :=
      (congrArg Status.failedAction left :)
    rw [hleft, failedAction_recordWait]
    exact (congrArg Status.failedAction (facts_forgetFailed p s) :)
  have hwaiting :
      s'.waiting = some m := (congrArg Status.waiting left :).trans marked
  -- an action with a precondition works on an object that is known
  have hknown : seen.identity.isSome = true := by
    refine isSome_identity_of_unmet stays needed ?_ unmet
    exact (congrArg Status.identity
      ((grounds_forgetFailed p s).trans hchosen) :)
  -- the second pass comes to the same action by the same grounds
  obtain ⟨-, u₁, u₂, seen', rfl, again, needed', hkept, hmarks⟩ :=
    proceed_again stays first observed needed hknown resumes hgrounds
      second shown
  have hfresh : seen'.failedAction = none := hmarks.failedAction.trans hfailed
  have hunforgotten :
      q.forgetFailed seen' = seen' := forgetFailed_of_none hfresh
  have hstate : seen'.lifecycleState = seen.lifecycleState :=
    (congrArg Status.lifecycleState hkept :)
  have hfree : q.trackInFlight seen' (some action) = .proceed seen' :=
    trackInFlight_again free (hmarks.inFlight.trans hmark) hstate
  have hunmet : check (q.forgetFailed seen') action = .unmet expected := by
    have hsame : (p.forgetFailed s).grounds = seen'.grounds :=
      (grounds_forgetFailed p s).trans (hchosen.trans hkept.symm)
    have hid : (p.forgetFailed s).identity = seen'.identity :=
      (congrArg Status.identity hsame :)
    have hlife : (p.forgetFailed s).lifecycleState = seen'.lifecycleState :=
      (congrArg Status.lifecycleState hsame :)
    rw [hunforgotten, ← unmet]
    unfold check
    rw [hid, hlife]
  -- and finds the wait recorded
  have hwait : (q.recordWait (q.forgetFailed seen') action.signature).waiting
      = some m := by
    have hrecorded : seen'.waiting.any
        (fun w => w.signature == action.signature) = true := by
      rw [hmarks.waiting, hwaiting]
      simpa using hsignature
    rw [hunforgotten, recordWait, if_pos hrecorded]
    exact hmarks.waiting.trans hwaiting
  exact .waiting hstays rfl ⟨seen', again, needed', hfree⟩
    (by rw [hfresh]; nofun) hunmet hwait

/-- A pass that resumes one that a mark held back, and is shown the same, comes
to weigh the same mark. -/
theorem HoldsBack.weighs_again (h : p.HoldsBack m t)
    (first : p.run.Walk t (.ok o)) (resumes : q.Resumes p o.status)
    (second : q.run.Walk u r) (shown : sights u = sights t) : q.Weighs m u := by
  obtain ⟨weighs, young⟩ := h
  have hleft := resumes.status
  -- at each place the first pass leaves its mark on record, and what it was
  -- shown leads the second one there again
  cases weighs with
  | creating attends unknown marked create unshown =>
    obtain ⟨s, quits, hnone, hmark⟩ :=
      quits_of_creating unknown marked create attends unshown young first
    rw [quits.status_eq] at hleft
    rw [← resumes.deletionRequested, ← resumes.hardLink] at attends
    rw [← shown] at unshown
    exact .creating attends (by rw [hleft, hnone]) (by rw [hleft, hmark]) create
      (unshown.of_resumes resumes)
  | appearing stays known marked brings nowhere =>
    obtain ⟨s, quits, hid, hmark⟩ :=
      quits_of_appearing stays known marked brings nowhere first young
    rw [quits.status_eq] at hleft
    rw [← shown] at nowhere
    exact .appearing (resumes.deletionRequested.trans stays)
      (by rw [hleft, hid]) (by rw [hleft, hmark]) brings nowhere
  | @confirming _ _ seen _ stays ht observed marked needed same =>
    subst ht
    obtain ⟨s, quits, hfacts⟩ :=
      quits_of_confirming stays observed marked needed same young first
    -- a mark outlives the search only with an identity
    have hknown : seen.identity.isSome = true := by
      rw [Option.isSome_iff_ne_none]
      intro hnone
      rw [unmarked_of_unknown observed hnone] at marked
      cases marked
    rw [quits.status_eq] at resumes
    obtain ⟨-, u₁, u₂, seen', rfl, again, needed', -, hmarks⟩ :=
      proceed_again stays first observed needed hknown resumes
        (congrArg Status.grounds hfacts :) second shown
    have hmark : seen'.inFlight = some m :=
      hmarks.inFlight.trans ((Status.inFlight_eq_of_facts hfacts).trans marked)
    exact .confirming (resumes.deletionRequested.trans stays) rfl again hmark
      needed' same
  | waiting stays ht chosen fresh unmet marked =>
    subst ht
    obtain ⟨s, quits, hfacts⟩ :=
      quits_of_waiting stays chosen fresh unmet marked first young
    rw [quits.status_eq] at resumes
    exact waits_again stays chosen unmet marked hfacts first resumes
      second shown
  | deleting leaves hard known marked same found standing =>
    obtain ⟨s, quits, hid, hmark⟩ :=
      quits_of_deleting leaves hard known marked same found standing first young
    rw [quits.status_eq] at hleft
    rw [← shown] at found
    exact .deleting (resumes.deletionRequested.trans leaves)
      (resumes.hardLink.trans hard) (by rw [hleft, hid])
      (by rw [hleft, hmark]) same found standing

/-- A mark whose text cannot be read is young at any time. -/
theorem HoldsBack.of_unreadable (h : p.HoldsBack m t) (weighs : q.Weighs m u)
    (unreadable : Instant.ofTimestamp? m.since = none)
    (same : q.settings.maxWait = p.settings.maxWait) : q.HoldsBack m u := by
  have hpositive : Duration.zero < p.settings.maxWait :=
    Nat.lt_of_le_of_lt (Nat.zero_le _) h.2
  refine ⟨weighs, ?_⟩
  rw [same]
  exact (Instant.age_lt_iff hpositive).mpr (.inl unreadable)

end Pass

/-- A pass succeeds, and the next one resumes it and is shown the same. -/
def Turn.ResumedBy (turn next : Turn) : Prop :=
  sights next.trace = sights turn.trace
    ∧ ∃ o, turn.result = .ok o ∧ next.pass.Resumes turn.pass o.status

/-- A mark that cannot be read holds back every pass of a run in which nothing
else changes, however long that is. -/
theorem held_back_for_ever {m : PendingAction} {first : Turn}
    {later : List Turn} (unreadable : Instant.ofTimestamp? m.since = none)
    (holds : first.pass.HoldsBack m first.trace)
    (run : (first :: later).IsChain Turn.ResumedBy) :
    ∀ turn ∈ later, turn.pass.HoldsBack m turn.trace := by
  induction later generalizing first with
  | nil => simp
  | cons next later ih =>
    obtain ⟨⟨shown, o, hresult, resumes⟩, rest⟩ := List.isChain_cons_cons.mp run
    have walk := first.walk
    rw [hresult] at walk
    have again : next.pass.HoldsBack m next.trace :=
      holds.of_unreadable (holds.weighs_again walk resumes next.walk shown)
        unreadable resumes.maxWait
    intro turn hturn
    rcases List.mem_cons.mp hturn with rfl | hturn
    · exact again
    · exact ih again rest turn hturn

namespace Pass

variable {p q : Pass} {m : PendingAction} {t u : List PassEvent}
    {r : Except OperatorError Outcome} {o : Outcome}

/-- **For how long a mark holds back.** A mark holds back a pass that succeeds.
A later pass begins with the status that this one left, over the same spec, and
is shown the same. Then

1. the mark holds the later pass back too exactly if its text cannot be read, or
   names a time that lies less than the longest wait before that pass;
2. if so, the later pass sends nothing, and leaves the mark as it was;
3. if not, the later pass goes on: without the mark it chooses what is to be
   done, a deletion lets go or deletes again, or the end of the wait for a
   precondition is reported; and
4. that is so if the text can be read, its time is not after the first pass, and
   the longest wait is over since then. -/
theorem holdsBack_again_iff (holds : p.HoldsBack m t)
    (first : p.run.Walk t (.ok o)) (resumes : q.Resumes p o.status)
    (second : q.run.Walk u r) (shown : sights u = sights t) :
    (q.HoldsBack m u
        ↔ Instant.ofTimestamp? m.since = none
          ∨ ∃ since, Instant.ofTimestamp? m.since = some since
            ∧ Instant.sinceClamped since q.now < p.settings.maxWait)
      ∧ (q.HoldsBack m u →
        q.actionsSent u = []
          ∧ ∀ o', r = .ok o' →
            o'.status.inFlight = some m ∨ o'.status.waiting = some m)
      ∧ (¬ q.HoldsBack m u → q.MovesOn m u r)
      ∧ ∀ since, Instant.ofTimestamp? m.since = some since →
        since.sinceEpoch ≤ p.now.sinceEpoch →
          p.now.sinceEpoch + p.settings.maxWait.nanos ≤ q.now.sinceEpoch →
            q.now.inLeapSecond = false → ¬ q.HoldsBack m u := by
  have weighs : q.Weighs m u := holds.weighs_again first resumes second shown
  have hpositive : Duration.zero < p.settings.maxWait :=
    Nat.lt_of_le_of_lt (Nat.zero_le _) holds.2
  have hyoung :
      q.HoldsBack m u ↔ Instant.age m.since q.now < p.settings.maxWait := by
    rw [← resumes.maxWait]
    exact and_iff_right weighs
  have hiff := hyoung.trans (Instant.age_lt_iff hpositive)
  refine ⟨hiff, fun again => ?_, fun outlasted => ?_,
    fun since readable past later plain again => ?_⟩
  · obtain ⟨s, quits, hmark⟩ := again.quits second
    refine ⟨quits.idle, ?_⟩
    rintro o' rfl
    rwa [quits.status_eq]
  · rw [hyoung, ← resumes.maxWait] at outlasted
    exact weighs.movesOn outlasted second
  · rcases hiff.mp again with hunread | ⟨since', hread, hrecent⟩
    · rw [readable] at hunread
      cases hunread
    · obtain rfl := Option.some.inj (readable.symm.trans hread)
      exact Nat.not_lt_of_le (Instant.le_sinceClamped plain past later) hrecent

/-- The mark of an update that is under way since some time. -/
def updateMark (since : String) : PendingAction :=
  { signature :=
      (CorrectiveAction.updateAttributes { cpuCoreCount := some 2 }).signature
    since }

/-- A pass that begins with a status, and finds a small database that is to be
larger. -/
def updatingTurn (status : Status) (now : Instant) : Turn :=
  .simulated Simulation.answer (.ofSized 2 status now) (failingRemote [])

/-- A pass that begins with the mark of an update. -/
def markedTurn (since : String) : Turn :=
  updatingTurn
    { identity := some "ocid1.adb.1", inFlight := some (updateMark since) }
    ⟨1700000000, 0⟩

/-- The pass after it, when the longest wait is over. -/
def laterTurn (since : String) : Turn :=
  updatingTurn (markedTurn since).stored ⟨1700000900, 0⟩

/-- An update that was marked a while before is chosen again. -/
theorem readable_mark_over :
    ¬ (laterTurn "2023-11-14T22:13:10Z").pass.HoldsBack
        (updateMark "2023-11-14T22:13:10Z")
        (laterTurn "2023-11-14T22:13:10Z").trace
      ∧ (laterTurn "2023-11-14T22:13:10Z").pass.MovesOn
        (updateMark "2023-11-14T22:13:10Z")
        (laterTurn "2023-11-14T22:13:10Z").trace
        (laterTurn "2023-11-14T22:13:10Z").result := by
  obtain ⟨kept, hfirst⟩ : ∃ kept, (markedTurn "2023-11-14T22:13:10Z").trace
      = [.remote (.get "ocid1.adb.1") (.answered smallDatabase),
        .remote (.list { displayName := some "sales" })
          (.answered [smallDatabase])] ++ [.saved kept] := ⟨_, rfl⟩
  obtain ⟨marked, rest, hsecond⟩ : ∃ marked rest,
    (laterTurn "2023-11-14T22:13:10Z").trace
      = [.remote (.get "ocid1.adb.1") (.answered smallDatabase),
        .remote (.list { displayName := some "sales" })
          (.answered [smallDatabase])] ++ .saved marked :: rest :=
    ⟨_, _, rfl⟩
  obtain ⟨o, hresult, hstatus⟩ : ∃ o,
    (markedTurn "2023-11-14T22:13:10Z").result = .ok o
      ∧ o.status = (markedTurn "2023-11-14T22:13:10Z").stored := ⟨_, rfl, rfl⟩
  have holds : (markedTurn "2023-11-14T22:13:10Z").pass.HoldsBack
      (updateMark "2023-11-14T22:13:10Z")
      (markedTurn "2023-11-14T22:13:10Z").trace :=
    ⟨.confirming rfl hfirst (.ask _ (.ask _ (.done _))) rfl rfl rfl,
      by decide +kernel⟩
  have first := (markedTurn "2023-11-14T22:13:10Z").walk
  rw [hresult] at first
  have resumes : (laterTurn "2023-11-14T22:13:10Z").pass.Resumes
      (markedTurn "2023-11-14T22:13:10Z").pass o.status := by
    rw [hstatus]
    exact ⟨⟨_, rfl⟩, none, rfl⟩
  obtain ⟨-, -, hmoves, hover⟩ :=
    holdsBack_again_iff holds first resumes
      (laterTurn "2023-11-14T22:13:10Z").walk (by rw [hfirst, hsecond]; rfl)
  have hdone := hover ⟨1699999990, 0⟩ (by decide +kernel) (by decide)
    (by decide) (by decide)
  exact ⟨hdone, hmoves hdone⟩

/-- An update whose mark cannot be read holds back when the longest wait is
over. -/
theorem unreadable_mark_holds_on :
    (markedTurn "yesterday").pass.HoldsBack (updateMark "yesterday")
        (markedTurn "yesterday").trace
      ∧ (laterTurn "yesterday").pass.Resumes (markedTurn "yesterday").pass
        (markedTurn "yesterday").stored
      ∧ sights (laterTurn "yesterday").trace
        = sights (markedTurn "yesterday").trace
      ∧ (markedTurn "yesterday").pass.now.sinceEpoch
          + (markedTurn "yesterday").pass.settings.maxWait.nanos
        ≤ (laterTurn "yesterday").pass.now.sinceEpoch
      ∧ (laterTurn "yesterday").pass.HoldsBack (updateMark "yesterday")
        (laterTurn "yesterday").trace := by
  obtain ⟨kept, hfirst⟩ : ∃ kept, (markedTurn "yesterday").trace
      = [.remote (.get "ocid1.adb.1") (.answered smallDatabase),
        .remote (.list { displayName := some "sales" })
          (.answered [smallDatabase])] ++ [.saved kept] := ⟨_, rfl⟩
  obtain ⟨rest, hsecond, hnone⟩ : ∃ rest, (laterTurn "yesterday").trace
      = [.remote (.get "ocid1.adb.1") (.answered smallDatabase),
        .remote (.list { displayName := some "sales" })
          (.answered [smallDatabase])] ++ rest ∧ rest = [] := ⟨_, rfl, rfl⟩
  refine ⟨⟨.confirming rfl hfirst (.ask _ (.ask _ (.done _))) rfl rfl rfl,
    by decide +kernel⟩, ⟨⟨_, rfl⟩, none, rfl⟩,
    by rw [hfirst, hsecond, hnone]; rfl, by decide, ?_⟩
  exact ⟨.confirming rfl hsecond (.ask _ (.ask _ (.done _))) rfl rfl rfl,
    by decide +kernel⟩

end Pass

end DatabaseOperator
