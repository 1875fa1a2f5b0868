import DatabaseOperator.Proofs.Pass.Grounds
import DatabaseOperator.Proofs.Pass.Refusal
import DatabaseOperator.Proofs.Time.Timestamp

/-!
# Actions that are not confirmed

That the remote has taken an action does not mean that the action has had its
effect. The mark of an action on an object stays until the effect is seen, and
an action on a pluggable database is on record as completed instead. Until a
pass learns something of the object, or finds the mark too old, nothing is sent.
As with creates, a pass that finds the mark too old ends this for all passes
after it, whatever their clocks say.

- `Pass.Awaits`: the object and the action are on record.
- `Pass.awaits_of_sent`: they are after a pass whose action was taken, or whose
  end was lost.
- `Pass.Unconfirmed`: what a pass is told that does not confirm an action.
- `Pass.awaits_of_walk`: a pass that is told no more, while the mark is young,
  sends nothing and leaves the record so.
- `nothing_sent_while_unconfirmed`: the same for a run.
- `update_repeated_after_clock_went_back`: without a bound on all clocks an
  action is sent again early.
-/

namespace DatabaseOperator

namespace Pass

variable {p : Pass} {s s' seen known : Status} {id : String}
    {pending : PendingAction} {action : CorrectiveAction}
    {t t₁ before after rest : List PassEvent} {r : Except OperatorError Outcome}

/-! ## On record -/

/-- An object is on record, and with it an action: as under way since a time, or
as the one that was completed last. -/
def Awaits (pending : PendingAction) (s : Status) : Prop :=
  s.identity.isSome = true
    ∧ (s.inFlight = some pending
      ∨ ∃ request : PdbRequest, pending.signature = request.signature
        ∧ s.lastCompletedAction = some pending.signature)

theorem Awaits.of_eq (h : Awaits pending s) (hid : s'.identity = s.identity)
    (hmark : s'.inFlight = s.inFlight)
    (hdone : s'.lastCompletedAction = s.lastCompletedAction) :
    Awaits pending s' := by
  unfold Awaits
  rw [hid, hmark, hdone]
  exact h

theorem Awaits.of_facts (h : Awaits pending s) (hfacts : s'.facts = s.facts) :
    Awaits pending s' := by
  have hdone : s'.facts.lastCompletedAction = s.facts.lastCompletedAction := by
    rw [hfacts]
  exact h.of_eq (Status.identity_eq_of_facts hfacts)
    (Status.inFlight_eq_of_facts hfacts) hdone

/-- An action on an object that the remote has taken stays marked, or is
completed. -/
theorem awaits_afterSuccess (hid : s.identity = some id)
    (mark : s.inFlight = some pending)
    (same : pending.signature = action.signature)
    (works : action.kind.leadsToIdentity = false) (found : Option Snapshot) :
    Awaits pending (p.afterSuccess s action found).1 := by
  refine ⟨?_, ?_⟩
  · rw [(inherits_afterSuccess hid action found).1, hid]
    rfl
  · cases action with
    | provision | bind => cases works
    | pdb request =>
      refine .inr ⟨request, same, ?_⟩
      rw [lastCompletedAction_afterSuccess, same]
      rfl
    | updateAttributes | changeState | delete =>
      refine .inl ?_
      rw [← mark]
      cases found <;> rfl

/-- After a pass that has sent an action on an object, the action is on record,
if the remote took it or the end of the pass was lost. -/
theorem awaits_of_sent {call : RemoteCall} {reply : Reply call.Answer}
    (h : p.run.Walk t r) (ht : t = before ++ .remote call reply :: after)
    (acts : p.sentBy (.remote call reply) = some action)
    (works : action.kind.leadsToIdentity = false)
    (kept : (∃ a, reply = .answered a) ∨ ∀ s, .saved s ∉ after) (s₀ : Status) :
    Awaits (p.pending action.signature) (storedAfter s₀ t) := by
  -- what is stored last is the mark, or what the answer has made of it
  have hlast : ∀ {looked : List PassEvent} {marked : Status}, before
      = looked ++ [.saved marked] → Awaits (p.pending action.signature) marked →
        (∀ s, .saved s ∈ after → (∃ a, reply = .answered a) →
          Awaits (p.pending action.signature) s) →
            Awaits (p.pending action.signature) (storedAfter s₀ t) := by
    intro looked marked hbefore hmarked hafter
    have hstored : storedAfter s₀ t = storedAfter marked after := by
      rw [ht, hbefore, storedAfter_append, storedAfter_append]
      rfl
    rw [hstored]
    rcases storedAfter_cases marked after with hsame | hsaved
    · rw [hsame]
      exact hmarked
    · rcases kept with taken | lost
      · exact hafter _ hsaved taken
      · exact absurd hsaved (lost _)
  -- the action is one of the spec, or the delete of a deletion
  cases hdel : p.resource.deletionRequested with
  | false =>
    obtain ⟨looked, read, s, chosen, c, call', reply', hbefore, he, sends, -,
        target, ending⟩ :=
      (course_of_walk hdel h).sends_of_sentBy ht acts
    cases he
    obtain ⟨sent, hsent, hkind, hsignature⟩ :=
      sentBy_of_sends hdel sends target reply
    cases acts.symm.trans hsent
    obtain ⟨row, hrow, holds⟩ := sends.row
    have hknown := Precondition.isSome_identity_of_holds hrow holds
    rw [← hkind, works] at hknown
    obtain ⟨id, hid⟩ := Option.isSome_iff_exists.mp hknown
    -- the mark is stored before the call, and has the signature of what was
    -- sent
    have hmark : (p.markDispatched s chosen).inFlight
        = some (p.pending action.signature) := by
      rw [hsignature]
      exact inFlight_markDispatched p s chosen
    refine hlast hbefore ⟨hknown, .inl hmark⟩ ?_
    rintro s' hs ⟨a, rfl⟩
    have hanswer : p.answerOf call (.answered a) = .ok (call.reported a) :=
      answerOf_eq_ok_iff.mpr ⟨a, rfl, rfl⟩
    have hafter := eq_of_saved_mem_finish ending hs
    rw [hanswer] at hafter
    rw [hafter]
    exact awaits_afterSuccess hid hmark hsignature (hkind ▸ works) _
  | true =>
    obtain ⟨t₁, looked, known, id, s, observed, reply', hbefore, he, knows,
        located, -, hafter⟩ :=
      (teardown_of_walk hdel h).deletes_of_sentBy hdel ht acts
    cases he
    cases acts
    have hid : s.identity = some id :=
      (inherits_of_walk_locate knows.2 located).1.trans knows.2
    have hmarked : Awaits (p.pending deleteSignature) (p.markDeleted s) := by
      refine ⟨?_, .inl rfl⟩
      rw [show (p.markDeleted s).identity = some id from hid]
      rfl
    -- the answer to a delete leaves the mark as it is
    refine hlast hbefore hmarked ?_
    rintro s' hs ⟨a, rfl⟩
    rw [hafter s' hs]
    exact hmarked

/-! ## Not confirmed -/

/-- A pass is told nothing that confirms an action. -/
inductive Unconfirmed (p : Pass) (action : CorrectiveAction)
    (t : List PassEvent) : Prop where
  /-- The object cannot be read, but not because it is not found, and no list
  shows it. -/
  | unread {id : String} {direct : Reply Snapshot} {e : RemoteError}
      {rest : List PassEvent} (begins : t = .remote (.get id) direct :: rest)
      (failed : p.outcomeOf direct = .error e) (unknown : e.isNotFound = false)
      (unlisted : ∀ filter reply, .remote (.list filter) reply ∈ t →
        listedAs id reply.items = none)
  /-- The direct read and the list disagree on the state of the object, or only
  the list has it. A deletion does not compare them. -/
  | disagreed {id : String} {direct : Reply Snapshot} {listed : Snapshot}
      (stays : p.resource.deletionRequested = false)
      (reads : p.Reads id t direct (some listed))
      (differ : direct.isNotFound = true
        ∨ ∃ found, direct = .answered found ∧ found.state ≠ listed.state)
  /-- The same action is found to be needed still. -/
  | needed {t₁ rest : List PassEvent} {seen : Status} {again : CorrectiveAction}
      (stays : p.resource.deletionRequested = false) (begins : t = t₁ ++ rest)
      (observed : (p.observeRemote p.initialStatus).Walk t₁ (.proceed seen))
      (needed : p.resource.nextAction? seen = some again)
      (same : again.signature = action.signature)
  /-- The action is that of a deletion, and the resource is still being
  deleted. -/
  | deleting (leaves : p.resource.deletionRequested = true)
      (deletes : action = .delete true)

/-- What is read is settled by the exchanges, if the list shows nothing. -/
theorem Reads.of_unread {id' : String} {direct direct' : Reply Snapshot}
    {listed : Option Snapshot} (h : p.Reads id t direct listed)
    (begins : t = .remote (.get id') direct' :: rest)
    (unlisted : ∀ filter reply, .remote (.list filter) reply ∈ t →
      listedAs id' reply.items = none) : direct = direct' ∧ listed = none := by
  cases h with
  | alone =>
    cases begins
    exact ⟨rfl, rfl⟩
  | listed =>
    cases begins
    exact ⟨rfl, unlisted p.resource.listFilter _ (by simp)⟩

/-! ### Passes over a resource that stays -/

theorem awaits_afterReadError (h : Awaits pending s) (p : Pass)
    (e : RemoteError) : Awaits pending (p.afterReadError s e).status := by
  unfold afterReadError
  cases e.errorClass <;> exact h

theorem awaits_afterMismatch (h : Awaits pending s) (p : Pass)
    (direct : Option LifecycleState) (listed : Snapshot) :
    Awaits pending (p.afterMismatch s direct listed).status := by
  obtain ⟨id, hid⟩ := Option.isSome_iff_exists.mp h.1
  refine h.of_eq (inherits_afterMismatch hid direct listed).1 ?_ ?_
  · unfold afterMismatch
    simp only
    split <;> rfl
  · exact Status.lastCompletedAction_eq_of_verdicts
      (verdicts_afterMismatch p s direct listed)

/-- An action under way that is needed again is given time while its mark is
young. -/
theorem trackInFlight_of_young (mark : s.inFlight = some pending)
    (same : action.signature = pending.signature)
    (young : Instant.age pending.since p.now < p.settings.maxWait) :
    ∃ s' d, p.trackInFlight s (some action) = .stop s' d
      ∧ s'.facts = s.facts := by
  unfold trackInFlight
  simp only [mark, Option.filter_some, same, beq_self_eq_true,
    ↓reduceIte, young]
  exact ⟨_, _, rfl, Status.facts_reportProgressing ..⟩

/-- What a pass goes on with has the mark that the reads began with. -/
theorem inFlight_of_mergeReads {direct : Except RemoteError Snapshot}
    {listed : Option Snapshot}
    (h : p.mergeReads s direct listed = .proceed seen) :
    seen.inFlight = s.inFlight := by
  unfold mergeReads at h
  split at h
  next found other =>
    split at h
    next =>
      cases h
      rfl
    next =>
      obtain ⟨_, _, hstop⟩ := afterMismatch_eq_stop p s (some found.state) other
      rw [hstop] at h
      cases h
  next =>
    cases h
    rfl
  next other =>
    split at h
    next =>
      obtain ⟨_, _, hstop⟩ := afterMismatch_eq_stop p s none other
      rw [hstop] at h
      cases h
    next =>
      cases h
      rfl
  next e =>
    split at h
    next =>
      obtain ⟨-, _, -, rfl⟩ := afterMissing_eq_proceed_iff.mp h
      rfl
    next =>
      obtain ⟨_, _, hstop⟩ := afterReadError_eq_stop p s e
      rw [hstop] at h
      cases h

/-- So the record is the same when a pass goes on. -/
theorem awaits_of_walk_observeRemote (h : Awaits pending p.resource.status)
    (observed : (p.observeRemote p.initialStatus).Walk t (.proceed seen)) :
    Awaits pending seen := by
  obtain ⟨id, hid⟩ := Option.isSome_iff_exists.mp h.1
  obtain ⟨direct, listed, -, hstep⟩ :=
    reads_of_walk_observeRemote hid observed []
  have hmark : seen.inFlight = p.initialStatus.inFlight :=
    inFlight_of_mergeReads hstep.symm
  refine h.of_eq (inherits_of_walk_observeRemote hid observed).1 hmark ?_
  exact Status.lastCompletedAction_eq_of_verdicts
    (verdicts_of_walk_observeRemote observed)

/-- Reads that disagree are put together as a mismatch. -/
theorem mergeReads_of_disagreement {direct : Reply Snapshot} {listed : Snapshot}
    (differ : direct.isNotFound = true
      ∨ ∃ found, direct = .answered found ∧ found.state ≠ listed.state) :
    ∃ state, p.mergeReads s (p.outcomeOf direct) (some listed)
      = p.afterMismatch s state listed := by
  rcases differ with absent | ⟨found, rfl, hstate⟩
  · cases direct with
    | failed e =>
      refine ⟨none, ?_⟩
      show (if e.isNotFound = true then p.afterMismatch s none listed
        else .proceed (observe s listed)) = _
      exact if_pos absent
    | answered | hung => cases absent
  · refine ⟨some found.state, ?_⟩
    show (if found.state = listed.state then _
      else p.afterMismatch s (some found.state) listed) = _
    exact if_neg hstate

section Young

variable (hbegin : Awaits pending p.resource.status)
    (same : pending.signature = action.signature)
    (young : Instant.age pending.since p.now < p.settings.maxWait)

include hbegin same

/-- If the action is needed still, it is held back: one that was completed is
not needed. -/
theorem held_of_needed {again : CorrectiveAction}
    (young : Instant.age pending.since p.now < p.settings.maxWait)
    (stays : p.resource.deletionRequested = false)
    (observed : (p.observeRemote p.initialStatus).Walk t₁ (.proceed seen))
    (needed : p.resource.nextAction? seen = some again)
    (hagain : again.signature = action.signature) :
    ∃ s d, p.trackInFlight seen (some again) = .stop s d
      ∧ Awaits pending s := by
  have hseen :
      Awaits pending seen := awaits_of_walk_observeRemote hbegin observed
  rcases hseen.2 with hmark | ⟨request, hrequest, hdone⟩
  · obtain ⟨s, d, hheld, hfacts⟩ :=
      trackInFlight_of_young hmark (hagain.trans same.symm) young
    exact ⟨s, d, hheld, hseen.of_facts hfacts⟩
  · have hsignature :
        again.signature = (CorrectiveAction.pdb request).signature :=
      (hagain.trans same.symm).trans hrequest
    generalize hpdb : CorrectiveAction.pdb request = asked at hsignature
    cases CorrectiveAction.signature_eq_iff.mp hsignature with
    | pdb kind told =>
      refine absurd ?_
        (ManagedResource.lastCompletedAction_ne_of_nextAction? stays
          hseen.1 needed)
      rw [hdone]
      exact congrArg some (same.trans hagain.symm)
    | _ => cases hpdb

include young

/-- A pass over a resource that stays, and that is told nothing of the action,
is over once it has observed the object: what it was told ends it, or the mark
of the action holds it back. -/
theorem stops_of_unconfirmed {step : Step}
    (stays : p.resource.deletionRequested = false)
    (unconfirmed : p.Unconfirmed action (t₁ ++ rest))
    (h : (p.observeRemote p.initialStatus).Walk t₁ step) :
    ∃ s d, Awaits pending s ∧ (step = .stop s d
      ∨ ∃ seen, step = .proceed seen
        ∧ p.trackInFlight seen (p.resource.nextAction? seen) = .stop s d) := by
  obtain ⟨id, hid⟩ := Option.isSome_iff_exists.mp hbegin.1
  have hinit : Awaits pending p.initialStatus := hbegin
  obtain ⟨direct, listed, reads, hstep⟩ :=
    reads_of_walk_observeRemote hid h rest
  cases unconfirmed with
  | @unread _ _ e _ begins failed unknown unlisted =>
    obtain ⟨rfl, hlisted⟩ := reads.of_unread begins unlisted
    obtain ⟨s, d, hstop⟩ := afterReadError_eq_stop p p.initialStatus e
    refine ⟨s, d, ?_, .inl ?_⟩
    · have hkept := awaits_afterReadError hinit p e
      rwa [hstop] at hkept
    · rw [hstep, failed, hlisted, ← hstop]
      exact if_neg (by simp [unknown])
  | @disagreed _ _ listed' _ reads' differ =>
    obtain rfl := Option.some.inj (reads.known.symm.trans reads'.known)
    obtain ⟨rfl, rfl⟩ := reads.unique reads'
    obtain ⟨state, hmismatch⟩ : ∃ state,
      p.mergeReads p.initialStatus (p.outcomeOf direct) (some listed')
        = p.afterMismatch p.initialStatus state listed' :=
          mergeReads_of_disagreement differ
    obtain ⟨s, d, hstop⟩ :=
      afterMismatch_eq_stop p p.initialStatus state listed'
    refine ⟨s, d, ?_, .inl ?_⟩
    · have hkept := awaits_afterMismatch hinit p state listed'
      rwa [hstop] at hkept
    · rw [hstep, hmismatch, hstop]
  | needed _ begins observed needed hagain =>
    obtain ⟨rfl, rfl, -⟩ := h.unique observed begins
    obtain ⟨s, d, hheld, hawaits⟩ :=
      held_of_needed hbegin same young stays observed needed hagain
    exact ⟨s, d, hawaits, .inr ⟨_, rfl, by rw [needed, hheld]⟩⟩
  | deleting leaves =>
    rw [stays] at leaves
    cases leaves

/-- Such a pass sends nothing, and the record is the same in all that it
stores. -/
theorem awaits_of_walk_staying (stays : p.resource.deletionRequested = false)
    (unconfirmed : p.Unconfirmed action t) (h : p.run.Walk t r) :
    p.actionsSent t = [] ∧ ∀ s, .saved s ∈ t → Awaits pending s := by
  -- the pass does not get as far as choosing what to do
  have hstops : ∀ {t₁ rest step}, t = t₁ ++ rest →
    (p.observeRemote p.initialStatus).Walk t₁ step → ∃ s d,
      Awaits pending s ∧ (step = .stop s d
        ∨ ∃ seen, step = .proceed seen
          ∧ p.trackInFlight seen (p.resource.nextAction? seen)
            = .stop s d) := by
    rintro t₁ rest step rfl observed
    exact stops_of_unconfirmed hbegin same young stays unconfirmed observed
  have hunchosen :
      ∀ {t₁ rest s chosen}, t = t₁ ++ rest → ¬ p.Chooses t₁ s chosen := by
    rintro t₁ rest s chosen ht ⟨seen, observed, rfl, free⟩
    obtain ⟨s', d, -, hstep | ⟨seen', hstep, held⟩⟩ := hstops ht observed
    · cases hstep
    · cases hstep
      rw [held] at free
      cases free
  cases course_of_walk stays h with
  | stopped observed ending =>
    have quiet := quiet_of_walk_observeRemote observed
    refine ⟨actionsSent_of_idle quiet (ending_of_walk_finish ending),
      fun s hs => ?_⟩
    obtain ⟨s', d, hawaits, hstep | ⟨_, hstep, -⟩⟩ := hstops rfl observed
    · cases hstep
      rwa [eq_of_saved_mem_quits quiet ending hs]
    · cases hstep
  | held observed held ending =>
    have quiet := quiet_of_walk_observeRemote observed
    refine ⟨actionsSent_of_idle quiet (ending_of_walk_finish ending),
      fun s hs => ?_⟩
    obtain ⟨s', d, hawaits, hstep | ⟨_, hstep, held'⟩⟩ := hstops rfl observed
    · cases hstep
    · cases hstep
      cases held.symm.trans held'
      rwa [eq_of_saved_mem_quits quiet ending hs]
  | settled chosen | declined chosen | waited chosen | illegal chosen =>
    exact absurd chosen (hunchosen rfl)
  | uncredited sends | unmarked sends | sent sends =>
    obtain ⟨chosen, hchosen, -⟩ := sends
    exact absurd hchosen (hunchosen rfl)

/-! ### Deletions -/

omit hbegin same young in
theorem inFlight_of_walk_locate {observed : Option LifecycleState}
    (h : (p.locate known id).Walk t (.ok (s, observed))) :
    s.inFlight = known.inFlight := by
  obtain ⟨found, hfound⟩ := sighted_of_walk_locate h
  cases found <;> cases hfound <;> rfl

omit hbegin same young in
/-- What a deletion learns of its object does not touch the record. -/
theorem awaits_of_walk_locate {observed : Option LifecycleState}
    (h : Awaits pending known) (hid : known.identity = some id)
    (located : (p.locate known id).Walk t (.ok (s, observed))) :
    Awaits pending s := by
  refine h.of_eq (inherits_of_walk_locate hid located).1
    (inFlight_of_walk_locate located) ?_
  exact Status.lastCompletedAction_eq_of_verdicts
    (verdicts_of_walk_locate located)

omit hbegin same young in
/-- A deletion that was told of its object could read it, or looked for it in
the list. -/
theorem not_unread_of_walk_locate {observed : Option LifecycleState}
    {direct : Reply Snapshot} {e : RemoteError} {id' : String}
    {after : List PassEvent}
    (located : (p.locate known id).Walk t₁ (.ok (s, observed)))
    (begins : t₁ ++ rest = .remote (.get id') direct :: after)
    (failed : p.outcomeOf direct = .error e) : e.isNotFound = true := by
  rcases sight_of_walk_locate located with ⟨found, rfl, -⟩
    | ⟨direct', reply, absent, rfl, -⟩
  · cases begins
    cases failed
  · cases begins
    cases direct with
    | failed e' =>
      cases failed
      exact absent
    | answered | hung => cases absent

omit hbegin same in
/-- A delete call under way is not repeated while its mark is young. -/
theorem deletionStep_of_young (mark : s.inFlight = some pending)
    (deletes : pending.signature = deleteSignature)
    (observed : Option LifecycleState) :
    p.deletionStep s id observed ≠ .dispatch := by
  unfold deletionStep nextDeletionStep deleteAge
  simp only [mark, Option.filter_some, deletes, beq_self_eq_true, ↓reduceIte,
    Option.map_some, young]
  split
  next => nofun
  next =>
    split
    next => nofun
    next => split <;> nofun

/-- A deletion that is told nothing of the action sends nothing, and the record
is the same in all that it stores. -/
theorem awaits_of_walk_deletion (leaves : p.resource.deletionRequested = true)
    (unconfirmed : p.Unconfirmed action t) (h : p.run.Walk t r) :
    p.actionsSent t = [] ∧ ∀ s, .saved s ∈ t → Awaits pending s := by
  obtain ⟨id, hid⟩ := Option.isSome_iff_exists.mp hbegin.1
  have hknown : Awaits pending p.deletingStatus := hbegin
  have quiet : ∀ {t₁ : List PassEvent}
      {found : Except RemoteError (Status × Option LifecycleState)},
      (p.locate p.deletingStatus id).Walk t₁ found → ∀ e ∈ t₁, p.Quiet e :=
    fun located => quiet_of_walk_locate (by simp [readsObject, leaves]) located
  -- what is told of the object confirms nothing only if the delete call is what
  -- was sent
  have hundispatched : ∀ {t₁ rest s observed}, t = t₁ ++ rest →
      (p.locate p.deletingStatus id).Walk t₁ (.ok (s, observed)) →
        p.deletionStep s id observed ≠ .dispatch := by
    rintro t₁ rest s observed rfl located
    cases unconfirmed with
    | unread begins failed unknown =>
      rw [not_unread_of_walk_locate located begins failed] at unknown
      cases unknown
    | disagreed stays | needed stays =>
      rw [leaves] at stays
      cases stays
    | deleting _ deletes =>
      have hdelete : pending.signature = deleteSignature :=
        same.trans (congrArg CorrectiveAction.signature deletes)
      rcases hbegin.2 with hmark | ⟨request, hrequest, -⟩
      · exact deletionStep_of_young young
          ((inFlight_of_walk_locate located).trans hmark) hdelete observed
      · have hsignature : (CorrectiveAction.delete true).signature
            = (CorrectiveAction.pdb request).signature :=
          hdelete.symm.trans hrequest
        cases CorrectiveAction.signature_eq_iff.mp hsignature
  -- only a hard link gets as far as the object
  cases hlink : p.resource.hardLink with
  | false =>
    cases teardown_of_walk leaves h with
    | detached _ ending =>
      exact ⟨(ending_of_walk_release ending).actionsSent, fun s hs =>
        absurd hs (saved_not_mem_release ending)⟩
    | awaited hard | objectless hard | known hard =>
      rw [hlink] at hard
      cases hard
  | true =>
    -- and there the mark is young, so that the delete call is not sent again
    cases objectTeardown_of_recorded leaves hlink hid h with
    | @unread _ _ _ e _ _ located failed ending =>
      refine ⟨actionsSent_of_idle (quiet located)
        (ending_of_walk_finish ending), fun s hs => ?_⟩
      obtain rfl := eq_of_saved_mem_quits (quiet located) ending hs
      have hkept := awaits_afterReadError hknown p e
      rwa [failed] at hkept
    | gone located _ ending =>
      refine ⟨actionsSent_of_idle (quiet located)
        (ending_of_walk_release ending), fun s hs => ?_⟩
      exact absurd hs (saved_not_mem_append_release
        (saveStatus_not_mem_of_quiet (quiet located)) ending)
    | given located _ ending =>
      refine ⟨actionsSent_of_idle (quiet located)
        (ending_of_walk_finish ending), fun s hs => ?_⟩
      obtain rfl := eq_of_saved_mem_quits (quiet located) ending hs
      exact (awaits_of_walk_locate hknown hid located).of_facts
        (Status.facts_reportDeleting ..)
    | unmarked located step | deleted located step | vanished located step
    | kept located step =>
      exact absurd step (hundispatched rfl located)

/-- A pass that is told nothing of the action sends nothing, and the record is
the same in all that it stores. -/
theorem awaits_of_walk (unconfirmed : p.Unconfirmed action t)
    (h : p.run.Walk t r) :
    p.actionsSent t = [] ∧ ∀ s, .saved s ∈ t → Awaits pending s := by
  cases hdel : p.resource.deletionRequested with
  | false => exact awaits_of_walk_staying hbegin same young hdel unconfirmed h
  | true => exact awaits_of_walk_deletion hbegin same young hdel unconfirmed h

end Young

end Pass

/-! ## Runs -/

/-- A run in which the mark is young in every pass, and no pass is told anything
of the action, sends nothing. -/
theorem idle_of_awaits {s₀ s : Status} {turns : List Turn}
    {pending : PendingAction} {action : CorrectiveAction}
    (hrun : Reaches s₀ turns s) (hbegin : Pass.Awaits pending s₀)
    (same : pending.signature = action.signature)
    (hyoung : ∀ turn ∈ turns,
      Instant.age pending.since turn.pass.now < turn.pass.settings.maxWait)
    (unconfirmed : ∀ turn ∈ turns, turn.pass.Unconfirmed action turn.trace) :
    ∀ turn ∈ turns, turn.pass.actionsSent turn.trace = [] := by
  have hpass : ∀ turn ∈ turns, Pass.Awaits pending turn.pass.resource.status →
      turn.pass.actionsSent turn.trace = [] ∧ ∀ s, .saved s ∈ turn.trace →
        Pass.Awaits pending s :=
    fun turn hturn hawaits =>
      Pass.awaits_of_walk hawaits same (hyoung turn hturn)
        (unconfirmed turn hturn) turn.walk
  -- every pass begins with the record, since no pass stores anything without it
  obtain ⟨-, hbegins⟩ := hrun.invariant hbegin fun turn hturn hawaits =>
    (hpass turn hturn hawaits).2
  exact fun turn hturn => (hpass turn hturn (hbegins turn hturn)).1

/-- **Nothing is sent before it is confirmed.** A pass sends an action on an
object, and the remote takes it, or the end of the pass is lost. In the passes
after it nothing confirms the action: the object cannot be read, the reads
disagree, or the action is needed still, where a deletion needs the delete call
as long as it goes on. In none of them has the longest wait passed since the
action was sent, where a clock before that time counts as that time. Then none
of them sends any action. -/
theorem nothing_sent_while_unconfirmed {s : Status} {first : Turn}
    {after : List Turn} {sent rest : List PassEvent} {call : RemoteCall}
    {reply : Reply call.Answer} {action : CorrectiveAction}
    (hrun : Reaches first.pass.resource.status (first :: after) s)
    (htrace : first.trace = sent ++ .remote call reply :: rest)
    (acts : first.pass.sentBy (.remote call reply) = some action)
    (works : action.kind.leadsToIdentity = false)
    (kept : (∃ a, reply = .answered a) ∨ ∀ s, .saved s ∉ rest)
    (hyoung : ∀ turn ∈ after,
      Instant.sinceClamped first.pass.now turn.pass.now
        < turn.pass.settings.maxWait)
    (unconfirmed : ∀ turn ∈ after, turn.pass.Unconfirmed action turn.trace) :
    ∀ turn ∈ after, turn.pass.actionsSent turn.trace = [] := by
  have hstored :
      Pass.Awaits (first.pass.pending action.signature) first.stored :=
    Pass.awaits_of_sent first.walk htrace acts works kept
      first.pass.resource.status
  -- the mark is no older than the call
  have hage : ∀ turn ∈ after, Instant.age first.pass.now.timestamp turn.pass.now
      < turn.pass.settings.maxWait :=
    fun turn hturn =>
      Nat.lt_of_le_of_lt (Instant.age_timestamp_le _ turn.pass.now)
        (hyoung turn hturn)
  exact idle_of_awaits hrun.tail hstored rfl hage unconfirmed

/-- A remote with one small database, on which the next calls of some names
fail. -/
def failingRemote (failures : List (String × RemoteError)) : Simulation :=
  { remote :=
      { objects := .ofList [(smallDatabase.id, smallDatabase)]
        failures :=
          .ofList (failures.map fun failure => (failure.1, [some failure.2])) } }

/-- A pass whose update is accepted. -/
def acceptedUpdate : Turn :=
  .simulated Simulation.answer
    (.ofSized 2 { identity := some "ocid1.adb.1" } ⟨1700000000, 0⟩)
    (failingRemote [])

/-- The pass after it cannot read the database. -/
def unreadUpdate : Turn :=
  .simulated Simulation.answer
    (.ofSized 2 acceptedUpdate.stored ⟨1700000010, 0⟩)
    (failingRemote [("get", .transient "timeout"),
      ("list", .transient "timeout")])

/-- The pass after that one still finds the database as it was before the
update. -/
def unchangedUpdate : Turn :=
  .simulated Simulation.answer (.ofSized 2 unreadUpdate.stored ⟨1700000020, 0⟩)
    (failingRemote [])

/-- An update that is not seen to have happened is not sent again at once. -/
theorem unconfirmed_update_not_repeated :
    unreadUpdate.pass.actionsSent unreadUpdate.trace = []
      ∧ unchangedUpdate.pass.actionsSent unchangedUpdate.trace = [] := by
  obtain ⟨marked, found, stored, haccepted⟩ : ∃ marked found stored,
    acceptedUpdate.trace
      = [.remote (.get "ocid1.adb.1") (.answered smallDatabase), .saved marked]
        ++ .remote (.update "ocid1.adb.1" { cpuCoreCount := some 2 })
          (.answered found) :: [.saved stored] :=
    ⟨_, _, _, rfl⟩
  obtain ⟨counted, hunread⟩ : ∃ counted, unreadUpdate.trace
      = [.remote (.get "ocid1.adb.1") (.failed (.transient "timeout")),
        .remote (.list { displayName := some "sales" })
          (.failed (.transient "timeout")), .saved counted] := ⟨_, rfl⟩
  obtain ⟨rest, hunchanged⟩ : ∃ rest, unchangedUpdate.trace
      = [.remote (.get "ocid1.adb.1") (.answered smallDatabase),
        .remote (.list { displayName := some "sales" })
          (.answered [smallDatabase])] ++ rest := ⟨_, rfl⟩
  have hrun : Reaches acceptedUpdate.pass.resource.status
    (acceptedUpdate :: [unreadUpdate, unchangedUpdate])
      unchangedUpdate.stored := .cons rfl (.cons rfl (.cons rfl .start))
  have hall := nothing_sent_while_unconfirmed hrun haccepted rfl rfl
    (.inl ⟨found, rfl⟩) ?_ ?_
  · exact ⟨hall _ (by simp), hall _ (by simp)⟩
  · intro turn hturn
    simp only [List.mem_cons, List.not_mem_nil, or_false] at hturn
    rcases hturn with rfl | rfl <;> decide
  · intro turn hturn
    simp only [List.mem_cons, List.not_mem_nil, or_false] at hturn
    rcases hturn with rfl | rfl
    · refine .unread hunread rfl rfl fun filter reply hlist => ?_
      rw [hunread] at hlist
      simp only [List.mem_cons, List.not_mem_nil, or_false] at hlist
      rcases hlist with hlist | hlist | hlist <;> cases hlist
      rfl
    · exact .needed rfl hunchanged (.ask _ (.ask _ (.done _))) rfl rfl

/-- A pass that finds the longest wait to be over, and whose update is refused
for now. -/
def lateUpdate : Turn :=
  .simulated Simulation.answer
    (.ofSized 2 acceptedUpdate.stored ⟨1700000900, 0⟩)
    (failingRemote [("update", .conflict "busy")])

/-- A pass after it whose clock has gone back. -/
def earlyUpdate : Turn :=
  .simulated Simulation.answer (.ofSized 2 lateUpdate.stored ⟨1700000020, 0⟩)
    (failingRemote [])

/-- An update that was accepted and not confirmed is sent again long before the
longest wait is over, by a clock that has gone back behind a pass that found it
to be over. -/
theorem update_repeated_after_clock_went_back :
    Reaches { identity := some "ocid1.adb.1" }
        [acceptedUpdate, lateUpdate, earlyUpdate] earlyUpdate.stored
      ∧ (∃ sent rest found,
        acceptedUpdate.trace
          = sent
            ++ .remote (.update "ocid1.adb.1" { cpuCoreCount := some 2 })
              (.answered found) :: rest)
      ∧ (∀ turn ∈ [lateUpdate, earlyUpdate],
        turn.pass.Unconfirmed (.updateAttributes { cpuCoreCount := some 2 })
          turn.trace)
      ∧ Instant.sinceClamped acceptedUpdate.pass.now earlyUpdate.pass.now
        < acceptedUpdate.pass.settings.maxWait
      ∧ earlyUpdate.pass.actionsSent earlyUpdate.trace
        = [.updateAttributes { cpuCoreCount := some 2 }] := by
  obtain ⟨rest, hlate⟩ : ∃ rest, lateUpdate.trace
      = [.remote (.get "ocid1.adb.1") (.answered smallDatabase),
        .remote (.list { displayName := some "sales" })
          (.answered [smallDatabase])] ++ rest := ⟨_, rfl⟩
  obtain ⟨rest', hearly⟩ : ∃ rest, earlyUpdate.trace
      = [.remote (.get "ocid1.adb.1") (.answered smallDatabase)] ++ rest :=
        ⟨_, rfl⟩
  refine ⟨.cons rfl (.cons rfl (.cons rfl .start)), ⟨[_, _], _, _, rfl⟩, ?_,
    by decide, rfl⟩
  intro turn hturn
  simp only [List.mem_cons, List.not_mem_nil, or_false] at hturn
  rcases hturn with rfl | rfl
  · exact .needed rfl hlate (.ask _ (.ask _ (.done _))) rfl rfl
  · exact .needed rfl hearly (.ask _ (.done _)) rfl rfl

end DatabaseOperator
