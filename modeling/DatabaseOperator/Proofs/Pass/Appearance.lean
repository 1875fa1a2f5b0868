import DatabaseOperator.Proofs.Identity
import DatabaseOperator.Proofs.Pass.Confirmation
import DatabaseOperator.Proofs.Pass.Missing

/-!
# Objects that are still to appear

An object that was just made or bound may not be readable at once. A pass that
misses it gives it time if the action that has brought it is marked as under
way, and the mark is young. But the answer to that action takes the mark away,
unless the action has made a database: an action on a pluggable database is
complete with its answer, and a binding is over.

- `ActionKind.bringsObject`: the actions whose marks give their object time to
  appear.
- `Pass.Waits`, `Pass.waits_iff`: a pass gives its object time, by the mark that
  it begins with.
- `Pass.record_of_answered`: the mark that is left by an answer.
- `Pass.Overlooks`, `Pass.record_of_overlooked`: passes in between leave the
  record as it is.
- `appearance_awaited_iff`: after which actions the object is given time.
-/

namespace DatabaseOperator

/-- An action of this kind brings an object: it makes one, or binds one that
exists. -/
def ActionKind.bringsObject : ActionKind → Bool
  | .provision | .bind => true
  | .pdb action => action.isProvisioning
  | .updateAttributes | .changeState _ | .delete => false

theorem ActionKind.leadsToIdentity_of_bringsObject {kind : ActionKind}
    (h : kind.bringsObject = true) : kind.leadsToIdentity = true := by
  cases kind with
  | provision | bind => rfl
  | pdb action =>
    have makes : action.isProvisioning = true := h
    simp [leadsToIdentity, PdbAction.givesIdentity, makes]
  | updateAttributes | changeState | delete => cases h

/-- What brings an object, or maps one, removes none. -/
theorem PdbAction.removedState?_eq_none_of_givesIdentity {action : PdbAction}
    (h : action.givesIdentity = true) : action.removedState? = none := by
  cases action <;> first | rfl | cases h

namespace Pass

variable {p : Pass} {s seen : Status} {id : String} {pending : PendingAction}
    {action : CorrectiveAction} {t before after : List PassEvent}
    {r : Except OperatorError Outcome} {o : Outcome}

/-- A young mark of such an action gives its object time to appear. -/
theorem awaitsAppearance_of_bringsObject
    (brings : action.kind.bringsObject = true)
    (same : pending.signature = action.signature)
    (young : Instant.age pending.since p.now < p.settings.maxWait) :
    p.awaitsAppearance pending = true := by
  have hsignature : (isCreateSignature action.signature
      || isBindSignature action.signature) = true := by
    rw [CorrectiveAction.isCreateSignature_signature]
    cases action with
    | provision => rfl
    | bind id =>
      have hbind : isBindSignature (CorrectiveAction.bind id).signature
        = true := hasStart_append_self "Bind:" id
      simp [hbind]
    | pdb request =>
      have makes : (CorrectiveAction.pdb request).createsObject = true := brings
      simp [makes]
    | updateAttributes | changeState | delete => cases brings
  unfold awaitsAppearance
  rw [same, hsignature]
  simpa using young

/-! ## Waiting -/

/-- The pass gives its object time to appear: it reports so, sends nothing, and
leaves on record what is known of the object, whether something has failed, and
the mark of what is under way. -/
structure Waits (p : Pass) (t : List PassEvent) (o : Outcome) : Prop where
  phase : o.status.phase = .provisioning
  state : o.status.lifecycleState = p.resource.status.lifecycleState
  blame : o.status.condition? ConditionType.failed
    = p.resource.status.condition? ConditionType.failed
  marked : o.status.inFlight.isSome = true
  same : o.status.inFlight = p.resource.status.inFlight
  again : o.requeue = some p.settings.pollInterval
  idle : p.actionsSent t = []

theorem Waits.not_recordsMissing (h : p.Waits t o) :
    ¬ RecordsMissing o.status :=
  not_recordsMissing_of_phase (by rw [h.phase]; nofun)

/-- Unless the mark asks for time, the pass ends without it. -/
theorem Goes.quits_of_missing {rest : List PassEvent}
    (hdel : p.resource.deletionRequested = false)
    (hid : p.resource.status.identity = some id)
    (old : p.initialStatus.inFlight.any p.awaitsAppearance = false)
    (h : p.Goes (p.afterMissing p.initialStatus) rest r) :
    ∃ t₁ t₂ s d, rest = t₁ ++ t₂ ∧ (p.quits s d).Walk t₂ r
      ∧ s.inFlight = none := by
  cases hremoved : removedState? (lastSignature p.initialStatus) with
  | none =>
    obtain ⟨s', d, hstop, recorded⟩ := recordsMissing_afterMissing old hremoved
    rw [hstop] at h
    cases h with
    | ends ending => exact ⟨[], _, s', d, rfl, ending, recorded.unmarked⟩
  | some state =>
    rw [afterMissing_eq_proceed_iff.mpr ⟨old, state, hremoved, rfl⟩] at h
    obtain ⟨t₁, t₂, s', d, hrest, settling, ending⟩ :=
      h.settles_of_removed hdel hid hremoved
    refine ⟨t₁, t₂, s', d, hrest, ending, ?_⟩
    rcases (inherits_of_walk_settle settling).2 with hsame | hnone
    · exact hsame
    · exact hnone

/-- Unless the mark asks for time, none is left when the pass is over. -/
theorem Goes.unmarked_of_missing {rest : List PassEvent}
    (hdel : p.resource.deletionRequested = false)
    (hid : p.resource.status.identity = some id)
    (old : p.initialStatus.inFlight.any p.awaitsAppearance = false)
    (h : p.Goes (p.afterMissing p.initialStatus) rest (.ok o)) :
    o.status.inFlight = none := by
  obtain ⟨_, _, s', d, -, ending, hnone⟩ := h.quits_of_missing hdel hid old
  rw [ended_of_walk_finish ending]
  exact hnone

/-- A pass that misses its object gives it time exactly if it begins with a mark
that asks for it. -/
theorem waits_iff {reply : Reply (List Snapshot)}
    (hdel : p.resource.deletionRequested = false)
    (hid : p.resource.status.identity = some id) (h : p.run.Walk t (.ok o))
    (misses : p.Misses id t reply) :
    p.Waits t o ↔ p.resource.status.inFlight.any p.awaitsAppearance = true := by
  obtain ⟨looked, rest, rfl, quiet, goes⟩ := goes_of_misses hdel hid h misses
  by_cases awaited : p.initialStatus.inFlight.any p.awaitsAppearance = true
  · refine iff_of_true ?_ awaited
    unfold afterMissing at goes
    rw [if_pos awaited] at goes
    cases goes with
    | ends ending =>
      obtain rfl := ended_of_walk_finish ending
      exact {
        phase := rfl
        state := rfl
        blame := Status.condition?_failed_reportProgressing ..
        marked := Option.isSome_of_any awaited
        same := rfl
        again := rfl
        idle := actionsSent_of_idle quiet (ending_of_walk_finish ending) }
  · refine iff_of_false (fun waits => ?_) awaited
    have hmarked := waits.marked
    rw [goes.unmarked_of_missing hdel hid (by simpa using awaited)] at hmarked
    cases hmarked

/-! ## Answers -/

/-- The mark of an action that has brought an object outlives the answer only if
the action has made a database. -/
theorem inFlight_afterSuccess_of_bringsObject
    (brings : action.kind.bringsObject = true) (found : Option Snapshot) :
    (p.afterSuccess s action found).1.inFlight = if action.kind = .provision
      then s.inFlight else none := by
  cases action with
  | provision => cases found <;> rfl
  | bind => cases found <;> rfl
  | pdb request =>
    obtain ⟨kind⟩ := request
    cases kind <;> cases found <;> rfl
  | updateAttributes | changeState | delete => cases brings

/-- No such action removes an object. -/
theorem removalOnRecord?_afterSuccess_of_bringsObject
    (brings : action.kind.bringsObject = true)
    (unremoved : removalOnRecord? s = none) (found : Option Snapshot) :
    removalOnRecord? (p.afterSuccess s action found).1 = none := by
  unfold removalOnRecord?
  rw [lastCompletedAction_afterSuccess]
  cases action with
  | pdb request =>
    have gives : request.action.givesIdentity = true :=
      ActionKind.leadsToIdentity_of_bringsObject brings
    show removedState? request.signature = none
    rw [PdbRequest.removedState?_signature,
      PdbAction.removedState?_eq_none_of_givesIdentity gives]
  | provision | bind | updateAttributes | changeState | delete =>
    exact unremoved

/-- An action that brings an object is sent for want of one. -/
theorem Sends.identity_eq_none (h : p.Sends t s action)
    (brings : action.kind.bringsObject = true) : s.identity = none := by
  obtain ⟨row, hrow, holds⟩ := h.row
  have hknown : s.identity.isSome = !action.kind.leadsToIdentity :=
    Precondition.isSome_identity_of_holds hrow holds
  rw [ActionKind.leadsToIdentity_of_bringsObject brings] at hknown
  simpa using hknown

/-- What an accepted action that has brought an object leaves on record, once
the object is: the mark is there for a database that was made, and for nothing
else, and no removal is on record if none was before. -/
theorem record_of_answered {call : RemoteCall} {answer : call.Answer}
    (h : p.run.Walk t r)
    (ht : t = before ++ .remote call (.answered answer) :: after)
    (acts : p.sentBy (.remote call (.answered answer)) = some action)
    (brings : action.kind.bringsObject = true)
    (known : (storedAfter p.resource.status t).identity = some id) :
    (storedAfter p.resource.status t).inFlight
        = (if action.kind = .provision then some (p.pending action.signature)
          else none)
      ∧ (removalOnRecord? p.resource.status = none →
        removalOnRecord? (storedAfter p.resource.status t) = none) := by
  cases hdel : p.resource.deletionRequested with
  | true =>
    -- what a deletion sends brings no object
    obtain ⟨_, _, _, _, _, _, _, -, he, -⟩ :=
      (teardown_of_walk hdel h).deletes_of_sentBy hdel ht acts
    cases he
    cases acts
    cases brings
  | false =>
    obtain ⟨looked, read, s, chosen, c, call', reply, hbefore, he, sends,
        credentials, target, ending⟩ :=
      (course_of_walk hdel h).sends_of_sentBy ht acts
    cases he
    obtain ⟨sent, hsent, hkind, hsignature⟩ :=
      sentBy_of_sends hdel sends target (.answered answer)
    cases acts.symm.trans hsent
    have hbrings : chosen.kind.bringsObject = true := hkind ▸ brings
    have hsplit : t = (looked ++ read) ++ .saved (p.markDispatched s chosen)
        :: .remote call (.answered answer) :: after := by
      rw [ht, hbefore, List.append_assoc]
      rfl
    -- the pass has stored what follows from the call, or only what it had
    -- stored before it
    rcases storedAfter_sent_cases p.resource.status
        (sends.quiet_readCredentials credentials) ending hsplit with
      ⟨-, hlast⟩ | ⟨-, hlast⟩
    · have hanswer :
          p.answerOf call (.answered answer) = .ok (call.reported answer) :=
        answerOf_eq_ok_iff.mpr ⟨answer, rfl, rfl⟩
      rw [hanswer] at hlast
      have hstored : storedAfter p.resource.status t
          = (p.afterSuccess (p.markDispatched s chosen) chosen
            (call.reported answer)).1 := hlast
      rw [hstored, hkind, hsignature]
      refine ⟨inFlight_afterSuccess_of_bringsObject hbrings _,
        fun unremoved => ?_⟩
      refine removalOnRecord?_afterSuccess_of_bringsObject hbrings ?_ _
      have hmarked : (p.markDispatched s chosen).lastCompletedAction
          = p.resource.status.lastCompletedAction :=
        sends.lastCompletedAction
      rw [removalOnRecord?, hmarked]
      exact unremoved
    · -- the answer was lost to the record, and the object with it
      have hnone : (p.markDispatched s chosen).identity = none :=
        sends.identity_eq_none hbrings
      rw [hlast, hnone] at known
      cases known

/-! ## In between -/

/-- The pass sends nothing, and is not shown the object. -/
structure Overlooks (p : Pass) (id : String) (t : List PassEvent) : Prop where
  idle : p.actionsSent t = []
  unshown : ∀ state, ∀ e ∈ t, ¬ Reports id state e

/-- Such a pass does not come to know of the object. -/
theorem Overlooks.not_learns (h : p.Overlooks id t) : ¬ p.Learns id t := by
  intro learns
  cases learns with
  | @answered call answer found gives mem reported same =>
    have hsent :
        ∃ action, p.sentBy (.remote call (.answered answer)) = some action := by
      cases call <;> first | exact ⟨_, rfl⟩ | cases gives
    obtain ⟨action, hsent⟩ := hsent
    exact sentBy_of_mem mem hsent h.idle
  | bound _ mem => exact h.unshown _ _ mem (.read rfl)
  | adopted adopts =>
    obtain ⟨-, -, -, reply, found, rest, rfl, sole, rfl⟩ := adopts
    exact h.unshown _ _ (List.mem_cons_self ..)
      (reports_of_mem_items p.resource.listFilter (mem_of_soleLive sole))

/-- What a pass over a resource that stays has stored, and that has sent
nothing, it came to rest with. -/
theorem rests_of_idle (hdel : p.resource.deletionRequested = false)
    (idle : p.actionsSent t = []) (h : p.run.Walk t r) (hs : .saved s ∈ t) :
    ∃ t₁ t₂ d, t = t₁ ++ t₂ ∧ p.Rests t₁ s d := by
  cases (course_of_walk hdel h).conclusion with
  | rested rests ending =>
    obtain rfl := eq_of_saved_mem_quits rests.quiet ending hs
    exact ⟨_, _, _, rfl, rests⟩
  | unmarked sends credentials =>
    have quiet := sends.quiet_readCredentials credentials
    exact absurd hs
      (saved_not_mem_append_refused (saveStatus_not_mem_of_quiet quiet))
  | @sent _ _ _ _ _ _ _ reply _ sends _ target =>
    obtain ⟨sent, hsent, -⟩ := sentBy_of_sends hdel sends target reply
    exact absurd idle (sentBy_of_mem (by simp) hsent)

/-- A pass that rests keeps the object on record, and marks nothing. -/
theorem Rests.inherits {d : Duration}
    (hid : p.resource.status.identity = some id) (h : p.Rests t s d) :
    s.Inherits p.resource.status := by
  cases h with
  | stopped observed => exact inherits_of_walk_observeRemote hid observed
  | @held _ seen _ _ observed held =>
    have hkept := inherits_trackInFlight p seen (p.resource.nextAction? seen)
    rw [held] at hkept
    exact hkept.trans (inherits_of_walk_observeRemote hid observed)
  | settled chosen settling =>
    obtain ⟨seen, observed, -, hkept⟩ := chosen.inherits
    exact (inherits_of_walk_settle settling).trans
      (hkept.trans (inherits_of_walk_observeRemote hid observed))
  | refrained needed _ kept =>
    obtain ⟨seen, observed, -, hkept⟩ := needed.inherits
    exact kept.trans (hkept.trans (inherits_of_walk_observeRemote hid observed))

/-- A deletion that sends nothing keeps the mark on record. -/
theorem inFlight_of_idle_deletion (leaves : p.resource.deletionRequested = true)
    (hid : p.resource.status.identity = some id) (idle : p.actionsSent t = [])
    (h : p.run.Walk t r) (hs : .saved s ∈ t) :
    s.inFlight = p.resource.status.inFlight := by
  have hunsent : ∀ {t₁ t₂ : List PassEvent} {marked : Status}
      {reply : Reply Unit},
      t ≠ t₁ ++ .saved marked :: .remote (.delete id) reply :: t₂ := by
    rintro t₁ t₂ marked reply rfl
    have hsent :
        p.sentBy (.remote (.delete id) reply) = some (.delete true) := rfl
    exact sentBy_of_mem (by simp) hsent idle
  -- only a hard link gets as far as the object, and without a delete call the
  -- object was merely looked for
  cases hlink : p.resource.hardLink with
  | false =>
    cases teardown_of_walk leaves h with
    | detached _ ending => exact absurd hs (saved_not_mem_release ending)
    | awaited hard | objectless hard | known hard =>
      rw [hlink] at hard
      cases hard
  | true =>
    cases objectTeardown_of_recorded leaves hlink hid h with
    | @unread _ _ _ e _ _ located failed ending =>
      obtain rfl :=
        eq_of_saved_mem_append_finish (saved_not_mem_locate located) ending hs
      show _ = p.deletingStatus.inFlight
      have hread : (p.afterReadError p.deletingStatus e).status.inFlight
          = p.deletingStatus.inFlight := by
        unfold afterReadError
        cases e.errorClass <;> rfl
      rw [failed] at hread
      exact hread
    | gone located _ ending =>
      exact absurd hs
        (saved_not_mem_append_release (saved_not_mem_locate located) ending)
    | given located _ ending =>
      obtain rfl :=
        eq_of_saved_mem_append_finish (saved_not_mem_locate located) ending hs
      have hlocated := inFlight_of_walk_locate located
      exact hlocated
    | unmarked located =>
      exact absurd hs
        (saved_not_mem_append_refused (saved_not_mem_locate located))
    | deleted | vanished | kept => exact absurd rfl hunsent

/-- An object that is awaited and cannot be read ends the pass, which keeps the
mark. -/
theorem stop_of_mergeReads_unread {e : RemoteError}
    (awaited : s.inFlight.any p.awaitsAppearance = true) :
    ∃ s' d, p.mergeReads s (.error e) none = .stop s' d
      ∧ s'.inFlight = s.inFlight := by
  cases absent : e.isNotFound with
  | true =>
    have hmerge : p.mergeReads s (.error e) none = p.afterMissing s := by
      simp [mergeReads, absent]
    rw [hmerge, afterMissing, if_pos awaited]
    exact ⟨_, _, rfl, rfl⟩
  | false =>
    have hmerge : p.mergeReads s (.error e) none = p.afterReadError s e := by
      simp [mergeReads, absent]
    rw [hmerge]
    unfold afterReadError
    cases e.errorClass <;> exact ⟨_, _, rfl, rfl⟩

/-- A pass that overlooks an object on record leaves it on record, and so the
mark, if that gives the object time to appear or if there is none. -/
theorem record_of_overlooked {mark : Option PendingAction}
    (hid : p.resource.status.identity = some id)
    (hmark : p.resource.status.inFlight = mark)
    (young : ∀ pending, mark = some pending → p.awaitsAppearance pending = true)
    (overlooks : p.Overlooks id t) (h : p.run.Walk t r) (hs : .saved s ∈ t) :
    s.identity = some id ∧ s.inFlight = mark := by
  refine ⟨identity_of_saved hid h hs, ?_⟩
  -- a deletion keeps any mark; over a resource that stays it depends on what
  -- the mark is
  cases hdel : p.resource.deletionRequested with
  | true =>
    exact (inFlight_of_idle_deletion hdel hid overlooks.idle h hs).trans hmark
  | false =>
    cases mark with
    | none =>
      obtain ⟨t₁, t₂, d, rfl, rests⟩ := rests_of_idle hdel overlooks.idle h hs
      rcases (rests.inherits hid).2 with hsame | hnone
      · exact hsame.trans hmark
      · exact hnone
    | some pending =>
      obtain ⟨t₁, rest, step, rfl, observed, goes⟩ :=
        (course_of_walk hdel h).observes
      obtain ⟨direct, listed, reads, rfl⟩ :=
        reads_of_walk_observeRemote hid observed rest
      -- neither read has shown the object, so that the pass ends with what it
      -- has on record
      have hunlisted : listed = none := by
        cases listed with
        | none => rfl
        | some found =>
          obtain ⟨e, he, hreport⟩ := reads.reports_of_listed
          exact absurd hreport (overlooks.unshown _ _ he)
      have hunread : ∃ e, p.outcomeOf direct = .error e := by
        cases hdirect : p.outcomeOf direct with
        | error e => exact ⟨e, rfl⟩
        | ok found =>
          obtain rfl := outcomeOf_eq_ok_iff.mp hdirect
          obtain ⟨e, he, hreport⟩ := reads.reports
          exact absurd hreport (overlooks.unshown _ _ he)
      obtain ⟨e, hunread⟩ := hunread
      obtain ⟨s', d, hstop, hkept⟩ : ∃ s' d,
        p.mergeReads p.initialStatus (p.outcomeOf direct) listed = .stop s' d
          ∧ s'.inFlight = p.resource.status.inFlight := by
        rw [hunread, hunlisted]
        refine stop_of_mergeReads_unread ?_
        rw [show p.initialStatus.inFlight = some pending from hmark]
        exact young pending rfl
      rw [hstop] at goes observed
      cases goes with
      | ends ending =>
        obtain rfl :=
          eq_of_saved_mem_quits (quiet_of_walk_observeRemote observed) ending hs
        exact hkept.trans hmark

/-- A pass that sends nothing puts no removal on record. -/
theorem unremoved_of_idle
    (unremoved : removalOnRecord? p.resource.status = none)
    (idle : p.actionsSent t = []) (h : p.run.Walk t r) (hs : .saved s ∈ t) :
    removalOnRecord? s = none := by
  cases hdel : p.resource.deletionRequested with
  | true =>
    rw [removalOnRecord?, lastCompletedAction_of_saved_deletion hdel h hs]
    exact unremoved
  | false =>
    obtain ⟨t₁, t₂, d, rfl, rests⟩ := rests_of_idle hdel idle h hs
    rcases rests.completed_cases t₂ with hsame | ⟨request, -, hnew, gives, -⟩
    · rw [removalOnRecord?, hsame]
      exact unremoved
    · rw [removalOnRecord?, hnew, Option.bind_some,
        PdbRequest.removedState?_signature]
      exact PdbAction.removedState?_eq_none_of_givesIdentity gives

/-- Without a mark and a removal on record nothing explains why an object is not
there. -/
theorem unexplained_of_unmarked (unmarked : s.inFlight = none)
    (unremoved : removalOnRecord? s = none) : p.Unexplained s := by
  refine ⟨by rw [unmarked]; rfl, .inl ?_⟩
  unfold lastSignature
  rw [unmarked]
  cases hlast : s.lastCompletedAction with
  | none => rfl
  | some signature =>
    rw [removalOnRecord?, hlast] at unremoved
    exact unremoved

end Pass

/-! ## Runs -/

section Overlooked

variable {s₀ s : Status} {turns : List Turn} {id : String}
    (hrun : Reaches s₀ turns s)
    (overlooked : ∀ turn ∈ turns, turn.pass.Overlooks id turn.trace)

include hrun overlooked

/-- If passes overlook an object that is on record after them, it was on record
before them. -/
theorem identity_of_overlooked (hid : s.identity = some id) :
    s₀.identity = some id := by
  cases hbegin : s₀.identity with
  | none =>
    obtain ⟨before, turn, after, rfl, -, -, learns⟩ :=
      learns_of_history hrun hbegin hid
    exact absurd learns (overlooked turn (by simp)).not_learns
  | some known => exact (identity_of_history hrun hbegin).1.symm.trans hid

/-- They leave the mark, if that gives the object time to appear or if there is
none. -/
theorem inFlight_of_overlooked {mark : Option PendingAction}
    (hid : s₀.identity = some id) (hmark : s₀.inFlight = mark)
    (young : ∀ turn ∈ turns, ∀ pending, mark = some pending →
      turn.pass.awaitsAppearance pending = true) : s.inFlight = mark := by
  refine (hrun.invariant (P := fun s => s.identity = some id
    ∧ s.inFlight = mark) ⟨hid, hmark⟩ ?_).1.2
  intro turn hturn hbegin s' hs
  exact Pass.record_of_overlooked hbegin.1 hbegin.2 (young turn hturn)
    (overlooked turn hturn) turn.walk hs

/-- They put no removal on record. -/
theorem unremoved_of_overlooked (unremoved : Pass.removalOnRecord? s₀ = none) :
    Pass.removalOnRecord? s = none := by
  refine (hrun.invariant (P := fun s => Pass.removalOnRecord? s = none)
    unremoved ?_).1
  intro turn hturn hbegin s' hs
  exact Pass.unremoved_of_idle hbegin (overlooked turn hturn).idle turn.walk hs

end Overlooked

/-- **Which objects are given time to appear.** A pass sends an action that
makes an object, or binds one, and the remote takes it. The last pass of the
run, over a resource that stays, has the object on record, but finds it neither
directly nor in the list. The passes in between send nothing and are not shown
the object, and in none of all these has the longest wait passed since the
action was sent, where a clock before that time counts as that time. The last
pass

1. gives the object time to appear exactly if the action has made a database;
   and
2. records the object as missing exactly if the action was another one, unless a
   removal was on record before. -/
theorem appearance_awaited_iff {s : Status} {first last : Turn}
    {between : List Turn} {before rest : List PassEvent} {call : RemoteCall}
    {answer : call.Answer} {action : CorrectiveAction} {id : String}
    {reply : Reply (List Snapshot)} {o : Pass.Outcome}
    (hrun : Reaches first.pass.resource.status (first :: (between ++ [last])) s)
    (htrace : first.trace = before ++ .remote call (.answered answer) :: rest)
    (acts : first.pass.sentBy (.remote call (.answered answer)) = some action)
    (brings : action.kind.bringsObject = true)
    (hyoung : ∀ turn ∈ between ++ [last],
      Instant.sinceClamped first.pass.now turn.pass.now
        < turn.pass.settings.maxWait)
    (overlooked : ∀ turn ∈ between, turn.pass.Overlooks id turn.trace)
    (stays : last.pass.resource.deletionRequested = false)
    (hid : last.pass.resource.status.identity = some id)
    (misses : last.pass.Misses id last.trace reply)
    (hlast : last.result = .ok o) :
    (last.pass.Waits last.trace o ↔ action.kind = .provision)
      ∧ (Pass.removalOnRecord? first.pass.resource.status = none →
        (Pass.RecordsMissing o.status ↔ action.kind ≠ .provision)) := by
  obtain ⟨s₁, hbetween, hend⟩ := hrun.tail.split
  obtain rfl := hend.head
  have hfirst : first.stored.identity = some id :=
    identity_of_overlooked hbetween overlooked hid
  obtain ⟨hmark, hunremoved⟩ :=
    Pass.record_of_answered first.walk htrace acts brings hfirst
  -- the mark is no older than the call
  have hawaited : ∀ turn ∈ between ++ [last],
      turn.pass.awaitsAppearance (first.pass.pending action.signature)
        = true := by
    intro turn hturn
    refine Pass.awaitsAppearance_of_bringsObject brings rfl ?_
    exact Nat.lt_of_le_of_lt (Instant.age_timestamp_le _ turn.pass.now)
      (hyoung turn hturn)
  have hinFlight :=
      inFlight_of_overlooked hbetween overlooked hfirst hmark
        fun turn hturn pending hpending => by
    split at hpending
    next =>
      cases hpending
      exact hawaited turn (List.mem_append_left _ hturn)
    next => cases hpending
  have hwalk := last.walk
  rw [hlast] at hwalk
  have hwaits := Pass.waits_iff stays hid hwalk misses
  by_cases made : action.kind = .provision
  · rw [if_pos made] at hinFlight
    have waits : last.pass.Waits last.trace o := by
      rw [hwaits, hinFlight]
      exact hawaited last (by simp)
    exact ⟨iff_of_true waits made, fun _ =>
      iff_of_false waits.not_recordsMissing (not_not_intro made)⟩
  · rw [if_neg made] at hinFlight
    refine ⟨iff_of_false (fun waits => ?_) made, fun unremoved =>
      iff_of_true ?_ made⟩
    · rw [hwaits, hinFlight] at waits
      cases waits
    · refine (Pass.recordsMissing_iff_unexplained stays hid hwalk misses).mpr ?_
      exact Pass.unexplained_of_unmarked hinFlight
        (unremoved_of_overlooked hbetween overlooked (hunremoved unremoved))

/-- The pass after a database was made cannot read it. -/
def unreadCreation : Turn :=
  .simulated Simulation.answer
    (.ofDatabase (some "sales") answeredCreate.stored false ⟨1700000010, 0⟩)
    (failingRemote [("get", .transient "timeout"),
      ("list", .transient "timeout")])

/-- The pass after that one finds nothing. -/
def missedCreation : Turn :=
  .simulated Simulation.answer
    (.ofDatabase (some "sales") unreadCreation.stored false ⟨1700000020, 0⟩) {}

/-- A database that was made is given time to appear. -/
theorem missed_creation_waited_for :
    ∃ o, missedCreation.result = .ok o
      ∧ missedCreation.pass.Waits missedCreation.trace o
      ∧ ¬ Pass.RecordsMissing o.status := by
  obtain ⟨marked, request, found, stored, hcreate⟩ :
    ∃ marked request found stored, answeredCreate.trace
      = [.saved marked]
        ++ .remote (.create request) (.answered found) :: [.saved stored] :=
          ⟨_, _, _, _, rfl⟩
  obtain ⟨counted, hunread⟩ : ∃ counted, unreadCreation.trace
      = [.remote (.get "ocid1.adb.1") (.failed (.transient "timeout")),
        .remote (.list { displayName := some "sales" })
          (.failed (.transient "timeout")), .saved counted] := ⟨_, rfl⟩
  obtain ⟨after, hmissed⟩ : ∃ after, missedCreation.trace
      = [.remote (.get "ocid1.adb.1") (.failed (.notFound "ocid1.adb.1")),
        .remote (.list { displayName := some "sales" }) (.answered []),
        .saved after] := ⟨_, rfl⟩
  obtain ⟨o, ho⟩ : ∃ o, missedCreation.result = .ok o := ⟨_, rfl⟩
  have hrun : Reaches answeredCreate.pass.resource.status
    (answeredCreate :: ([unreadCreation] ++ [missedCreation]))
      missedCreation.stored := .cons rfl (.cons rfl (.cons rfl .start))
  have hmisses : missedCreation.pass.Misses "ocid1.adb.1" missedCreation.trace
      (.answered []) := by
    rw [hmissed]
    exact ⟨_, _, rfl, rfl, rfl⟩
  have happearance :=
    appearance_awaited_iff hrun hcreate rfl rfl ?_ ?_ rfl rfl hmisses ho
  · have waits := happearance.1.mpr rfl
    exact ⟨o, ho, waits, waits.not_recordsMissing⟩
  · intro turn hturn
    simp only [List.mem_append, List.mem_cons, List.not_mem_nil, or_false]
      at hturn
    rcases hturn with rfl | rfl <;> decide
  · intro turn hturn
    obtain rfl := List.mem_singleton.mp hturn
    refine ⟨by rw [hunread]; rfl, fun state e he => ?_⟩
    rw [hunread] at he
    simp only [List.mem_cons, List.not_mem_nil, or_false] at he
    rcases he with rfl | rfl | rfl <;> nofun

/-- The pass that makes a pluggable database. -/
def pdbCreation : Turn :=
  .simulated Simulation.answer (.ofPdb .create {} ⟨1700000000, 0⟩) {}

/-- The pass after it finds nothing. -/
def missedPdb : Turn :=
  .simulated Simulation.answer
    (.ofPdb .create pdbCreation.stored ⟨1700000010, 0⟩) {}

/-- A pluggable database that was made is not given any time. -/
theorem missed_pdb_recorded_missing :
    Reaches {} [pdbCreation, missedPdb] missedPdb.stored
      ∧ (∃ before rest request found,
        pdbCreation.trace
          = before ++ .remote (.createPdb request) (.answered found) :: rest)
      ∧ Instant.sinceClamped pdbCreation.pass.now missedPdb.pass.now
        < missedPdb.pass.settings.maxWait
      ∧ missedPdb.pass.Misses "pdb1" missedPdb.trace (.answered [])
      ∧ Pass.RecordsMissing missedPdb.stored := by
  obtain ⟨marked, request, found, stored, hcreate⟩ :
    ∃ marked request found stored, pdbCreation.trace
      = [.saved marked]
        ++ .remote (.createPdb request) (.answered found) :: [.saved stored] :=
          ⟨_, _, _, _, rfl⟩
  obtain ⟨after, hmissed⟩ : ∃ after, missedPdb.trace
      = [.remote (.get "pdb1") (.failed (.notFound "pdb1")),
        .remote (.list { displayName := some "pdb1" }) (.answered []),
        .saved after] := ⟨_, rfl⟩
  refine ⟨.cons rfl (.cons rfl .start), ⟨_, _, _, _, hcreate⟩, by decide, ?_,
    Pass.reportsMissing_reportFailed .., rfl, rfl⟩
  rw [hmissed]
  exact ⟨_, _, rfl, rfl, rfl⟩

end DatabaseOperator
