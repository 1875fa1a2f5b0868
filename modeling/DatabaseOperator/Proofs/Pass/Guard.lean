import DatabaseOperator.Proofs.Deletion.Evidence
import DatabaseOperator.Proofs.Pass.Sent
import DatabaseOperator.Proofs.Provenance

/-!
# What an action is sent on

The table of preconditions is checked against the status, and the status may be
old. What makes the check one of the remote object is that a pass never gets as
far as the table with an identity on record unless it has just been told the
state of that object. A deletion does not go through the table, but asks the
same of what it was told.

- `Precondition.rule_eq_absent_iff`, `Precondition.exists_row`: the table has a
  row for every action that comes next.
- `Pass.Reports`, `Pass.Shown`: an answer of the remote tells the state of the
  object on record.
- `Pass.Chooses.shown`, `Pass.shown_of_deletion`: whoever comes to act on an
  object has been told its state.
- `Pass.sent_action_satisfies_row`: every action that is sent satisfies its row
  on what the pass was told.
-/

namespace DatabaseOperator

/-- An action of this kind leads to an identity: it makes, finds or binds an
object. -/
def ActionKind.leadsToIdentity : ActionKind → Bool
  | .provision | .bind => true
  | .pdb action => action.givesIdentity
  | .updateAttributes | .changeState _ | .delete => false

namespace Precondition

variable {kind : ActionKind} {row : Precondition}

/-- The actions that ask for a resource without an object are those that lead to
one. -/
theorem rule_eq_absent_iff (h : find? kind = some row) :
    row.rule = .absent ↔ kind.leadsToIdentity = true := by
  obtain ⟨hmem, rfl⟩ := mem_table_of_find? h
  have htable : ∀ row ∈ table, row.rule = .absent
    ↔ row.action.leadsToIdentity = true := by decide
  exact htable row hmem

/-- The table has a row for every action, of the changes of state for those that
a spec may ask for. -/
theorem exists_row
    (h : ∀ target, kind = .changeState target → target.isLegalTarget = true) :
    ∃ row, find? kind = some row := by
  cases kind with
  | provision | bind | updateAttributes | delete => exact ⟨_, rfl⟩
  | changeState target =>
    rcases LifecycleState.isLegalTarget_iff.mp (h target rfl) with rfl | rfl
    · exact ⟨_, rfl⟩
    · exact ⟨_, rfl⟩
  | pdb action => cases action <;> exact ⟨_, rfl⟩

/-- What leads to an identity is sent for want of one, and everything else on an
object that is known. -/
theorem isSome_identity_of_holds {identity : Option String}
    {observed : Option LifecycleState} (h : find? kind = some row)
    (holds : row.rule.holds identity observed = true) :
    identity.isSome = !kind.leadsToIdentity := by
  have habsent := rule_eq_absent_iff h
  cases hleads : kind.leadsToIdentity with
  | true =>
    rw [habsent.mpr hleads] at holds
    cases identity with
    | none => rfl
    | some id => cases holds
  | false =>
    rw [hleads] at habsent
    cases identity with
    | some id => rfl
    | none =>
      -- without an identity no other rule holds
      cases hrule : row.rule with
      | absent => cases habsent.mp hrule
      | anyOf states =>
        rw [hrule] at holds
        cases holds
      | anyExcept states =>
        rw [hrule] at holds
        cases holds

end Precondition

namespace Pass

variable {p : Pass} {s s' seen : Status} {id : String} {t t₁ : List PassEvent}
    {r : Except OperatorError Outcome}

/-! ## Being told -/

/-- An answer of the remote reports an object in a state. -/
inductive Reports (id : String) (state : LifecycleState) : PassEvent →
    Prop where
  | read {found : Snapshot} (reported : found.state = state) :
      Reports id state (.remote (.get id) (.answered found))
  | listed {filter : ListFilter} {items : List Snapshot} {found : Snapshot}
      (mem : found ∈ items) (same : found.id = id)
      (reported : found.state = state) :
      Reports id state (.remote (.list filter) (.answered items))

/-- The object on record was reported in the state on record. -/
def Shown (s : Status) (t : List PassEvent) : Prop :=
  ∃ id state, s.identity = some id ∧ s.lifecycleState = some state
    ∧ ∃ e ∈ t, Reports id state e

theorem Shown.of_eq (h : Shown s t) (hid : s'.identity = s.identity)
    (hstate : s'.lifecycleState = s.lifecycleState) : Shown s' t := by
  obtain ⟨id, state, hknown, hseen, hreport⟩ := h
  exact ⟨id, state, hid.trans hknown, hstate.trans hseen, hreport⟩

theorem Shown.mono (h : Shown s t₁) (hsub : ∀ e ∈ t₁, e ∈ t) : Shown s t := by
  obtain ⟨id, state, hknown, hseen, e, he, hreport⟩ := h
  exact ⟨id, state, hknown, hseen, e, hsub e he, hreport⟩

/-- A list that shows an object was answered. -/
theorem reports_of_mem_items (filter : ListFilter)
    {reply : Reply (List Snapshot)} {found : Snapshot}
    (h : found ∈ reply.items) :
    Reports found.id found.state (.remote (.list filter) reply) := by
  cases reply with
  | answered items => exact .listed h rfl rfl
  | failed e => cases h
  | hung => cases h

theorem mem_of_listedAs {items : List Snapshot} {found : Snapshot}
    (h : listedAs id items = some found) : found ∈ items ∧ found.id = id :=
  ⟨List.mem_of_find?_eq_some h, by simpa using List.find?_some h⟩

theorem mem_filter_of_soleLive {items : List Snapshot} {found : Snapshot}
    (h : soleLive items = some found) :
    found ∈ items.filter fun item => !item.state.isTornDown := by
  unfold soleLive at h
  split at h
  next sole hsole =>
    cases h
    rw [hsole]
    exact List.mem_singleton_self _
  next => cases h

theorem mem_of_soleLive {items : List Snapshot} {found : Snapshot}
    (h : soleLive items = some found) : found ∈ items :=
  (List.mem_filter.mp (mem_filter_of_soleLive h)).1

theorem live_of_soleLive {items : List Snapshot} {found : Snapshot}
    (h : soleLive items = some found) : found.state.isTornDown = false := by
  simpa using (List.mem_filter.mp (mem_filter_of_soleLive h)).2

theorem afterMismatch_eq_stop (p : Pass) (s : Status)
    (direct : Option LifecycleState) (listed : Snapshot) :
    ∃ s' d, p.afterMismatch s direct listed = .stop s' d := by
  unfold afterMismatch
  simp only
  split <;> exact ⟨_, _, rfl⟩

/-- A pass goes on after an object was not found only if the operator has
removed it itself. -/
theorem isTerminal_of_afterMissing (h : p.afterMissing s = .proceed seen) :
    seen.lifecycleState.any LifecycleState.isTerminal = true := by
  unfold afterMissing at h
  split at h
  next => cases h
  next =>
    split at h
    next =>
      cases h
      rfl
    next =>
      split at h
      next =>
        cases h
        rfl
      next => cases h

/-- A pass goes on with a state that one of its reads has reported, or with that
of an object which no read has found and which is known to have been removed. -/
theorem mergeReads_eq_proceed_cases {direct : Except RemoteError Snapshot}
    {listed : Option Snapshot}
    (h : p.mergeReads s direct listed = .proceed seen) :
    (∃ found, direct = .ok found ∧ seen.lifecycleState = some found.state)
      ∨ (∃ found, listed = some found ∧ seen.lifecycleState = some found.state)
      ∨ ∃ e, direct = .error e ∧ e.isNotFound = true ∧ listed = none
        ∧ p.afterMissing s = .proceed seen := by
  unfold mergeReads at h
  split at h
  next found other =>
    split at h
    next same =>
      cases h
      refine .inl ⟨found, rfl, ?_⟩
      -- the fresher of two reads that agree on the state
      show some (fresher found (some other)).state = some found.state
      unfold fresher
      simp only
      split
      · rfl
      · rw [same]
    next =>
      obtain ⟨_, _, hstop⟩ := afterMismatch_eq_stop p s (some found.state) other
      rw [hstop] at h
      cases h
  next found =>
    cases h
    exact .inl ⟨found, rfl, rfl⟩
  next e other =>
    split at h
    next =>
      obtain ⟨_, _, hstop⟩ := afterMismatch_eq_stop p s none other
      rw [hstop] at h
      cases h
    next =>
      cases h
      exact .inr (.inl ⟨other, rfl, rfl⟩)
  next e =>
    split at h
    next absent => exact .inr (.inr ⟨e, rfl, absent, rfl, h⟩)
    next =>
      obtain ⟨_, _, hstop⟩ := afterReadError_eq_stop p s e
      rw [hstop] at h
      cases h

theorem state_of_mergeReads {direct : Except RemoteError Snapshot}
    {listed : Option Snapshot}
    (h : p.mergeReads s direct listed = .proceed seen) :
    (∃ found, direct = .ok found ∧ seen.lifecycleState = some found.state)
      ∨ (∃ found, listed = some found ∧ seen.lifecycleState = some found.state)
      ∨ seen.lifecycleState.any LifecycleState.isTerminal = true := by
  rcases mergeReads_eq_proceed_cases h with hdirect | hlisted
    | ⟨_, -, -, -, hmissing⟩
  · exact .inl hdirect
  · exact .inr (.inl hlisted)
  · exact .inr (.inr (isTerminal_of_afterMissing hmissing))

/-- The reads of an object on record report the state that the pass goes on
with. -/
theorem shown_of_walk_refresh (hid : s.identity = some id)
    (h : (p.refresh s id).Walk t (.proceed seen)) :
    Shown seen t
      ∨ seen.lifecycleState.any LifecycleState.isTerminal = true := by
  have hknown :
      seen.identity = some id := (inherits_of_walk_refresh hid h).1.trans hid
  obtain ⟨direct, ⟨-, rfl, hmerge⟩ | ⟨-, reply, rfl, hmerge⟩⟩ :=
    walk_refresh_iff.mp h
  · rcases state_of_mergeReads hmerge.symm with ⟨found, hok, hstate⟩
      | ⟨found, hnone, -⟩ | hend
    · obtain rfl := outcomeOf_eq_ok_iff.mp hok
      exact .inl ⟨id, found.state, hknown, hstate, _, List.mem_singleton_self _,
        .read rfl⟩
    · cases hnone
    · exact .inr hend
  · rcases state_of_mergeReads hmerge.symm with ⟨found, hok, hstate⟩
      | ⟨found, hlisted, hstate⟩ | hend
    · obtain rfl := outcomeOf_eq_ok_iff.mp hok
      exact .inl ⟨id, found.state, hknown, hstate, _, List.mem_cons_self ..,
        .read rfl⟩
    · obtain ⟨hmem, rfl⟩ := mem_of_listedAs hlisted
      have hreport := reports_of_mem_items p.resource.listFilter hmem
      exact .inl ⟨_, found.state, hknown, hstate, _, by simp, hreport⟩
    · exact .inr hend

/-- The search for a lost create knows an object only from the list that it has
read. -/
theorem Recovery.shown (hnone : s.identity = none)
    (h : p.Recovery s t (.proceed seen)) (hsome : seen.identity.isSome = true) :
    Shown seen t := by
  rcases h.inherits_or_adopts with hkept
    | ⟨_, reply, found, -, -, -, rfl, sole, hstep⟩
  · rw [show seen.identity = none from hkept.1.trans hnone] at hsome
    cases hsome
  · cases hstep
    have hadopted := identity_observe_of_none hnone found
    exact ⟨found.id, found.state, hadopted, rfl, _, List.mem_singleton_self _,
      reports_of_mem_items p.resource.listFilter (mem_of_soleLive sole)⟩

theorem shown_of_walk_observeRemote
    (h : (p.observeRemote p.initialStatus).Walk t (.proceed seen))
    (hsome : seen.identity.isSome = true) :
    Shown seen t
      ∨ seen.lifecycleState.any LifecycleState.isTerminal = true := by
  cases hid : p.initialStatus.identity with
  | none =>
    exact .inl (((walk_observeRemote_of_none hid).mp h).shown hid hsome)
  | some id =>
    exact shown_of_walk_refresh hid ((walk_observeRemote_of_some hid).mp h)

/-! ## Coming to act -/

theorem lifecycleState_of_trackInFlight {action : Option CorrectiveAction}
    (h : p.trackInFlight s action = .proceed s') :
    s'.lifecycleState = s.lifecycleState := by
  unfold trackInFlight at h
  split at h
  next =>
    cases h
    rfl
  next =>
    split at h
    next =>
      simp only at h
      split at h
      next => cases h
      next =>
        cases h
        rfl
    next =>
      split at h
      next =>
        cases h
        rfl
      next =>
        cases h
        rfl

theorem lifecycleState_forgetFailed (p : Pass) (s : Status) :
    (p.forgetFailed s).lifecycleState = s.lifecycleState := by
  show (p.forgetFailed s).facts.lifecycleState = s.lifecycleState
  rw [facts_forgetFailed]
  rfl

/-- A pass that has an action to do on an object has been told the state of the
object. -/
theorem Chooses.shown {action : CorrectiveAction}
    (hdel : p.resource.deletionRequested = false)
    (h : p.Chooses t s (some action)) (hsome : s.identity.isSome = true) :
    Shown s t := by
  obtain ⟨seen, observed, needed, free⟩ := h
  have hkept := inherits_trackInFlight p seen (some action)
  rw [free] at hkept
  have hseen : seen.identity.isSome = true := by
    rw [← show s.identity = seen.identity from hkept.1, hsome]
  rcases shown_of_walk_observeRemote observed hseen with hshown | hend
  · exact hshown.of_eq hkept.1 (lifecycleState_of_trackInFlight free)
  · -- an object that has come to an end is left alone
    rw [ManagedResource.nextAction?_of_terminal hdel hseen hend] at needed
    cases needed

/-- Every action that is chosen has its row in the table. -/
theorem Chooses.check_ne_noRule {action : CorrectiveAction}
    (hdel : p.resource.deletionRequested = false)
    (h : p.Chooses t s (some action)) (s' : Status) :
    check s' action ≠ .noRule := by
  obtain ⟨seen, -, needed, -⟩ := h
  have hlegal : ∀ target, action.kind = .changeState target →
      target.isLegalTarget = true := by
    intro target hkind
    cases action with
    | changeState =>
      cases hkind
      exact ManagedResource.isLegalTarget_of_nextAction? hdel needed
    | _ => cases hkind
  obtain ⟨row, hrow⟩ := Precondition.exists_row hlegal
  unfold check Precondition.check
  rw [hrow]
  simp only
  split <;> nofun

/-- A row that is met when an action is sent is met by the status that is
marked. -/
theorem Sends.row {action : CorrectiveAction} (h : p.Sends t s action) :
    ∃ row, Precondition.find? action.kind = some row
      ∧ row.rule.holds (p.markDispatched s action).identity
        (p.markDispatched s action).lifecycleState = true := by
  obtain ⟨chosen, -, -, met, rfl⟩ := h
  exact Precondition.check_eq_met_iff.mp met

theorem Sends.shown {action : CorrectiveAction}
    (hdel : p.resource.deletionRequested = false) (h : p.Sends t s action)
    (hsome : s.identity.isSome = true) :
    Shown (p.markDispatched s action) t := by
  obtain ⟨chosen, hchosen, -, -, rfl⟩ := h
  have hsame : (p.forgetFailed chosen).identity = chosen.identity :=
    (inherits_forgetFailed p chosen).1
  have hknown : chosen.identity.isSome = true := by rw [← hsame]; exact hsome
  exact (hchosen.shown hdel hknown).of_eq hsame
    (lifecycleState_forgetFailed p chosen)

/-- A deletion sends the delete call for an object that was reported in a state
other than those of an object that is gone or going. -/
theorem shown_of_deletion {known : Status} {observed : Option LifecycleState}
    (hknown : known.identity = some id)
    (located : (p.locate known id).Walk t (.ok (s, observed)))
    (step : p.deletionStep s id observed = .dispatch) :
    ∃ state, s.identity = some id ∧ s.lifecycleState = some state
      ∧ state.isTornDown = false
      ∧ ∃ e ∈ t, Reports id state e := by
  have hid : s.identity = some id :=
    (inherits_of_walk_locate hknown located).1.trans hknown
  have hlive : ¬ p.deletionStep s id observed = .release :=
    fun h => nomatch step.symm.trans h
  rw [deletionStep_eq_release_iff] at hlive
  obtain ⟨direct, ⟨-, rfl, hr⟩ | ⟨-, reply, rfl, hr⟩⟩ :=
    walk_locate_iff.mp located
  · cases direct with
    | answered found =>
      cases hr
      have hstate : found.state.isTornDown = false := by simpa using hlive
      exact ⟨found.state, hid, rfl, hstate, _, List.mem_singleton_self _,
        .read rfl⟩
    | failed e => cases hr
    | hung => cases hr
  · cases hlisted : listedAs id reply.items with
    | none =>
      rw [hlisted] at hr
      cases hr
      simp at hlive
    | some found =>
      rw [hlisted] at hr
      cases hr
      obtain ⟨hmem, rfl⟩ := mem_of_listedAs hlisted
      have hstate : found.state.isTornDown = false := by simpa using hlive
      have hreport := reports_of_mem_items p.resource.listFilter hmem
      exact ⟨found.state, hid, rfl, hstate, _, by simp, hreport⟩

/-! ## Every action -/

/-- What is marked when a call is sent satisfies the row of its action, and is
shown by what was exchanged before. -/
theorem Sent.guarded {marked : Status} {call : RemoteCall}
    {reply : Reply call.Answer} {action : CorrectiveAction}
    (h : p.Sent t marked call)
    (hsent : p.sentBy (.remote call reply) = some action) :
    ∃ row, Precondition.find? action.kind = some row
      ∧ row.rule.holds marked.identity marked.lifecycleState = true
      ∧ (marked.identity.isSome = true → Shown marked t) := by
  cases h with
  | @dispatched t₁ t₂ s chosen c call hdel sends credentials target =>
    obtain ⟨sent, hsame, hkind, -⟩ := sentBy_of_sends hdel sends target reply
    obtain rfl := Option.some.inj (hsame.symm.trans hsent)
    rw [hkind]
    obtain ⟨row, hrow, holds⟩ := sends.row
    refine ⟨row, hrow, holds, fun hsome => ?_⟩
    exact (sends.shown hdel hsome).mono fun e he => List.mem_append_left t₂ he
  | @deleted t₁ t₂ known s id observed leaves knows located step =>
    cases hsent
    obtain ⟨state, hid, hstate, hlive, e, he, hreport⟩ :=
      shown_of_deletion knows.2 located step
    have hmarked : (p.markDeleted s).identity = some id := hid
    have hseen : (p.markDeleted s).lifecycleState = some state := hstate
    refine ⟨_, rfl, ?_, fun _ =>
      ⟨id, state, hmarked, hseen, e, List.mem_append_right t₁ he, hreport⟩⟩
    -- the row excludes two of the three states of an object that is gone or
    -- going
    rw [hmarked, hseen]
    cases state <;> first | rfl | cases hlive

/-- A call that changes an object changes the one on record. -/
theorem Sent.target {marked : Status} {call : RemoteCall}
    (h : p.Sent t marked call) (htarget : call.target? = some id) :
    marked.identity = some id := by
  cases h with
  | dispatched _ _ _ target => exact target?_callOf target htarget
  | deleted _ knows located _ =>
    cases htarget
    exact (inherits_of_walk_locate knows.2 located).1.trans knows.2

/-- **Every action is sent on what the pass was told.** Whatever the remote and
the store answer,

1. an action that a pass sends satisfies its row of the table on the status that
   was stored right before it. One that leads to an identity is sent only if
   none is known. Any other is sent only if one is, and if a direct read or a
   list answered earlier in the pass has reported that object in the very state
   that the row was checked on. A call that changes an object by its identity
   changes that one;
2. every action that a pass comes to check against the table has its row there;
3. every action that a pass comes to carry out is one call to the remote, so
   that its outcome is the answer to this call. -/
theorem sent_action_satisfies_row (p : Pass) {t : List PassEvent}
    {r : Except OperatorError Outcome} (h : p.run.Walk t r) :
    (∀ (before after : List PassEvent) (call : RemoteCall)
        (reply : Reply call.Answer) (action : CorrectiveAction),
      t = before ++ .remote call reply :: after →
        p.sentBy (.remote call reply) = some action →
          ∃ looked marked row, before = looked ++ [.saved marked]
            ∧ Precondition.find? action.kind = some row
            ∧ row.rule.holds marked.identity marked.lifecycleState = true
            ∧ (action.kind.leadsToIdentity = true → marked.identity = none)
            ∧ (action.kind.leadsToIdentity = false →
              ∃ id state, marked.identity = some id
                ∧ marked.lifecycleState = some state
                ∧ (∃ e ∈ looked, Reports id state e)
                ∧ ∀ object, call.target? = some object → object = id))
      ∧ (p.resource.deletionRequested = false → ∀ t₁ s action,
        p.Chooses t₁ s (some action) →
          check (p.forgetFailed s) action ≠ .noRule)
      ∧ (p.resource.deletionRequested = false → ∀ t₁ s action,
        p.Sends t₁ s action → ∀ credentials, ∃ call, ∀ t₂ answer,
          (p.carryOut (p.markDispatched s action).identity action
            credentials).Walk t₂ answer
            ↔ ∃ reply, t₂ = [.remote call reply]
              ∧ answer = p.answerOf call reply) := by
  refine ⟨?_, ?_, ?_⟩
  · intro before after call reply action ht hsent
    obtain ⟨looked, marked, call', reply', hbefore, hcall, hway⟩ :=
      sent_of_walk h ht hsent
    cases hcall
    obtain ⟨row, hrow, holds, hshown⟩ := hway.guarded hsent
    have hsome := Precondition.isSome_identity_of_holds hrow holds
    refine ⟨looked, marked, row, hbefore, hrow, holds, fun hleads => ?_,
      fun hworks => ?_⟩
    · rw [hleads] at hsome
      simpa using hsome
    · rw [hworks] at hsome
      obtain ⟨id, state, hid, hstate, hreport⟩ := hshown hsome
      refine ⟨id, state, hid, hstate, hreport, fun object hobject => ?_⟩
      exact Option.some.inj ((hway.target hobject).symm.trans hid)
  · intro hdel t₁ s action chosen
    exact chosen.check_ne_noRule hdel _
  · intro hdel t₁ s action sends credentials
    obtain ⟨call, hcall⟩ := sends.callOf hdel credentials
    exact ⟨call, fun t₂ answer => walk_carryOut_iff hcall⟩

/-- A deletion sends the delete call for a database that runs, in a state that
the row accepts and that was reported before. -/
theorem boundDeletion_sends_on_report :
    ∃ looked marked row state, Precondition.find? .delete = some row
      ∧ boundDeletion.run.transcript Simulation.answer runningRemote
        = looked ++ [.saved marked]
          ++ [.remote (.delete "ocid1.adb.1") (.answered ())]
      ∧ row.rule.holds (some "ocid1.adb.1") (some state) = true
      ∧ ∃ e ∈ looked, Reports "ocid1.adb.1" state e := by
  obtain ⟨marked, htrace⟩ : ∃ marked,
    boundDeletion.run.transcript Simulation.answer runningRemote
      = [.remote (.get "ocid1.adb.1") (.answered (liveDatabase "sales")),
        .saved marked]
        ++ .remote (.delete "ocid1.adb.1") (.answered ()) :: [] := ⟨_, rfl⟩
  have hwalk :=
    Program.walk_transcript Simulation.answer boundDeletion.run runningRemote
  obtain ⟨looked, marked', row, hbefore, hrow, holds, -, hshown⟩ :=
    (sent_action_satisfies_row boundDeletion hwalk).1 _ _ _ _
      (.delete true) htrace rfl
  obtain ⟨id, state, hid, hstate, hreport, hobject⟩ := hshown rfl
  obtain rfl := hobject "ocid1.adb.1" rfl
  rw [hid, hstate] at holds
  exact ⟨looked, marked', row, state, hrow, by rw [htrace, hbefore],
    holds, hreport⟩

end Pass

end DatabaseOperator
