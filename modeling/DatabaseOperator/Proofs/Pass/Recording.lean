import DatabaseOperator.Proofs.Pass.Sent
import DatabaseOperator.Proofs.Status.Conditions

/-!
# How a status comes on record

Between the status that a pass begins with and the ones that it stores or ends
with lies little: what was observed, a mark, counts, and a report. As long as a
pass has nothing to decide it only amends its status, which keeps what is on
record of actions, waits and wallets, and the conditions up to what a report
adds.

- `Status.unobserved`: what is on record besides what is observed.
- `Status.journal`: what is on record besides what is observed, marked and
  counted.
- `Report.IsUnsettled`: the reports of something that is under way or has
  failed.
- `Pass.Amends`: a status with other observations, marks and counts, and with
  such reports on it.
- `Pass.Chooses.unobserved`: a pass that comes to act has observed, and done
  nothing else.
- `Pass.OnRecord`: the statuses that a pass puts on record, each with the
  exchanges before.
- `Pass.Entry`, `Pass.entry_of_onRecord`: how each of them came about.
-/

namespace DatabaseOperator

namespace Status

/-- What a status says besides the object as it was observed and the mark of
what was sent. -/
def unobserved (s : Status) : Status :=
  { s with identity := none, lifecycleState := none, snapshot := none,
           inFlight := none, consistencyRetries := 0 }

/-- What a status says besides the phase, the object as it was observed, actions
under way or completed, and counts: the action that failed for good, the Secret
of the wallet, the generation and the conditions. -/
def journal (s : Status) : Status :=
  { s with
    phase := .pending
    identity := none
    lifecycleState := none
    snapshot := none
    inFlight := none
    waiting := none
    lastCompletedAction := none
    consecutiveFailures := 0
    consistencyRetries := 0 }

variable {s s' : Status}

theorem journal_eq_of_unobserved (h : s'.unobserved = s.unobserved) :
    s'.journal = s.journal := by
  show s'.unobserved.journal = s.unobserved.journal
  rw [h]

theorem waiting_eq_of_unobserved (h : s'.unobserved = s.unobserved) :
    s'.waiting = s.waiting := by
  show s'.unobserved.waiting = s.unobserved.waiting
  rw [h]

theorem consecutiveFailures_eq_of_unobserved
    (h : s'.unobserved = s.unobserved) :
    s'.consecutiveFailures = s.consecutiveFailures := by
  show s'.unobserved.consecutiveFailures = s.unobserved.consecutiveFailures
  rw [h]

theorem failedAction_eq_of_journal (h : s'.journal = s.journal) :
    s'.failedAction = s.failedAction := by
  show s'.journal.failedAction = s.journal.failedAction
  rw [h]

theorem walletSecret_eq_of_journal (h : s'.journal = s.journal) :
    s'.walletSecret = s.walletSecret := by
  show s'.journal.walletSecret = s.journal.walletSecret
  rw [h]

theorem conditions_eq_of_journal (h : s'.journal = s.journal) :
    s'.conditions = s.conditions := by
  show s'.journal.conditions = s.journal.conditions
  rw [h]

/-- What is said under a type is read off the conditions. -/
theorem flag_eq_of_conditions (h : s'.conditions = s.conditions)
    (type : String) : s'.flag type = s.flag type := by
  unfold flag condition?
  rw [h]

theorem flag_eq_of_journal (h : s'.journal = s.journal) (type : String) :
    s'.flag type = s.flag type :=
  flag_eq_of_conditions (conditions_eq_of_journal h) type

end Status

namespace Report

variable {r : Report} {stamp : Stamp} {s : Status}

/-- The report is of something that is under way or has failed. -/
def IsUnsettled : Report → Prop
  | progressing .. | waiting .. | retrying .. | failed .. | deleting _ => True
  | ready _ | cleared | terminated _ => False

/-- Reports change phase and conditions only. -/
theorem facts_on (r : Report) (stamp : Stamp) (s : Status) :
    (r.on stamp s).facts = s.facts := by
  cases r with
  | cleared => exact Status.facts_clearFailed s stamp
  | ready | progressing | waiting | retrying | failed | terminated | deleting =>
    rfl

theorem failedAction_on (r : Report) (stamp : Stamp) (s : Status) :
    (r.on stamp s).failedAction = s.failedAction := by
  show (r.on stamp s).facts.failedAction = s.facts.failedAction
  rw [facts_on]

theorem walletSecret_on (r : Report) (stamp : Stamp) (s : Status) :
    (r.on stamp s).walletSecret = s.walletSecret := by
  show (r.on stamp s).facts.walletSecret = s.facts.walletSecret
  rw [facts_on]

/-- A resource with something unsettled is not ready. -/
theorem flag_ready_on (unsettled : r.IsUnsettled) :
    (r.on stamp s).flag ConditionType.ready = some (flagText false) := by
  have hspoken :
      ∃ x ∈ r.settings s, x.type = ConditionType.ready ∧ x.value = false := by
    cases r with
    | ready | cleared | terminated => cases unsettled
    | progressing | waiting | retrying | failed | deleting =>
      exact ⟨_, List.mem_cons_self, rfl, rfl⟩
  obtain ⟨x, hx, hready, hvalue⟩ := hspoken
  rw [← hready, (says_on hx).flag, hvalue]

/-- Something unsettled does not make up for a failure. -/
theorem flag_failed_on (unsettled : r.IsUnsettled) :
    (r.on stamp s).flag ConditionType.failed = s.flag ConditionType.failed
      ∨ (r.on stamp s).flag ConditionType.failed = some (flagText true) := by
  have hunspoken : ConditionType.failed
    ∉ [ConditionType.ready, ConditionType.progressing] := by decide
  cases r with
  | ready | cleared | terminated => cases unsettled
  | failed => exact .inr (Status.flag_set_self ..)
  | progressing | waiting | retrying | deleting =>
    exact .inl (flag_on_of_notMem hunspoken)

end Report

namespace Pass

variable {p : Pass} {s s' s'' seen : Status} {t t₁ t₂ : List PassEvent}
    {r : Except OperatorError Outcome} {d : Duration}

/-! ## Amendments -/

/-- A status that has come from another one by observing, marking and counting,
and by reports of something unsettled. -/
inductive Amends (p : Pass) (s : Status) : Status → Prop where
  | refl : Amends p s s
  | noted {s' s'' : Status} (earlier : Amends p s s')
      (same : s''.journal = s'.journal) : Amends p s s''
  | reported {s' : Status} (earlier : Amends p s s') (report : Report)
      (unsettled : report.IsUnsettled) : Amends p s (report.on p.stamp s')

namespace Amends

theorem trans (h : p.Amends s s') (h' : p.Amends s' s'') : p.Amends s s'' := by
  induction h' with
  | refl => exact h
  | noted _ same ih => exact .noted ih same
  | reported _ report unsettled ih => exact .reported ih report unsettled

theorem of_journal (same : s'.journal = s.journal) : p.Amends s s' :=
  .noted .refl same

theorem progressing (h : p.Amends s s') (phase : Phase)
    (reason message : String) :
    p.Amends s (s'.reportProgressing p.stamp phase reason message) :=
  .reported h (.progressing phase reason message) trivial

theorem retrying (h : p.Amends s s') (reason message : String) :
    p.Amends s (s'.reportRetrying p.stamp reason message) :=
  .reported h (.retrying reason message) trivial

theorem failing (h : p.Amends s s') (reason message : String) :
    p.Amends s (s'.reportFailed p.stamp reason message) :=
  .reported h (.failed reason message) trivial

theorem deleting (h : p.Amends s s') (message : String) :
    p.Amends s (s'.reportDeleting p.stamp message) :=
  .reported h (.deleting message) trivial

theorem failedAction (h : p.Amends s s') :
    s'.failedAction = s.failedAction := by
  induction h with
  | refl => rfl
  | noted _ same ih => exact (Status.failedAction_eq_of_journal same).trans ih
  | reported _ report _ ih => exact (report.failedAction_on ..).trans ih

theorem walletSecret (h : p.Amends s s') :
    s'.walletSecret = s.walletSecret := by
  induction h with
  | refl => rfl
  | noted _ same ih => exact (Status.walletSecret_eq_of_journal same).trans ih
  | reported _ report _ ih => exact (report.walletSecret_on ..).trans ih

/-- A resource that was not ready has not become so. -/
theorem unready (h : p.Amends s s')
    (unready : s.flag ConditionType.ready = some (flagText false)) :
    s'.flag ConditionType.ready = some (flagText false) := by
  induction h with
  | refl => exact unready
  | noted _ same ih => exact (Status.flag_eq_of_journal same _).trans ih
  | reported _ _ unsettled _ => exact Report.flag_ready_on unsettled

/-- A failure on record stays there. -/
theorem failed (h : p.Amends s s')
    (failed : s.flag ConditionType.failed = some (flagText true)) :
    s'.flag ConditionType.failed = some (flagText true) := by
  induction h with
  | refl => exact failed
  | noted _ same ih => exact (Status.flag_eq_of_journal same _).trans ih
  | reported _ _ unsettled ih =>
    rcases Report.flag_failed_on unsettled with hkept | hnew
    · exact hkept.trans ih
    · exact hnew

end Amends

/-- A stage that leaves the rest to do has observed, and done nothing else; one
that ends the pass may have reported. -/
def Step.Amends (p : Pass) (s : Status) : Step → Prop
  | .proceed s' => s'.unobserved = s.unobserved
  | .stop s' _ => p.Amends s s'

/-! ## Observing -/

theorem amends_afterReadError (p : Pass) (s : Status) (e : RemoteError) :
    (p.afterReadError s e).Amends p s := by
  have counted : p.Amends s (countFailure s) := .of_journal rfl
  unfold afterReadError
  cases e.errorClass with
  | transient | conflict => exact counted.retrying ..
  | permanent => exact counted.failing ..

theorem amends_afterMismatch (p : Pass) (s : Status)
    (direct : Option LifecycleState) (listed : Snapshot) :
    (p.afterMismatch s direct listed).Amends p s := by
  unfold afterMismatch
  simp only
  split
  next => exact .of_journal rfl
  next =>
    refine Pass.Amends.retrying ?_ _ _
    exact .of_journal rfl

theorem amends_afterMissing (p : Pass) (s : Status) :
    (p.afterMissing s).Amends p s := by
  unfold afterMissing
  split
  next => exact Pass.Amends.progressing .refl ..
  next =>
    split
    next => rfl
    next =>
      split
      next => rfl
      next =>
        refine Pass.Amends.failing ?_ _ _
        exact .of_journal rfl

theorem amends_mergeReads (p : Pass) (s : Status)
    (direct : Except RemoteError Snapshot) (listed : Option Snapshot) :
    (p.mergeReads s direct listed).Amends p s := by
  unfold mergeReads
  split
  next =>
    split
    next => rfl
    next => exact amends_afterMismatch ..
  next => rfl
  next =>
    split
    next => exact amends_afterMismatch ..
    next => rfl
  next =>
    split
    next => exact amends_afterMissing ..
    next => exact amends_afterReadError ..

theorem amends_awaitCreated (p : Pass) (s : Status) (pending : PendingAction) :
    (p.awaitCreated s pending).Amends p s := by
  unfold awaitCreated
  simp only
  split
  next => exact Pass.Amends.progressing .refl ..
  next => rfl

theorem Recovery.amends {step : Step} (h : p.Recovery s t step) :
    step.Amends p s := by
  cases h with
  | unmarked | irrelevant | repeatable | adopted => rfl
  | blind | unseen => exact amends_awaitCreated ..

theorem amends_of_walk_observeRemote {step : Step}
    (h : (p.observeRemote s).Walk t step) : step.Amends p s := by
  cases hid : s.identity with
  | none => exact ((walk_observeRemote_of_none hid).mp h).amends
  | some id =>
    obtain ⟨direct, ⟨-, -, rfl⟩ | ⟨-, reply, -, rfl⟩⟩ :=
      walk_refresh_iff.mp ((walk_observeRemote_of_some hid).mp h)
    · exact amends_mergeReads ..
    · exact amends_mergeReads ..

theorem amends_trackInFlight (p : Pass) (s : Status)
    (action : Option CorrectiveAction) :
    (p.trackInFlight s action).Amends p s := by
  unfold trackInFlight
  split
  next => rfl
  next =>
    split
    next =>
      simp only
      split
      next => exact Pass.Amends.progressing .refl ..
      next => rfl
    next => split <;> rfl

/-- A pass that comes to act has observed, and done nothing else. -/
theorem Chooses.unobserved {action : Option CorrectiveAction}
    (h : p.Chooses t s action) : s.unobserved = p.initialStatus.unobserved := by
  obtain ⟨seen, observed, -, free⟩ := h
  have hfree := amends_trackInFlight p seen action
  rw [free] at hfree
  exact hfree.trans (amends_of_walk_observeRemote observed)

/-- So it has reported nothing. -/
theorem Chooses.journal {action : Option CorrectiveAction}
    (h : p.Chooses t s action) : s.journal = p.initialStatus.journal :=
  Status.journal_eq_of_unobserved h.unobserved

/-! ## Deleting -/

theorem amends_of_walk_identify {step : Step} (h : (p.identify s).Walk t step) :
    step.Amends p s := by
  cases hid : s.identity with
  | some id =>
    obtain ⟨-, rfl⟩ := (walk_identify_of_some (by simp [hid])).mp h
    rfl
  | none => exact ((walk_identify_of_none hid).mp h).amends

theorem journal_of_walk_identify (h : (p.identify s).Walk t (.proceed s')) :
    s'.journal = s.journal := by
  have hsame : s'.unobserved = s.unobserved := amends_of_walk_identify h
  exact Status.journal_eq_of_unobserved hsame

theorem journal_of_walk_locate {id : String} {observed : Option LifecycleState}
    (h : (p.locate s id).Walk t (.ok (s', observed))) :
    s'.journal = s.journal := by
  obtain ⟨found, hfound⟩ := sighted_of_walk_locate h
  cases found <;> cases hfound <;> rfl

theorem amends_afterDeleteFailure (p : Pass) (s : Status) (e : RemoteError) :
    p.Amends s (p.afterDeleteFailure s e).1 := by
  have counted : p.Amends s (countFailure { s with inFlight := none }) :=
    .of_journal rfl
  unfold afterDeleteFailure
  cases e.errorClass with
  | transient | conflict => exact counted.retrying ..
  | permanent => exact counted.failing ..

theorem amends_markDeleted (p : Pass) (s : Status) :
    p.Amends s (p.markDeleted s) :=
  .of_journal rfl

theorem amends_deletingStatus (p : Pass) :
    p.Amends p.initialStatus p.deletingStatus :=
  Pass.Amends.deleting .refl _

/-! ## Acting -/

theorem amends_waitFor (p : Pass) (s : Status) (action : CorrectiveAction)
    (expected : StateRule) : p.Amends s (p.waitFor s action expected).1 := by
  unfold waitFor
  simp only
  split
  next =>
    refine .reported ?_ (.waiting _ _) trivial
    unfold recordWait
    split
    next => exact .refl
    next => exact .of_journal rfl
  next =>
    refine .reported ?_ (.waiting _ _) trivial
    exact .of_journal rfl

theorem amends_afterMissingCredentials (p : Pass) (s : Status)
    (action : CorrectiveAction) (e : OperatorError) :
    p.Amends s (p.afterMissingCredentials s action e).1 := by
  refine Pass.Amends.retrying ?_ _ _
  exact .of_journal rfl

theorem amends_markDispatched (p : Pass) (s : Status)
    (action : CorrectiveAction) : p.Amends s (p.markDispatched s action) := by
  refine Pass.Amends.progressing ?_ _ _ _
  exact .of_journal rfl

theorem journal_completePdb (s : Status) (request : PdbRequest) :
    (completePdb s request).journal = s.journal := by
  unfold completePdb
  cases request.action <;> rfl

/-- A success is reported as something that is under way. -/
theorem afterSuccess_eq_report (p : Pass) (s : Status)
    (action : CorrectiveAction) (found : Option Snapshot) :
    ∃ (s' : Status) (phase : Phase) (reason message : String),
      s'.journal = s.journal
      ∧ (p.afterSuccess s action found).1
        = s'.reportProgressing p.stamp phase reason message := by
  refine ⟨_, _, _, _, ?_, rfl⟩
  cases action with
  | pdb request => cases found <;> exact journal_completePdb ..
  | provision | bind | updateAttributes | changeState | delete =>
    cases found <;> rfl

theorem amends_afterSuccess (p : Pass) (s : Status) (action : CorrectiveAction)
    (found : Option Snapshot) :
    p.Amends s (p.afterSuccess s action found).1 := by
  obtain ⟨s', phase, reason, message, same, heq⟩ :=
    afterSuccess_eq_report p s action found
  rw [heq]
  exact Pass.Amends.progressing (.of_journal same) ..

/-- A failure amends the status, unless it is for good: then the action is not
to be repeated, and is reported so. -/
theorem afterFailure_cases (p : Pass) (s : Status) (action : CorrectiveAction)
    (e : RemoteError) :
    p.Amends s (p.afterFailure s action e).1
      ∨ ∃ (s' : Status) (reason message : String), s'.journal = s.journal
        ∧ (p.afterFailure s action e).1
          = { s' with failedAction := some action.signature }.reportFailed
            p.stamp reason message := by
  unfold afterFailure
  simp only
  generalize hmark :
    (if (action.createsObject && e.errorClass == .transient) = true then s
    else { s with inFlight := none }) = unmarked
  have hsame : (countFailure unmarked).journal = s.journal := by
    rw [← hmark]
    split <;> rfl
  cases e.errorClass with
  | transient | conflict =>
    exact .inl (Pass.Amends.retrying (.of_journal hsame) _ _)
  | permanent => exact .inr ⟨_, _, _, hsame, rfl⟩

/-! ## What comes on record -/

/-- The statuses that a pass puts on record: the store takes them after some
exchanges, or the pass ends with them after all of them. -/
inductive OnRecord (t : List PassEvent) (r : Except OperatorError Outcome) :
    List PassEvent → Status → Prop where
  | stored {before after : List PassEvent} {s : Status}
      (split : t = before ++ .saved s :: after) : OnRecord t r before s
  | ended {o : Outcome} (ok : r = .ok o) : OnRecord t r t o.status

/-- Where the last call is to store a status, that status comes on record, after
all that was exchanged before. -/
theorem OnRecord.of_finish {g : Progress} {before : List PassEvent}
    (h : OnRecord (t₁ ++ t₂) r before s)
    (silent : ∀ {s answer}, .store (.saveStatus s) answer ∉ t₁)
    (ending : (finish g d).Walk t₂ r) :
    s = g.status ∧ ∃ rest, before = t₁ ++ rest := by
  cases h with
  | @stored _ after _ split =>
    obtain ⟨rest, hbefore, hrest⟩ := split_of_not_mem split silent
    have hmem : .saved s ∈ t₂ := by simp [hrest]
    exact ⟨eq_of_saved_mem_finish ending hmem, rest, hbefore⟩
  | ended ok =>
    subst ok
    rw [ended_of_walk_finish ending]
    exact ⟨rfl, t₂, rfl⟩

theorem OnRecord.of_release {g : Progress} {before : List PassEvent}
    (h : OnRecord (t₁ ++ t₂) r before s)
    (silent : ∀ {s answer}, .store (.saveStatus s) answer ∉ t₁)
    (ending : (release g).Walk t₂ r) : s = g.status := by
  cases h with
  | @stored _ after _ split =>
    obtain ⟨rest, -, hrest⟩ := split_of_not_mem split silent
    have hmem : .saved s ∈ t₂ := by simp [hrest]
    exact absurd hmem (saved_not_mem_release ending)
  | ended ok =>
    subst ok
    obtain ⟨answer, -, hanswer⟩ := walk_release_iff.mp ending
    cases answer with
    | ok _ =>
      cases hanswer
      rfl
    | error e => cases hanswer

/-- A pass that stores a mark and makes a call has the mark on record, and what
comes on record with its ending. -/
theorem OnRecord.of_sent {before : List PassEvent} {marked : Status}
    {call : RemoteCall} {reply : Reply call.Answer}
    (h : OnRecord (t₁ ++ .saved marked :: .remote call reply :: t₂) r before s)
    (silent : ∀ {s answer}, .store (.saveStatus s) answer ∉ t₁) :
    s = marked ∨ ∃ later, OnRecord ([.remote call reply] ++ t₂) r later s := by
  cases h with
  | @stored _ after _ split =>
    obtain ⟨rest, -, hrest⟩ := split_of_not_mem split silent
    cases rest with
    | nil =>
      obtain ⟨hsame, -⟩ := List.cons.inj hrest
      cases hsame
      exact .inl rfl
    | cons e rest =>
      obtain ⟨-, hlater⟩ := List.cons.inj hrest
      exact .inr ⟨rest, .stored hlater⟩
  | ended ok => exact .inr ⟨_, .ended ok⟩

/-- A mark that the store does not take is not on record. -/
theorem not_onRecord_of_unmarked {before : List PassEvent} {marked : Status}
    {e : OperatorError}
    (silent : ∀ {s answer}, .store (.saveStatus s) answer ∉ t₁) :
    ¬ OnRecord (t₁ ++ [.store (.saveStatus marked) (.error e)])
      (.error e) before s := by
  intro h
  cases h with
  | @stored _ after _ split =>
    obtain ⟨rest, -, hrest⟩ := split_of_not_mem split silent
    have hmem : Exchange.saved s
        ∈ [Exchange.store (.saveStatus marked) (.error e)] := by
      rw [hrest]
      simp
    cases List.mem_singleton.mp hmem
  | ended ok => cases ok

/-- How a status came about that a pass puts on record after some exchanges. -/
inductive Entry (p : Pass) : List PassEvent → Status → Prop where
  /-- Nothing was decided. -/
  | amended {before : List PassEvent} {s : Status}
      (amends : p.Amends p.initialStatus s) : Entry p before s
  /-- Nothing was to be done. -/
  | settled {t₁ t₂ rest : List PassEvent} {s s' : Status} {d : Duration}
      (chosen : p.Chooses t₁ s none) (settling : (p.settle s).Walk t₂ (s', d)) :
      Entry p (t₁ ++ t₂ ++ rest) s'
  /-- The action failed for good before. -/
  | declined {before t₁ : List PassEvent} {s : Status}
      {action : CorrectiveAction} (chosen : p.Chooses t₁ s (some action))
      (failed : s.failedAction = some action.signature) :
      Entry p before (declineFailed s)
  /-- The precondition of the action does not hold. -/
  | waited {before t₁ : List PassEvent} {s : Status} {action : CorrectiveAction}
      {expected : StateRule} (chosen : p.Chooses t₁ s (some action))
      (fresh : s.failedAction ≠ some action.signature)
      (unmet : check (p.forgetFailed s) action = .unmet expected) :
      Entry p before (p.waitFor (p.forgetFailed s) action expected).1
  /-- The action can never be sent. -/
  | illegal {before t₁ : List PassEvent} {s : Status}
      {action : CorrectiveAction} (chosen : p.Chooses t₁ s (some action))
      (noRule : check (p.forgetFailed s) action = .noRule) :
      Entry p before (p.declineIllegal (p.forgetFailed s) action)
  /-- The credentials for the action cannot be read. -/
  | uncredited {before t₁ : List PassEvent} {s : Status}
      {action : CorrectiveAction} {e : OperatorError}
      (sends : p.Sends t₁ s action) :
      Entry p before (p.afterMissingCredentials s action e).1
  /-- The action is about to be sent. -/
  | marked {before t₁ : List PassEvent} {s : Status} {action : CorrectiveAction}
      (sends : p.Sends t₁ s action) : Entry p before (p.markDispatched s action)
  /-- The action was sent. -/
  | answered {before t₁ : List PassEvent} {s : Status}
      {action : CorrectiveAction} {call : RemoteCall}
      {reply : Reply call.Answer} (sends : p.Sends t₁ s action) :
      Entry p before
        (p.afterAnswer (p.markDispatched s action) action
          (p.answerOf call reply)).1

/-- A pass over a resource that stays puts no other statuses on record. -/
theorem Course.entry {before : List PassEvent} (h : p.Course t r)
    (recorded : OnRecord t r before s) : p.Entry before s := by
  -- each course puts on record what its last stage decides; only a pass that
  -- sends puts two statuses there
  cases h with
  | stopped observed ending =>
    have quiet := quiet_of_walk_observeRemote observed
    obtain ⟨rfl, -⟩ :=
      recorded.of_finish (saveStatus_not_mem_of_quiet quiet) ending
    exact .amended (amends_of_walk_observeRemote observed)
  | @held t₁ t₂ seen s' d' _ observed held ending =>
    have quiet := quiet_of_walk_observeRemote observed
    obtain ⟨rfl, -⟩ :=
      recorded.of_finish (saveStatus_not_mem_of_quiet quiet) ending
    have hseen : seen.unobserved = p.initialStatus.unobserved :=
      amends_of_walk_observeRemote observed
    have hheld := amends_trackInFlight p seen (p.resource.nextAction? seen)
    rw [held] at hheld
    exact .amended
      ((Pass.Amends.of_journal (Status.journal_eq_of_unobserved hseen)).trans
        hheld)
  | settled chosen settling ending =>
    rw [← List.append_assoc] at recorded
    have quiet := chosen.quiet_settle settling
    obtain ⟨rfl, rest, rfl⟩ :=
      recorded.of_finish (saveStatus_not_mem_of_quiet quiet) ending
    exact .settled chosen settling
  | declined chosen failed ending =>
    have quiet := quiet_of_chooses chosen
    obtain ⟨rfl, -⟩ :=
      recorded.of_finish (saveStatus_not_mem_of_quiet quiet) ending
    exact .declined chosen failed
  | waited chosen fresh unmet ending =>
    have quiet := quiet_of_chooses chosen
    obtain ⟨rfl, -⟩ :=
      recorded.of_finish (saveStatus_not_mem_of_quiet quiet) ending
    exact .waited chosen fresh unmet
  | illegal chosen _ noRule ending =>
    have quiet := quiet_of_chooses chosen
    obtain ⟨rfl, -⟩ :=
      recorded.of_finish (saveStatus_not_mem_of_quiet quiet) ending
    exact .illegal chosen noRule
  | uncredited sends credentials ending =>
    rw [← List.append_assoc] at recorded
    have quiet := sends.quiet_readCredentials credentials
    obtain ⟨rfl, -⟩ :=
      recorded.of_finish (saveStatus_not_mem_of_quiet quiet) ending
    exact .uncredited sends
  | unmarked sends credentials =>
    -- a refused mark is not on record
    rw [← List.append_assoc] at recorded
    have quiet := sends.quiet_readCredentials credentials
    exact absurd recorded
      (not_onRecord_of_unmarked (saveStatus_not_mem_of_quiet quiet))
  | sent sends credentials target ending =>
    rw [← List.append_assoc] at recorded
    have quiet := sends.quiet_readCredentials credentials
    rcases recorded.of_sent (saveStatus_not_mem_of_quiet quiet) with rfl
      | ⟨later, recorded⟩
    · exact .marked sends
    · obtain ⟨rfl, -⟩ := recorded.of_finish (by simp) ending
      exact .answered sends

/-- A pass over a resource that is being deleted decides nothing that lasts. -/
theorem ObjectTeardown.amends {known : Status} {id : String}
    {t₀ before : List PassEvent} (hdel : p.resource.deletionRequested = true)
    (quiet₀ : ∀ e ∈ t₀, p.Quiet e) (h : p.ObjectTeardown known id t r)
    (recorded : OnRecord (t₀ ++ t) r before s) : p.Amends known s := by
  have reads : p.readsObject = true := by simp [readsObject, hdel]
  have silent : ∀ {t₁ found}, (p.locate known id).Walk t₁ found →
      ∀ {s answer}, .store (.saveStatus s) answer ∉ t₀ ++ t₁ := fun located =>
    saveStatus_not_mem_of_quiet
      (List.forall_mem_append.mpr ⟨quiet₀, quiet_of_walk_locate reads located⟩)
  -- locating the object leaves the journal as it is; around the delete call the
  -- mark is on record, and then what the answer makes of it
  cases h with
  | unread located failed ending =>
    rw [← List.append_assoc] at recorded
    obtain ⟨rfl, -⟩ := recorded.of_finish (silent located) ending
    have hfailed := amends_afterReadError p known ‹RemoteError›
    rw [failed] at hfailed
    exact hfailed
  | gone located _ ending =>
    rw [← List.append_assoc] at recorded
    obtain rfl := recorded.of_release (silent located) ending
    exact .of_journal (journal_of_walk_locate located)
  | given located _ ending =>
    rw [← List.append_assoc] at recorded
    obtain ⟨rfl, -⟩ := recorded.of_finish (silent located) ending
    exact Pass.Amends.deleting (.of_journal (journal_of_walk_locate located)) _
  | unmarked located step =>
    rw [← List.append_assoc] at recorded
    exact absurd recorded (not_onRecord_of_unmarked (silent located))
  | deleted located step ending =>
    rw [← List.append_assoc] at recorded
    have marked :=
      (Pass.Amends.of_journal (journal_of_walk_locate located)).trans
        (amends_markDeleted p _)
    rcases recorded.of_sent (silent located) with rfl | ⟨later, recorded⟩
    · exact marked
    · obtain ⟨rfl, -⟩ := recorded.of_finish (by simp) ending
      exact .noted marked rfl
  | vanished located step absent ending =>
    rw [← List.append_assoc] at recorded
    have marked :=
      (Pass.Amends.of_journal (journal_of_walk_locate located)).trans
        (amends_markDeleted p _)
    rcases recorded.of_sent (silent located) with rfl | ⟨later, recorded⟩
    · exact marked
    · obtain rfl := recorded.of_release (by simp) ending
      exact marked
  | kept located step failed present ending =>
    rw [← List.append_assoc] at recorded
    have marked :=
      (Pass.Amends.of_journal (journal_of_walk_locate located)).trans
        (amends_markDeleted p _)
    rcases recorded.of_sent (silent located) with rfl | ⟨later, recorded⟩
    · exact marked
    · obtain ⟨rfl, -⟩ := recorded.of_finish (by simp) ending
      exact marked.trans (amends_afterDeleteFailure ..)

theorem Teardown.amends {before : List PassEvent}
    (hdel : p.resource.deletionRequested = true) (h : p.Teardown t r)
    (recorded : OnRecord t r before s) : p.Amends p.initialStatus s := by
  cases h with
  | detached _ ending =>
    have hnil : OnRecord ([] ++ t) r before s := recorded
    obtain rfl := hnil.of_release (by simp) ending
    exact .refl
  | awaited _ identified ending =>
    have quiet := quiet_of_walk_identify identified
    obtain ⟨rfl, -⟩ :=
      recorded.of_finish (saveStatus_not_mem_of_quiet quiet) ending
    have hstop :
        p.Amends p.deletingStatus _ := amends_of_walk_identify identified
    exact ((amends_deletingStatus p).trans hstop).deleting _
  | objectless _ identified _ ending =>
    have quiet := quiet_of_walk_identify identified
    obtain rfl := recorded.of_release (saveStatus_not_mem_of_quiet quiet) ending
    exact .noted (amends_deletingStatus p) (journal_of_walk_identify identified)
  | known _ knows teardown =>
    have hknown : p.Amends p.initialStatus _ :=
      .noted (amends_deletingStatus p) (journal_of_walk_identify knows.1)
    exact hknown.trans (teardown.amends hdel (quiet_of_knows knows) recorded)

/-- Every status that a pass puts on record came about in one of these ways. -/
theorem entry_of_onRecord {before : List PassEvent} (h : p.run.Walk t r)
    (recorded : OnRecord t r before s) : p.Entry before s := by
  cases hdel : p.resource.deletionRequested with
  | false => exact (course_of_walk hdel h).entry recorded
  | true => exact .amended ((teardown_of_walk hdel h).amends hdel recorded)

end Pass

end DatabaseOperator
