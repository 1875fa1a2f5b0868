import DatabaseOperator.Proofs.Pass.Confirmation
import DatabaseOperator.Proofs.Pass.Driving
import DatabaseOperator.Proofs.Pass.Recording
import DatabaseOperator.Proofs.Pass.Refusal

/-!
# What a status says of failures

A failure is on record in two places. The signature of an action that failed for
good is what the passes go by; the phase and the conditions are what they show.
The two are written together but not always cleared together, and a failure that
is none of an action, such as a read that is refused, is only shown.

- `Status.OwnsFailure`, `Drives.ownsFailure`: an action that failed for good is
  shown as a failure, as long as it is on record.
- `Pass.Declines`: the action that is needed failed for good before.
- `Pass.Accepted`, `Pass.flag_failed_of_accepted`: a failure is cleared with an
  action that is on record as failed, and not otherwise.
- `failure_shown`: what is shown of failures after an action that is declined,
  and after one that is accepted.
- `stale_progress_and_failure`: something that is said to be under way with
  nothing to do, and a failure that is over.
-/

namespace DatabaseOperator

/-- An action that failed for good is shown: the resource has failed, and is not
ready. -/
def Status.OwnsFailure (s : Status) : Prop :=
  s.failedAction.isSome = true →
    s.flag ConditionType.ready = some (flagText false)
      ∧ s.flag ConditionType.failed = some (flagText true)

namespace Pass

variable {p : Pass} {s s' chosen : Status} {t t₁ t₂ before : List PassEvent}
    {r : Except OperatorError Outcome} {action : CorrectiveAction} {id : String}

/-! ## Failed actions are shown -/

theorem ownsFailure_of_none (h : s.failedAction = none) : s.OwnsFailure := by
  intro failed
  rw [h] at failed
  cases failed

theorem ownsFailure_of_journal (same : s'.journal = s.journal)
    (h : s.OwnsFailure) : s'.OwnsFailure := by
  intro failed
  rw [Status.failedAction_eq_of_journal same] at failed
  rw [Status.flag_eq_of_journal same, Status.flag_eq_of_journal same]
  exact h failed

theorem Amends.ownsFailure (amends : p.Amends s s') (h : s.OwnsFailure) :
    s'.OwnsFailure := by
  intro failed
  rw [amends.failedAction] at failed
  obtain ⟨hready, hfailed⟩ := h failed
  exact ⟨amends.unready hready, amends.failed hfailed⟩

theorem ownsFailure_reportFailed (s : Status) (stamp : Stamp)
    (reason message : String) :
    (s.reportFailed stamp reason message).OwnsFailure := by
  intro _
  have hready : (Report.on (.failed reason message) stamp s).flag
      ConditionType.ready = some (flagText false) :=
    Report.flag_ready_on trivial
  exact ⟨hready, Status.flag_set_self ..⟩

theorem failedAction_forgetFailed (p : Pass) (s : Status) :
    (p.forgetFailed s).failedAction = none := by
  show (p.forgetFailed s).facts.failedAction = none
  rw [facts_forgetFailed]
  rfl

/-- A pass that has nothing left to do does not keep an action as failed. -/
theorem failedAction_of_walk_settle {settled : Status × Duration}
    (h : (p.settle s).Walk t settled) : settled.1.failedAction = none := by
  have hforgot : (p.forgetObstacles s).failedAction = none := by
    show (p.forgetObstacles s).facts.failedAction = none
    rw [facts_forgetObstacles]
    rfl
  show settled.1.lasting.failedAction = none
  rw [lasting_of_walk_settle h]
  unfold completeOneShot
  split
  next => split <;> exact hforgot
  next => exact hforgot

theorem ownsFailure_afterAnswer (answer : Except RemoteError (Option Snapshot))
    (h : s.failedAction = none) :
    (p.afterAnswer s action answer).1.OwnsFailure := by
  cases answer with
  | ok found =>
    exact (amends_afterSuccess p s action found).ownsFailure
      (ownsFailure_of_none h)
  | error e =>
    show (p.afterFailure s action e).1.OwnsFailure
    rcases afterFailure_cases p s action e with amends
      | ⟨s', reason, message, -, heq⟩
    · exact amends.ownsFailure (ownsFailure_of_none h)
    · rw [heq]
      exact ownsFailure_reportFailed _ _ _ _

/-- However a status comes on record, it shows the action that failed for good,
if the one before did. -/
theorem Entry.ownsFailure (entry : p.Entry before s)
    (h : p.resource.status.OwnsFailure) : s.OwnsFailure := by
  have hinitial : p.initialStatus.OwnsFailure := h
  cases entry with
  | amended amends => exact amends.ownsFailure hinitial
  | settled _ settling =>
    exact ownsFailure_of_none (failedAction_of_walk_settle settling)
  | @declined _ _ chosen _ choosing _ =>
    have hsame : (declineFailed chosen).journal = p.initialStatus.journal :=
      choosing.journal
    exact ownsFailure_of_journal hsame hinitial
  | waited =>
    exact (amends_waitFor ..).ownsFailure
      (ownsFailure_of_none (failedAction_forgetFailed ..))
  | illegal => exact ownsFailure_reportFailed _ _ _ _
  | uncredited sends =>
    exact (amends_afterMissingCredentials ..).ownsFailure
      (ownsFailure_of_none (failedAction_of_sends sends))
  | marked sends =>
    exact (amends_markDispatched ..).ownsFailure
      (ownsFailure_of_none (failedAction_of_sends sends))
  | answered sends =>
    refine ownsFailure_afterAnswer _ ?_
    exact (amends_markDispatched ..).failedAction.trans
      (failedAction_of_sends sends)

theorem amends_rejectedStatus (p : Pass) (fault : OperatorError) :
    p.Amends p.initialStatus (p.rejectedStatus fault) :=
  Pass.Amends.failing .refl ..

theorem amends_blockedStatus (p : Pass) (fault : OperatorError) :
    p.Amends p.initialStatus (p.blockedStatus fault) := by
  have counted : p.Amends p.initialStatus (countFailure p.initialStatus) :=
    .of_journal rfl
  unfold blockedStatus
  simp only
  split
  next => exact counted.retrying ..
  next => exact counted.failing ..

theorem amends_of_saved_reject {fault : OperatorError} {driven : Driven}
    (h : (p.reject fault).Walk t driven) (hs : .saved s ∈ t) :
    p.Amends p.initialStatus s := by
  unfold reject at h
  simp only at h
  split at h
  next =>
    obtain ⟨rfl, -⟩ := Program.walk_done_iff.mp h
    cases hs
  next =>
    obtain ⟨answer, rfl, -⟩ := Program.walk_ask_done_iff.mp h
    cases List.mem_singleton.mp hs
    exact amends_rejectedStatus p fault

theorem amends_of_saved_block {fault : OperatorError} {driven : Driven}
    (h : (p.block fault).Walk t driven) (hs : .saved s ∈ t) :
    p.Amends p.initialStatus s := by
  obtain ⟨answer, rfl, -⟩ := Program.walk_ask_done_iff.mp h
  cases List.mem_singleton.mp hs
  exact amends_blockedStatus p fault

/-- What a drive stores came about in one of the ways of a pass, with a pass or
without. -/
theorem entry_of_saved_drive {validation connection : Except OperatorError Unit}
    {driven : Driven} (h : (p.drive validation connection).Walk t driven)
    (hs : .saved s ∈ t) : ∃ before, p.Entry before s := by
  unfold drive at h
  split at h
  next => exact ⟨[], .amended (amends_of_saved_reject h hs)⟩
  next =>
    obtain ⟨t₁, result, t₂, rfl, walk, hrest⟩ := Program.walk_bind_iff.mp h
    obtain ⟨rfl, rfl⟩ := Program.walk_done_iff.mp hrest
    rw [List.append_nil] at hs
    obtain ⟨before, after, hsplit⟩ := List.append_of_mem hs
    exact ⟨before, entry_of_onRecord walk (.stored hsplit)⟩
  next =>
    split at h
    next => exact ⟨[], .amended (amends_of_saved_block h hs)⟩
    next =>
      obtain ⟨answer, rfl, -⟩ := Program.walk_ask_done_iff.mp h
      cases List.mem_singleton.mp hs
  next => exact ⟨[], .amended (amends_of_saved_block h hs)⟩

/-! ## Actions that are declined -/

/-- The action that is needed failed for good before. -/
def Declines (p : Pass) (t : List PassEvent) (action : CorrectiveAction) :
    Prop :=
  p.resource.deletionRequested = false
    ∧ ∃ t₁ t₂ chosen, t = t₁ ++ t₂ ∧ p.Chooses t₁ chosen (some action)
      ∧ chosen.failedAction = some action.signature

/-- A pass that declines an action ends with the conditions on record, and says
that the resource has failed. -/
theorem declined_of_onRecord (h : p.run.Walk t r)
    (declines : p.Declines t action) (recorded : OnRecord t r before s) :
    s.phase = .failed ∧ s.journal = p.initialStatus.journal
      ∧ p.resource.status.failedAction = some action.signature := by
  obtain ⟨stays, t₁, t₂, chosen, rfl, choosing, failed⟩ := declines
  have ending := walk_act_of_chooses stays h choosing
  unfold act at ending
  rw [if_pos failed] at ending
  have quiet := quiet_of_chooses choosing
  obtain ⟨rfl, -⟩ :=
    recorded.of_finish (saveStatus_not_mem_of_quiet quiet) ending
  have hkept : chosen.failedAction = p.initialStatus.failedAction :=
    Status.failedAction_eq_of_journal choosing.journal
  exact ⟨rfl, choosing.journal, hkept.symm.trans failed⟩

/-! ## Actions that are accepted -/

/-- The remote has accepted an action of the pass. -/
def Accepted (p : Pass) (t : List PassEvent) (action : CorrectiveAction) :
    Prop :=
  ∃ (call : RemoteCall) (answer : call.Answer),
    .remote call (.answered answer) ∈ t
      ∧ p.sentBy (.remote call (.answered answer)) = some action

/-- Something that is under way says nothing of failures. -/
theorem flag_failed_reportProgressing (s : Status) (stamp : Stamp)
    (phase : Phase) (reason message : String) :
    (s.reportProgressing stamp phase reason message).flag ConditionType.failed
      = s.flag ConditionType.failed := by
  have hunspoken : ConditionType.failed
    ∉ [ConditionType.ready, ConditionType.progressing] := by decide
  exact Report.flag_on_of_notMem
    (r := .progressing phase reason message) hunspoken

theorem flag_failed_reportDeleting (s : Status) (stamp : Stamp)
    (message : String) :
    (s.reportDeleting stamp message).flag ConditionType.failed
      = s.flag ConditionType.failed := by
  have hunspoken : ConditionType.failed
    ∉ [ConditionType.ready, ConditionType.progressing] := by decide
  exact Report.flag_on_of_notMem (r := .deleting message) hunspoken

/-- A failure that is cleared is not shown any more. -/
theorem flag_failed_clearFailed_ne (s : Status) (stamp : Stamp) :
    (s.clearFailed stamp).flag ConditionType.failed ≠ some (flagText true) := by
  unfold Status.clearFailed
  split
  next =>
    rw [Status.flag_set_self]
    decide
  next unshown =>
    intro shown
    obtain ⟨c, hfound, hstatus⟩ := Option.map_eq_some_iff.mp shown
    have hfirst : s.conditions.find? (fun c => c.type == ConditionType.failed)
      = some c := hfound
    have htype := List.find?_some hfirst
    have hmem : c ∈ s.conditions := List.mem_of_find?_eq_some hfirst
    refine unshown (List.any_eq_true.mpr ⟨c, hmem, ?_⟩)
    simp [htype, hstatus]

/-- When another action is needed than the one that failed for good, the failure
is not shown any more. -/
theorem flag_failed_forgetFailed_iff :
    (p.forgetFailed s).flag ConditionType.failed = some (flagText true)
      ↔ s.flag ConditionType.failed = some (flagText true)
      ∧ s.failedAction = none := by
  by_cases hfailed : s.failedAction = none
  · have hsame : p.forgetFailed s = s := by
      unfold forgetFailed
      rw [hfailed]
      rfl
    rw [hsame]
    exact ⟨fun shown => ⟨shown, hfailed⟩, And.left⟩
  · have hsome :
        s.failedAction.isSome = true := Option.isSome_iff_ne_none.mpr hfailed
    unfold forgetFailed
    rw [if_pos hsome]
    constructor
    · intro shown
      exact absurd shown (flag_failed_clearFailed_ne _ _)
    · rintro ⟨-, hnone⟩
      exact absurd hnone hfailed

theorem Sends.flag_failed_iff (h : p.Sends t s action) :
    s.flag ConditionType.failed = some (flagText true)
      ↔ p.resource.status.flag ConditionType.failed = some (flagText true)
      ∧ p.resource.status.failedAction = none := by
  obtain ⟨chosen, choosing, -, -, rfl⟩ := h
  have hflag : chosen.flag ConditionType.failed
      = p.initialStatus.flag ConditionType.failed :=
    Status.flag_eq_of_journal choosing.journal _
  have haction : chosen.failedAction = p.initialStatus.failedAction :=
    Status.failedAction_eq_of_journal choosing.journal
  show (p.forgetFailed chosen).flag ConditionType.failed = some (flagText true)
    ↔ _
  rw [flag_failed_forgetFailed_iff, hflag, haction]
  rfl

theorem flag_failed_markDispatched (p : Pass) (s : Status)
    (action : CorrectiveAction) :
    (p.markDispatched s action).flag ConditionType.failed
      = s.flag ConditionType.failed :=
  flag_failed_reportProgressing ..

theorem flag_failed_afterSuccess (p : Pass) (s : Status)
    (action : CorrectiveAction) (found : Option Snapshot) :
    (p.afterSuccess s action found).1.flag ConditionType.failed
      = s.flag ConditionType.failed := by
  obtain ⟨s', phase, reason, message, same, heq⟩ :=
    afterSuccess_eq_report p s action found
  rw [heq, flag_failed_reportProgressing]
  exact Status.flag_eq_of_journal same _

/-- A pass whose action was accepted shows a failure only if it was shown before
and is not that of an action. -/
theorem Course.flag_failed_of_accepted (h : p.Course t r)
    (accepted : p.Accepted t action) (recorded : OnRecord t r before s) :
    s.flag ConditionType.failed = some (flagText true)
      ↔ p.resource.status.flag ConditionType.failed = some (flagText true)
      ∧ p.resource.status.failedAction = none := by
  obtain ⟨call, answer, hmem, hsent⟩ := accepted
  obtain ⟨earlier, after, hsplit⟩ := List.append_of_mem hmem
  obtain ⟨looked, read, marked, chosen, c, call', reply, rfl, hcall, sends,
      credentials, -, ending⟩ :=
    h.sends_of_sentBy hsplit hsent
  have quiet := sends.quiet_readCredentials credentials
  cases hcall
  rw [hsplit, List.append_assoc, List.singleton_append] at recorded
  rw [← sends.flag_failed_iff, ← flag_failed_markDispatched p marked chosen]
  rcases recorded.of_sent (saveStatus_not_mem_of_quiet quiet) with rfl
    | ⟨later, recorded⟩
  · rfl
  · obtain ⟨rfl, -⟩ := recorded.of_finish (by simp) ending
    rw [← flag_failed_afterSuccess p (p.markDispatched marked chosen) chosen
      (call.reported answer)]
    rfl

section Deleting

variable (hdel : p.resource.deletionRequested = true)

include hdel

/-- A deletion whose delete call was accepted ends with the status of its mark,
but for the count of failures. -/
theorem ObjectTeardown.onRecord_of_accepted {known : Status}
    (knows : p.Knows t₁ known id) (h : p.ObjectTeardown known id t₂ r)
    (accepted : p.Accepted (t₁ ++ t₂) action)
    (recorded : OnRecord (t₁ ++ t₂) r before s) :
    s.journal = known.journal := by
  have reads : p.readsObject = true := by simp [readsObject, hdel]
  have quiet : ∀ {t₃ : List PassEvent}
      {found : Except RemoteError (Status × Option LifecycleState)},
      (p.locate known id).Walk t₃ found → ∀ e ∈ t₁ ++ t₃, p.Quiet e :=
    fun located => List.forall_mem_append.mpr
      ⟨quiet_of_knows knows, quiet_of_walk_locate reads located⟩
  obtain ⟨call, answer, hmem, hsent⟩ := accepted
  have hidle :
      p.sentBy (.remote call (.answered answer)) ≠ none := by rw [hsent]; simp
  obtain ⟨earlier, after, hsplit⟩ := List.append_of_mem hmem
  -- in all courses but one no delete call is accepted: none is sent, or it
  -- fails
  cases h with
  | unread located _ ending | given located _ ending =>
    rw [← List.append_assoc] at hmem
    exact absurd
      (sentBy_eq_none_of_idle (quiet located) (ending_of_walk_finish ending)
        hmem) hidle
  | gone located _ ending =>
    rw [← List.append_assoc] at hmem
    exact absurd
      (sentBy_eq_none_of_idle (quiet located) (ending_of_walk_release ending)
        hmem) hidle
  | @unmarked _ marked _ error located _ =>
    rw [← List.append_assoc] at hmem
    have ending : Ending none
      [.store (.saveStatus (p.markDeleted marked)) (.error error)]
      (.error error) := .unstored
    exact absurd (sentBy_eq_none_of_idle (quiet located) ending hmem) hidle
  | vanished located _ _ ending =>
    rw [← List.append_assoc] at hsplit
    obtain ⟨-, hcall, -⟩ :=
      split_of_sentBy (quiet located) (ending_of_walk_release ending)
        hsplit hsent
    cases hcall
  | kept located _ failed _ ending =>
    rw [← List.append_assoc] at hsplit
    obtain ⟨-, hcall, -⟩ :=
      split_of_sentBy (quiet located) (ending_of_walk_finish ending)
        hsplit hsent
    cases hcall
    cases failed
  | deleted located _ ending =>
    rw [← List.append_assoc] at recorded
    have hmarked := journal_of_walk_locate located
    -- on record are the mark, and the status after the answer
    rcases recorded.of_sent (saveStatus_not_mem_of_quiet (quiet located))
      with rfl | ⟨later, recorded⟩
    · exact hmarked
    · obtain ⟨rfl, -⟩ := recorded.of_finish (by simp) ending
      exact hmarked

/-- A deletion whose delete call was accepted shows the failure that was shown
before, if there was one. -/
theorem Teardown.flag_failed_of_accepted (h : p.Teardown t r)
    (accepted : p.Accepted t action) (recorded : OnRecord t r before s) :
    s.flag ConditionType.failed
      = p.resource.status.flag ConditionType.failed := by
  have hidle : ∀ {e : PassEvent}, p.sentBy e = some action →
    p.sentBy e ≠ none := fun hsent => by rw [hsent]; simp
  cases h with
  | detached _ ending =>
    obtain ⟨call, answer, hmem, hsent⟩ := accepted
    have quiet : ∀ e ∈ ([] : List PassEvent), p.Quiet e := by simp
    exact absurd
      (sentBy_eq_none_of_idle quiet (ending_of_walk_release ending) hmem)
      (hidle hsent)
  | awaited _ identified ending =>
    obtain ⟨call, answer, hmem, hsent⟩ := accepted
    have quiet := quiet_of_walk_identify identified
    exact absurd
      (sentBy_eq_none_of_idle quiet (ending_of_walk_finish ending) hmem)
      (hidle hsent)
  | objectless _ identified _ ending =>
    obtain ⟨call, answer, hmem, hsent⟩ := accepted
    have quiet := quiet_of_walk_identify identified
    exact absurd
      (sentBy_eq_none_of_idle quiet (ending_of_walk_release ending) hmem)
      (hidle hsent)
  | known _ knows teardown =>
    have hsame :=
      (teardown.onRecord_of_accepted hdel knows accepted recorded).trans
        (journal_of_walk_identify knows.1)
    rw [Status.flag_eq_of_journal hsame]
    exact flag_failed_reportDeleting ..

end Deleting

/-- A pass whose action was accepted shows a failure exactly if it was shown
before, and was not cleared with an action that had failed. -/
theorem flag_failed_of_accepted (h : p.run.Walk t r)
    (accepted : p.Accepted t action) (recorded : OnRecord t r before s) :
    s.flag ConditionType.failed = some (flagText true)
      ↔ p.resource.status.flag ConditionType.failed = some (flagText true)
        ∧ (p.resource.deletionRequested = true
          ∨ p.resource.status.failedAction = none) := by
  cases hdel : p.resource.deletionRequested with
  | false =>
    rw [(course_of_walk hdel h).flag_failed_of_accepted accepted recorded]
    simp
  | true =>
    rw [(teardown_of_walk hdel h).flag_failed_of_accepted hdel
      accepted recorded]
    simp

end Pass

/-! ## Runs -/

/-- A drive keeps it that an action that failed for good is shown. -/
theorem Drive.ownsFailure (d : Drive) (h : d.pass.resource.status.OwnsFailure) :
    d.stored.OwnsFailure := by
  unfold Drive.stored
  rcases storedAfter_cases d.pass.resource.status d.trace with hsame | hsaved
  · rw [hsame]
    exact h
  · obtain ⟨before, entry⟩ := Pass.entry_of_saved_drive d.walk hsaved
    exact entry.ownsFailure h

/-- So do any number of drives. -/
theorem Drives.ownsFailure {s₀ s : Status} {drives : List Drive}
    (h : Drives s₀ drives s) (h₀ : s₀.OwnsFailure) : s.OwnsFailure :=
  (h.preserved h₀ fun d _ => d.ownsFailure).1

/-- **Failures are shown as long as they are on record.** A resource is driven
from a status in which an action that failed for good is shown, with passes that
succeed or fail, and without passes. Whatever a pass puts on record:

1. if it declines an action, since that failed for good before, then the
   resource is shown as failed and not as ready, whatever came in between; but
   of anything being under way it is said what was said before;
2. if the remote has accepted its action, then a failure is shown exactly if it
   was shown before, and was not that of an action that failed; that of an
   action is cleared unless the resource is being deleted. -/
theorem failure_shown {s₀ s : Status} {drives : List Drive}
    (shown : s₀.OwnsFailure) (h : Drives s₀ drives s) :
    ∀ d ∈ drives, ∀ r, d.driven = .passed r → ∀ action before s',
      Pass.OnRecord d.trace r before s' →
      (d.pass.Declines d.trace action →
        s'.phase = .failed ∧ s'.flag ConditionType.ready = some (flagText false)
          ∧ s'.flag ConditionType.failed = some (flagText true)
          ∧ s'.flag ConditionType.progressing
            = d.pass.resource.status.flag ConditionType.progressing)
      ∧ (d.pass.Accepted d.trace action →
        (s'.flag ConditionType.failed = some (flagText true)
          ↔ d.pass.resource.status.flag ConditionType.failed
            = some (flagText true)
            ∧ (d.pass.resource.deletionRequested = true
              ∨ d.pass.resource.status.failedAction = none))) := by
  intro d hd r hdriven action before s' recorded
  have walk : d.pass.run.Walk d.trace r := (hdriven ▸ d.driving).walk
  constructor
  · intro declines
    obtain ⟨hphase, hsame, haction⟩ :=
      Pass.declined_of_onRecord walk declines recorded
    obtain ⟨earlier, later, hsplit⟩ := List.append_of_mem hd
    have past : Drives s₀ earlier d.pass.resource.status :=
      h.before earlier d later hsplit
    have howns := past.ownsFailure shown
    obtain ⟨hready, hfailed⟩ := howns (by rw [haction]; rfl)
    refine ⟨hphase, ?_, ?_, ?_⟩
    · exact (Status.flag_eq_of_journal hsame _).trans hready
    · exact (Status.flag_eq_of_journal hsame _).trans hfailed
    · exact Status.flag_eq_of_journal hsame _
  · intro accepted
    exact Pass.flag_failed_of_accepted walk accepted recorded

/-- A drive that finds a small database that is to be larger. -/
def sizedDrive (status : Status) (seconds : Int)
    (failures : List (String × RemoteError)) : Drive :=
  .simulated Simulation.answer (.ofSized 2 status ⟨seconds, 0⟩) (.ok ())
    (.ok ()) (failingRemote failures)

/-- The update fails for good. -/
def refusedUpdate : Drive :=
  sizedDrive { identity := some "ocid1.adb.1" } 1700000000
    [("update", .permanent "cpuCoreCount out of range")]

/-- In the next pass the database cannot be read. -/
def missedRead : Drive :=
  sizedDrive refusedUpdate.stored 1700000060 [("get", .transient "timeout")]

/-- In the pass after that it is read, and the update is declined. -/
def declinedUpdate : Drive :=
  sizedDrive missedRead.stored 1700000120 []

/-- The database may not be read. -/
def refusedRead : Drive :=
  sizedDrive { identity := some "ocid1.adb.1" } 1700000000
    [("get", .permanent "not authorized")]

/-- In the next pass it is read, and the update is accepted. -/
def takenUpdate : Drive :=
  sizedDrive refusedRead.stored 1700000060 []

/-- The update of these drives. -/
def growth : CorrectiveAction :=
  .updateAttributes { cpuCoreCount := some 2 }

theorem declines_declinedUpdate :
    declinedUpdate.pass.Declines declinedUpdate.trace growth := by
  obtain ⟨rest, htrace⟩ : ∃ rest,
      declinedUpdate.trace
        = [.remote (.get "ocid1.adb.1") (.answered smallDatabase)] ++ rest :=
          ⟨_, rfl⟩
  exact ⟨rfl, _, _, _, htrace, ⟨_, .ask _ (.done _), rfl, rfl⟩, rfl⟩

theorem accepted_takenUpdate :
    takenUpdate.pass.Accepted takenUpdate.trace growth := by
  obtain ⟨marked, found, stored, htrace⟩ : ∃ marked found stored,
    takenUpdate.trace
      = [.remote (.get "ocid1.adb.1") (.answered smallDatabase), .saved marked,
        .remote (.update "ocid1.adb.1" { cpuCoreCount := some 2 })
          (.answered found), .saved stored] := ⟨_, _, _, rfl⟩
  refine ⟨.update "ocid1.adb.1" { cpuCoreCount := some 2 }, found, ?_, rfl⟩
  rw [htrace]
  simp

theorem drives_declinedUpdate :
    Drives { identity := some "ocid1.adb.1" } [refusedUpdate, missedRead,
      declinedUpdate] declinedUpdate.stored :=
  .cons rfl (.cons rfl (.cons rfl .start))

theorem drives_takenUpdate :
    Drives { identity := some "ocid1.adb.1" } [refusedRead, takenUpdate]
      takenUpdate.stored :=
  .cons rfl (.cons rfl .start)

/-- The update that is declined is shown as failed, and the one that is accepted
leaves the failure of the read. -/
theorem declined_and_taken_updates :
    (declinedUpdate.stored.phase = .failed
      ∧ declinedUpdate.stored.flag ConditionType.ready = some (flagText false)
      ∧ declinedUpdate.stored.flag ConditionType.failed = some (flagText true)
      ∧ declinedUpdate.stored.flag ConditionType.progressing
        = missedRead.stored.flag ConditionType.progressing)
      ∧ (takenUpdate.stored.flag ConditionType.failed = some (flagText true)
        ↔ refusedRead.stored.flag ConditionType.failed = some (flagText true)
          ∧ (takenUpdate.pass.resource.deletionRequested = true
            ∨ refusedRead.stored.failedAction = none)) := by
  have begins : Status.OwnsFailure { identity := some "ocid1.adb.1" } :=
    Pass.ownsFailure_of_none rfl
  obtain ⟨o, hdeclined, hstatus⟩ : ∃ o, declinedUpdate.driven = .passed (.ok o)
      ∧ o.status = declinedUpdate.stored :=
    ⟨_, rfl, rfl⟩
  obtain ⟨o', htaken, hstatus'⟩ : ∃ o, takenUpdate.driven = .passed (.ok o)
      ∧ o.status = takenUpdate.stored :=
    ⟨_, rfl, rfl⟩
  obtain ⟨hfailed, -⟩ :=
    failure_shown begins drives_declinedUpdate declinedUpdate
      (by simp) _ hdeclined growth _ _ (.ended rfl)
  obtain ⟨-, hleft⟩ := failure_shown begins drives_takenUpdate takenUpdate
    (by simp) _ htaken growth _ _ (.ended rfl)
  rw [hstatus] at hfailed
  rw [hstatus'] at hleft
  exact ⟨hfailed declines_declinedUpdate, hleft accepted_takenUpdate⟩

/-- The update that is declined is said to be under way, and the failure of the
read is shown after the update that was accepted. -/
theorem stale_progress_and_failure :
    (Drives { identity := some "ocid1.adb.1" }
        [refusedUpdate, missedRead, declinedUpdate] declinedUpdate.stored
      ∧ declinedUpdate.pass.Declines declinedUpdate.trace growth
      ∧ declinedUpdate.stored.flag ConditionType.progressing
        = some (flagText true))
      ∧ Drives { identity := some "ocid1.adb.1" } [refusedRead, takenUpdate]
        takenUpdate.stored
      ∧ takenUpdate.pass.Accepted takenUpdate.trace growth
      ∧ takenUpdate.stored.flag ConditionType.failed = some (flagText true) :=
  ⟨⟨drives_declinedUpdate, declines_declinedUpdate, by decide +kernel⟩,
    drives_takenUpdate, accepted_takenUpdate, by decide +kernel⟩

end DatabaseOperator
