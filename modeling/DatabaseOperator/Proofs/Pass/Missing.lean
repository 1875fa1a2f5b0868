import DatabaseOperator.Proofs.Deletion.Evidence
import DatabaseOperator.Proofs.Pass.Refusal
import DatabaseOperator.Proofs.Pluggable.Departure

/-!
# What is recorded as missing

A pass that does not find its object directly looks for it in the list. If that
does not show it either, the pass goes by what is on record: an action under way
whose object may still appear, or a removal, explains why it is not there.
Without an explanation the object is recorded as missing, the state as
terminated, and the mark of the action under way is dropped. Why the list does
not show the object makes no difference: it may not have been read, or its
filter may not let the object through.

- `Pass.Misses`: neither the direct read nor the list shows the object on
  record.
- `Pass.RecordsMissing`: the object is recorded as missing.
- `Pass.Unexplained`: nothing on record explains where the object is.
- `Pass.recordsMissing_iff_unexplained`: a pass that misses its object records
  it as missing if that is unexplained.
- `Pass.recorded_missing_unproven_iff`: when it does so although the object may
  well be there.
-/

namespace DatabaseOperator.Pass

variable {p : Pass} {s s' : Status} {id : String} {t : List PassEvent}
    {r : Except OperatorError Outcome} {reply : Reply (List Snapshot)}

/-! ## Missing an object -/

/-- The pass misses the object on record: the direct read does not find it, and
the list with this reply does not show it. -/
def Misses (p : Pass) (id : String) (t : List PassEvent)
    (reply : Reply (List Snapshot)) : Prop :=
  ∃ direct rest, t
    = .remote (.get id) direct :: .remote (.list p.resource.listFilter) reply
      :: rest
    ∧ direct.isNotFound = true ∧ listedAs id reply.items = none

/-- The object is recorded as missing: it is reported so and taken for
terminated, and no action is under way. -/
structure RecordsMissing (s : Status) : Prop where
  reported : ReportsMissing s
  terminated : s.lifecycleState = some .terminated
  unmarked : s.inFlight = none

/-- Nothing on record explains why the object is not there. No action is under
way whose object may still appear, and no removal is on record; a removal that
was sent but is not on record as completed does not count in the end. -/
structure Unexplained (p : Pass) (s : Status) : Prop where
  old : s.inFlight.any p.awaitsAppearance = false
  unremoved : removedState? (lastSignature s) = none
    ∨ removedState? (lastSignature s) = some .terminated
    ∧ teardownExpected (p.completeOneShot s) = false

theorem Misses.reads (h : p.Misses id t reply)
    (hid : p.resource.status.identity = some id) :
    ∃ e : RemoteError, e.isNotFound = true ∧ p.Reads id t (.failed e) none := by
  obtain ⟨direct, rest, rfl, hmissing, hnone⟩ := h
  cases direct with
  | answered found => cases hmissing
  | hung => cases hmissing
  | failed e =>
    have hconsulted : consultsList p.initialStatus
        (p.outcomeOf (.failed e : Reply Snapshot)) = true := by
      have habsent : e.isNotFound = true := hmissing
      simp [consultsList, habsent]
    exact ⟨e, hmissing, hnone ▸ .listed hid hconsulted⟩

/-! ## The record of it -/

theorem not_recordsMissing_of_phase (h : s.phase ≠ .failed) :
    ¬ RecordsMissing s :=
  fun recorded => h recorded.reported.1

/-- An object that nothing explains is recorded as missing at once. -/
theorem recordsMissing_afterMissing
    (old : s.inFlight.any p.awaitsAppearance = false)
    (unexplained : removedState? (lastSignature s) = none) :
    ∃ s' d, p.afterMissing s = .stop s' d ∧ RecordsMissing s' := by
  obtain ⟨⟨s', d, hstop, reported, terminated, unmarked⟩, -⟩ :=
    afterMissing_of_unexplained old unexplained
  exact ⟨s', d, hstop, reported, terminated, unmarked⟩

/-- Once the remote is not in the middle of a change, an action that is no
longer needed is forgotten. -/
theorem trackInFlight_none_of_settled
    (h : s.lifecycleState.any LifecycleState.isTransitional = false) :
    p.trackInFlight s none = .proceed { s with inFlight := none } := by
  unfold trackInFlight
  split
  next hunmarked => rw [← hunmarked]
  next =>
    simp only [Option.filter_none, h, Bool.false_eq_true, ↓reduceIte]

/-- Whether a removal is on record at the end depends on what is on record of
the object and of its actions. -/
theorem teardownExpected_completeOneShot (hid : s.identity = s'.identity)
    (hlast : s.lastCompletedAction = s'.lastCompletedAction) :
    teardownExpected (p.completeOneShot s)
      = teardownExpected (p.completeOneShot s') := by
  have hcompleted : (p.completeOneShot s).lastCompletedAction
      = (p.completeOneShot s').lastCompletedAction := by
    cases hrequest : p.resource.pdbRequest with
    | none =>
      unfold completeOneShot
      simp only [hrequest, hlast]
    | some request =>
      rw [lastCompletedAction_completeOneShot hrequest,
        lastCompletedAction_completeOneShot hrequest, hid, hlast]
  unfold teardownExpected
  rw [hcompleted]

theorem lifecycleState_completeOneShot (p : Pass) (s : Status) :
    (p.completeOneShot s).lifecycleState = s.lifecycleState := by
  unfold completeOneShot
  split
  next => split <;> rfl
  next => rfl

/-- A pass that takes its object for terminated records it as missing, unless a
removal is on record at the end. -/
theorem recordsMissing_settle_iff {d : Duration}
    (terminated : s.lifecycleState = some .terminated)
    (unmarked : s.inFlight = none) (h : (p.settle s).Walk t (s', d)) :
    RecordsMissing s' ↔ teardownExpected (p.completeOneShot s) = false := by
  have hexpected : teardownExpected (p.completeOneShot (p.forgetObstacles s))
      = teardownExpected (p.completeOneShot s) :=
    teardownExpected_completeOneShot (inherits_forgetObstacles p s).1
      (lastCompletedAction_forgetObstacles p s)
  have hseen : (p.completeOneShot (p.forgetObstacles s)).lifecycleState
      = some .terminated := by
    rw [lifecycleState_completeOneShot, lifecycleState_forgetObstacles,
      terminated]
  have hunmarked :
      (p.completeOneShot (p.forgetObstacles s)).inFlight = none := by
    have hkept := (inherits_completeOneShot p (p.forgetObstacles s)).trans
      (inherits_forgetObstacles p s)
    exact hkept.2.elim (fun hsame => hsame.trans unmarked) id
  have hreport :=
    reportState_terminated p (p.completeOneShot (p.forgetObstacles s))
  rw [hexpected] at hreport
  cases hremoved : teardownExpected (p.completeOneShot s) with
  | true =>
    rw [hremoved, if_pos rfl] at hreport
    obtain rfl := (settles_of_walk h).eq_of_reported hseen hreport
    exact iff_of_false (not_recordsMissing_of_phase nofun) nofun
  | false =>
    rw [hremoved, if_neg nofun] at hreport
    obtain rfl := (settles_of_walk h).eq_of_reported hseen hreport
    exact iff_of_true ⟨reportsMissing_reportFailed .., hseen, hunmarked⟩ rfl

/-- What settling makes of an unplugged object is not that it is missing. -/
theorem not_recordsMissing_settle {d : Duration}
    (unplugged : s.lifecycleState = some .unplugged)
    (h : (p.settle s).Walk t (s', d)) : ¬ RecordsMissing s' := by
  intro recorded
  have hstate : s'.lasting.lifecycleState = some .unplugged := by
    rw [lasting_of_walk_settle h]
    show (p.completeOneShot (p.forgetObstacles s)).lifecycleState
      = some .unplugged
    rw [lifecycleState_completeOneShot, lifecycleState_forgetObstacles,
      unplugged]
  cases hstate.symm.trans recorded.terminated

/-- A pass that takes its object for removed has nothing to do, and forgets the
action under way. -/
theorem Goes.settles_of_removed {signature : String} {state : LifecycleState}
    (hdel : p.resource.deletionRequested = false)
    (hid : p.resource.status.identity = some id)
    (removed : removedState? signature = some state)
    (h : p.Goes (.proceed { p.initialStatus with lifecycleState := some state })
      t r) :
    ∃ t₁ t₂ s' d, t = t₁ ++ t₂
      ∧ (p.settle { p.initialStatus with
        lifecycleState := some state, inFlight := none }).Walk t₁ (s', d)
      ∧ (p.quits s' d).Walk t₂ r := by
  have hgone : (some state).any LifecycleState.isTerminal = true
      ∧ (some state).any LifecycleState.isTransitional = false := by
    rcases removedState?_cases removed with rfl | rfl <;> exact ⟨rfl, rfl⟩
  have hknown :
      ({ p.initialStatus with lifecycleState := some state } :
      Status).identity.isSome = true := by
    rw [show
      ({ p.initialStatus with lifecycleState := some state } : Status).identity
        = some id from hid]
    rfl
  cases h with
  | acts needed =>
    rw [ManagedResource.nextAction?_of_terminal hdel hknown hgone.1] at needed
    cases needed
  | settles _ free settling ending =>
    rw [trackInFlight_none_of_settled hgone.2] at free
    cases free
    exact ⟨_, _, _, _, rfl, settling, ending⟩

/-- A pass that misses its object goes on by what is on record. -/
theorem goes_of_misses (hdel : p.resource.deletionRequested = false)
    (hid : p.resource.status.identity = some id) (h : p.run.Walk t r)
    (misses : p.Misses id t reply) :
    ∃ looked rest, t = looked ++ rest ∧ (∀ e ∈ looked, p.Quiet e)
      ∧ p.Goes (p.afterMissing p.initialStatus) rest r := by
  obtain ⟨e, absent, reads⟩ := misses.reads hid
  obtain ⟨looked, rest, rfl, quiet, goes⟩ := rest_of_reads hdel h reads
  have hmerge : p.mergeReads p.initialStatus (p.outcomeOf (.failed e)) none
      = p.afterMissing p.initialStatus := by
    simp only [mergeReads, outcomeOf_failed]
    exact if_pos absent
  rw [hmerge] at goes
  exact ⟨looked, rest, rfl, quiet, goes⟩

/-- A pass that misses its object records it as missing exactly if nothing on
record explains where it is. -/
theorem recordsMissing_iff_unexplained {o : Outcome}
    (hdel : p.resource.deletionRequested = false)
    (hid : p.resource.status.identity = some id) (h : p.run.Walk t (.ok o))
    (misses : p.Misses id t reply) :
    RecordsMissing o.status ↔ p.Unexplained p.resource.status := by
  obtain ⟨looked, rest, rfl, -, goes⟩ := goes_of_misses hdel hid h misses
  -- either an action under way gives the object time, or the removal on record
  -- decides
  by_cases old : p.initialStatus.inFlight.any p.awaitsAppearance = false
  · cases hremoved : removedState? (lastSignature p.initialStatus) with
    | none =>
      obtain ⟨s', d, hstop, recorded⟩ :=
        recordsMissing_afterMissing old hremoved
      rw [hstop] at goes
      cases goes with
      | ends ending =>
        rw [ended_of_walk_finish ending]
        exact iff_of_true recorded ⟨old, .inl hremoved⟩
    | some state =>
      rw [afterMissing_eq_proceed_iff.mpr ⟨old, state, hremoved, rfl⟩] at goes
      obtain ⟨t₁, t₂, s', d, -, settling, ending⟩ :=
        goes.settles_of_removed hdel hid hremoved
      rw [ended_of_walk_finish ending]
      rcases removedState?_cases hremoved with rfl | rfl
      · -- an unplugged object is never reported as missing, a terminated one if
        -- its removal was not expected
        refine iff_of_false (not_recordsMissing_settle rfl settling) ?_
        rintro ⟨-, hnone | ⟨hother, -⟩⟩
        · cases hremoved.symm.trans hnone
        · cases hremoved.symm.trans hother
      · have hsettled : RecordsMissing s'
            ↔ teardownExpected (p.completeOneShot p.resource.status) = false :=
          (recordsMissing_settle_iff rfl rfl settling).trans
            (by rw [teardownExpected_completeOneShot] <;> rfl)
        refine hsettled.trans
          ⟨fun hexpected => ⟨old, .inr ⟨hremoved, hexpected⟩⟩, ?_⟩
        rintro ⟨-, hnone | ⟨-, hexpected⟩⟩
        · cases hremoved.symm.trans hnone
        · exact hexpected
  · -- the object of an action under way may still appear
    have hstop : ∃ s' d, p.afterMissing p.initialStatus = .stop s' d
        ∧ s'.phase = .provisioning := by
      unfold afterMissing
      rw [if_pos (by simpa using old)]
      exact ⟨_, _, rfl, rfl⟩
    obtain ⟨s', d, hstop, hphase⟩ := hstop
    rw [hstop] at goes
    cases goes with
    | ends ending =>
      rw [ended_of_walk_finish ending]
      refine iff_of_false (not_recordsMissing_of_phase ?_) fun unexplained =>
        old unexplained.old
      show s'.phase ≠ .failed
      rw [hphase]
      nofun

/-! ## What was not shown -/

/-- The pass misses an object that is not there: the list was read, and the
index behind it holds no such object. -/
def ShownAbsent (p : Pass) (id : String) (index : List Snapshot)
    (t : List PassEvent) : Prop :=
  ∃ items, p.Misses id t (.answered items) ∧ ∀ object ∈ index, object.id ≠ id

/-- The pass misses an object that may be there: the list was not read, or the
index behind it holds the object. -/
def MissesUnproven (p : Pass) (id : String) (index : List Snapshot)
    (t : List PassEvent) : Prop :=
  ∃ reply, p.Misses id t reply
    ∧ ((∀ items, reply ≠ .answered items) ∨ ∃ object ∈ index, object.id = id)

theorem Misses.unique {reply' : Reply (List Snapshot)} (h : p.Misses id t reply)
    (h' : p.Misses id t reply') : reply = reply' := by
  obtain ⟨_, _, rfl, -, -⟩ := h
  obtain ⟨_, _, htrace, -, -⟩ := h'
  cases htrace
  rfl

/-- What a pass misses is shown to be absent, or may be there. -/
theorem Misses.unproven_iff (h : p.Misses id t reply) (index : List Snapshot) :
    p.MissesUnproven id index t ↔ ¬ p.ShownAbsent id index t := by
  constructor
  · rintro ⟨reply, misses, hunproven⟩ ⟨items, misses', habsent⟩
    obtain rfl := misses.unique misses'
    rcases hunproven with hunread | ⟨object, hobject, hid⟩
    · exact hunread items rfl
    · exact habsent object hobject hid
  · intro hunshown
    refine ⟨reply, h, ?_⟩
    by_cases hread : ∃ items, reply = .answered items
    · obtain ⟨items, rfl⟩ := hread
      refine .inr (Classical.byContradiction fun hnone =>
        hunshown ⟨items, h, fun object hobject hid => ?_⟩)
      exact hnone ⟨object, hobject, hid⟩
    · exact .inl fun items hitems => hread ⟨items, hitems⟩

/-- **What is recorded as missing without proof.** A pass over a resource that
stays, and whose object is on record, records the object as missing since it
neither finds nor lists it, without having been shown that the object is not
there, exactly if

1. the pass misses the object, and the list could not be read or the index
   behind it holds the object; and
2. nothing on record explains where the object is. -/
theorem recorded_missing_unproven_iff {o : Outcome}
    (hdel : p.resource.deletionRequested = false)
    (hid : p.resource.status.identity = some id) (h : p.run.Walk t (.ok o))
    (index : List Snapshot) :
    (RecordsMissing o.status ∧ ∃ reply, p.Misses id t reply)
      ∧ ¬ p.ShownAbsent id index t
      ↔ p.MissesUnproven id index t ∧ p.Unexplained p.resource.status := by
  constructor
  · rintro ⟨⟨recorded, reply, misses⟩, hunshown⟩
    exact ⟨(misses.unproven_iff index).mpr hunshown,
      (recordsMissing_iff_unexplained hdel hid h misses).mp recorded⟩
  · rintro ⟨⟨reply, misses, hdoubt⟩, unexplained⟩
    have recorded :=
      (recordsMissing_iff_unexplained hdel hid h misses).mpr unexplained
    exact ⟨⟨recorded, reply, misses⟩,
      (misses.unproven_iff index).mp ⟨reply, misses, hdoubt⟩⟩

/-- A pass over a database that runs, to which an update was sent just
before. -/
def updatedPass : Pass :=
  .ofSized 4
    { identity := some "ocid1.adb.1"
      lifecycleState := some .available
      inFlight := some
        { signature :=
            (CorrectiveAction.updateAttributes
              { cpuCoreCount := some 4 }).signature
          since := "2023-11-14T22:13:20Z" } }
    ⟨1700000030, 0⟩

/-- A database that is listed under another name is recorded as missing, though
it is in the index. -/
theorem renamed_database_recorded_missing :
    ∃ o, updatedPass.run.Walk
        (updatedPass.run.transcript Simulation.answer
          (laggingRemote (liveDatabase "orders") none)) (.ok o)
      ∧ RecordsMissing o.status
      ∧ ¬ updatedPass.ShownAbsent "ocid1.adb.1" [liveDatabase "orders"]
        (updatedPass.run.transcript Simulation.answer
          (laggingRemote (liveDatabase "orders") none)) := by
  obtain ⟨after, htrace⟩ : ∃ after, updatedPass.run.transcript Simulation.answer
        (laggingRemote (liveDatabase "orders") none)
      = [.remote (.get "ocid1.adb.1") (.failed (.notFound "ocid1.adb.1")),
        .remote (.list { displayName := some "sales" }) (.answered []),
        .saved after] := ⟨_, rfl⟩
  have hwalk := Program.walk_transcript Simulation.answer updatedPass.run
    (laggingRemote (liveDatabase "orders") none)
  obtain ⟨o, ho⟩ :
    ∃ o, (updatedPass.run.interpret Simulation.answer
      (laggingRemote (liveDatabase "orders") none)).1
      = .ok o := ⟨_, rfl⟩
  rw [ho] at hwalk
  have hunproven : updatedPass.MissesUnproven "ocid1.adb.1"
      [liveDatabase "orders"]
      (updatedPass.run.transcript Simulation.answer
        (laggingRemote (liveDatabase "orders") none)) := by
    rw [htrace]
    exact ⟨.answered [], ⟨_, _, rfl, rfl, rfl⟩,
      .inr ⟨liveDatabase "orders", List.mem_singleton_self _, rfl⟩⟩
  have hunexplained : updatedPass.Unexplained updatedPass.resource.status :=
    ⟨rfl, .inl rfl⟩
  obtain ⟨⟨recorded, -⟩, hunshown⟩ :=
    (recorded_missing_unproven_iff rfl rfl hwalk _).mpr
      ⟨hunproven, hunexplained⟩
  exact ⟨o, hwalk, recorded, hunshown⟩

/-- So is a database that runs, and whose update is under way, when the list
cannot be read. -/
theorem live_database_recorded_missing_of_unread_list :
    ∃ t o, updatedPass.run.Walk t (.ok o) ∧ RecordsMissing o.status
      ∧ ¬ updatedPass.ShownAbsent "ocid1.adb.1" [liveDatabase "sales"] t := by
  refine ⟨_, _, Program.walk_transcript Simulation.answer updatedPass.run
    (laggingRemote (liveDatabase "sales") (some (.transient "timeout"))),
    ⟨reportsMissing_reportFailed .., rfl, rfl⟩, ?_⟩
  rintro ⟨items, ⟨direct, rest, htrace, -, -⟩, -⟩
  cases htrace

end DatabaseOperator.Pass
