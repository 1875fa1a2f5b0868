import DatabaseOperator.Proofs.Pass.Confirmation
import DatabaseOperator.Proofs.Pass.Missing

/-!
# Direct reads that lag behind the list

The list is consulted beside a direct read only while an action is under way, or
after reads that disagreed. So a direct read that lags behind deceives a pass as
soon as the action is confirmed. The pass after an update sees in the list that
the update has happened, takes the attributes from there, and drops the mark;
the next one reads the old attributes, takes them for the confirmed ones, and
sends the update again. Its mark brings the list back, and so on.

- `ManagedResource.AsksAttributes`: of an object that runs only its attributes
  are asked.
- `Pass.Lags`: what a pass is told while the direct read lags behind.
- `Pass.confirms_of_lags`: a pass that begins with a mark is told the truth, and
  drops the mark.
- `Pass.Misled`, `Pass.misled_of_lags`: a pass that begins without one goes by
  the old attributes.
- `update_repeated_iff_unmarked`: the passes of a run that do so.
- `update_repeated_by_lagging_read`: two passes after an update it is sent
  again.
-/

namespace DatabaseOperator

namespace RemoteAttributes

variable {desired confirmed other : RemoteAttributes}

/-- If nothing is confirmed, everything that is declared is a change. -/
theorem changesFrom_none (desired : RemoteAttributes) :
    desired.changesFrom none = desired := by
  have hchanged : ∀ {α : Type} [DecidableEq α] (a : Option α),
      changed a Option.none = a := by
    intro α _ a
    cases a <;> simp [changed]
  simp only [changesFrom, none, hchanged]

/-- If nothing is declared, nothing is a change. -/
theorem none_changesFrom (confirmed : RemoteAttributes) :
    none.changesFrom confirmed = none := by
  simp only [changesFrom, none, changed_none]

/-- What meets a declaration that something else does not meet is something. -/
theorem isEmpty_of_met (met : (desired.changesFrom confirmed).isEmpty = true)
    (unmet : (desired.changesFrom other).isEmpty = false) :
    confirmed.isEmpty = false := by
  cases hempty : confirmed.isEmpty with
  | false => rfl
  | true =>
    have hnone : confirmed = none := by simpa [isEmpty] using hempty
    rw [hnone, changesFrom_none] at met
    have hdesired : desired = none := by simpa [isEmpty] using met
    rw [hdesired, none_changesFrom] at unmet
    cases unmet

end RemoteAttributes

namespace ManagedResource

variable {r : ManagedResource} {s : Status}

/-- Of an object that runs nothing is asked but its attributes. -/
structure AsksAttributes (r : ManagedResource) : Prop where
  stays : r.deletionRequested = false
  plain : r.pdbRequest = none
  running : ∀ s : Status, s.lifecycleState = some .available →
    r.stateAction? s = none

/-- Then what comes next for an object that runs is the change of its
attributes, if they differ. -/
theorem AsksAttributes.nextAction?_eq (h : r.AsksAttributes)
    (hid : s.identity.isSome = true)
    (hstate : s.lifecycleState = some .available) :
    r.nextAction? s = r.attributesAction? s := by
  obtain ⟨id, hid⟩ := Option.isSome_iff_exists.mp hid
  have honeShot : r.oneShotAction? s = none := by
    unfold oneShotAction?
    rw [h.plain]
  simp [nextAction?, h.stays, hid, hstate, LifecycleState.isTerminal,
    h.running s hstate, honeShot]

/-- The same is asked by another spec that declares the same. -/
theorem AsksAttributes.of_asksAs {r' : ManagedResource} (h : r.AsksAttributes)
    (same : r'.AsksAs r) (stays : r'.deletionRequested = false) :
    r'.AsksAttributes where
  stays := stays
  plain := same.pdbRequest.trans h.plain
  running s hstate := by
    rw [← h.running s hstate]
    simp only [stateAction?, same.desiredState]

end ManagedResource

namespace Pass

variable {p : Pass} {s seen : Status} {id : String} {stale : Snapshot}
    {t t₁ rest : List PassEvent} {r : Except OperatorError Outcome}

/-! ## What is told -/

/-- The direct read lags behind the list: it answers that the object runs and
has attributes other than the declared ones, and every list that is read shows
the object running with the declared ones. -/
structure Lags (p : Pass) (id : String) (stale : Snapshot)
    (t : List PassEvent) : Prop where
  read : ∀ reply, .remote (.get id) reply ∈ t → reply = .answered stale
  running : stale.state = .available
  reported : stale.attributes.isEmpty = false
  behind : (p.resource.desiredAttributes.changesFrom stale.attributes).isEmpty
    = false
  listed : ∀ filter reply, .remote (.list filter) reply ∈ t →
    ∃ fresh, listedAs id reply.items = some fresh ∧ fresh.state = .available
      ∧ (p.resource.desiredAttributes.changesFrom fresh.attributes).isEmpty
        = true

/-- The update that is needed by the direct read. -/
def overdue (p : Pass) (stale : Snapshot) : CorrectiveAction :=
  .updateAttributes (p.resource.desiredAttributes.changesFrom stale.attributes)

/-- Where no action is requested, the ending of a pass forgets what was in its
way, and changes nothing else that lasts. -/
theorem lasting_of_walk_settle_plain {settled : Status × Duration}
    (plain : p.resource.pdbRequest = none) (h : (p.settle s).Walk t settled) :
    settled.1.lasting
      = { s with waiting := none, failedAction := none }.lasting := by
  have hcompleted :
      p.completeOneShot (p.forgetObstacles s) = p.forgetObstacles s := by
    unfold completeOneShot
    rw [plain]
  have hforgot := congrArg Status.lasting (facts_forgetObstacles p s)
  rw [lasting_of_walk_settle h, hcompleted]
  exact hforgot

/-- What becomes of a pass that goes by the old attributes. -/
inductive Misled (p : Pass) (stale : Snapshot) (t : List PassEvent) : Prop where
  /-- The update is on record as one that failed for good. -/
  | declined
      (failed :
        p.resource.status.failedAction = some (p.overdue stale).signature)
      (idle : p.actionsSent t = [])
      (stored : ∀ s, .saved s ∈ t → s = declineFailed (p.reread stale))
  /-- The mark of the update cannot be stored. -/
  | unmarked
      (fresh :
        p.resource.status.failedAction ≠ some (p.overdue stale).signature)
      (idle : p.actionsSent t = []) (unstored : ∀ s, .saved s ∉ t)
  /-- The update is sent again. -/
  | sent {marked : Status}
      (fresh :
        p.resource.status.failedAction ≠ some (p.overdue stale).signature)
      (again : p.actionsSent t = [p.overdue stale]) (mem : .saved marked ∈ t)
      (old : marked.snapshot = some stale.attributes)
      (calm : marked.consistencyRetries = 0)
      (stored : ∀ s, .saved s ∈ t →
        s = marked
          ∨ ∃ answer, s = (p.afterAnswer marked (p.overdue stale) answer).1)

/-- An update needs no credentials. -/
theorem walk_readCredentials_update {changes : RemoteAttributes}
    {credentials : Except OperatorError Credentials}
    (h : (p.readCredentials (.updateAttributes changes)).Walk t credentials) :
    t = [] ∧ credentials = .ok {} := by
  unfold readCredentials at h
  simp only [CorrectiveAction.createsObject, Bool.false_eq_true, ↓reduceIte]
    at h
  exact Program.walk_pure_iff.mp h

theorem consistencyRetries_afterAnswer (p : Pass) (s : Status)
    (action : CorrectiveAction)
    (answer : Except RemoteError (Option Snapshot)) :
    (p.afterAnswer s action answer).1.consistencyRetries
      = s.consistencyRetries := by
  cases answer with
  | ok found =>
    cases action with
    | pdb request =>
      obtain ⟨kind⟩ := request
      cases kind <;> cases found <;> rfl
    | provision | bind | updateAttributes | changeState | delete =>
      cases found <;> rfl
  | error e =>
    show (p.afterFailure s action e).1.consistencyRetries = s.consistencyRetries
    unfold afterFailure
    simp only
    cases action.createsObject && e.errorClass == .transient
      <;> cases e.errorClass <;> rfl

section Lagging

variable (hid : p.resource.status.identity = some id) (lags : p.Lags id stale t)

include hid lags

/-- With an action under way the pass goes by the list. -/
theorem reread_of_marked {step : Step} (hsub : ∀ e ∈ t₁, e ∈ t)
    (marked : p.resource.status.inFlight.isSome = true)
    (h : (p.observeRemote p.initialStatus).Walk t₁ step) :
    ∃ fresh, step = .proceed (p.reread fresh) ∧ fresh.state = .available
      ∧ fresh.attributes.isEmpty = false
      ∧ (p.resource.desiredAttributes.changesFrom fresh.attributes).isEmpty
        = true := by
  obtain ⟨direct, listed, reads, rfl⟩ := reads_of_walk_observeRemote hid h []
  rw [List.append_nil] at reads
  obtain rfl := lags.read direct (hsub _ reads.direct_mem)
  cases reads with
  | alone _ unconsulted =>
    have hmarked : p.initialStatus.inFlight.isSome = true := marked
    simp [consultsList, hmarked] at unconsulted
  | @listed _ reply _ _ _ =>
    obtain ⟨fresh, hlisted, hstate, hmet⟩ :=
      lags.listed p.resource.listFilter reply (hsub _ (by simp))
    have hfresh := RemoteAttributes.isEmpty_of_met hmet lags.behind
    refine ⟨fresh, ?_, hstate, hfresh, hmet⟩
    rw [hlisted]
    -- the reads agree on the state, and the list has attributes
    show (if stale.state = fresh.state
      then Step.proceed (p.reread (fresher stale (some fresh))) else _) = _
    rw [if_pos (lags.running.trans hstate.symm)]
    simp only [fresher, hfresh, Bool.false_eq_true, ↓reduceIte]

/-- Without one it goes by the direct read. -/
theorem reread_of_unmarked {step : Step} (hsub : ∀ e ∈ t₁, e ∈ t)
    (unmarked : p.resource.status.inFlight = none)
    (calm : p.resource.status.consistencyRetries = 0)
    (h : (p.observeRemote p.initialStatus).Walk t₁ step) :
    step = .proceed (p.reread stale) := by
  obtain ⟨direct, listed, reads, rfl⟩ := reads_of_walk_observeRemote hid h []
  rw [List.append_nil] at reads
  obtain rfl := lags.read direct (hsub _ reads.direct_mem)
  cases reads with
  | alone => rfl
  | listed _ consulted =>
    have hunmarked : p.initialStatus.inFlight = none := unmarked
    have hcalm : p.initialStatus.consistencyRetries = 0 := calm
    simp [consultsList, hunmarked, hcalm] at consulted

variable (asks : p.resource.AsksAttributes) (h : p.run.Walk t r)

include asks h

/-- A pass that begins with an action under way sends nothing. What it stores
holds attributes that meet the declaration, and no mark. -/
theorem confirms_of_lags (marked : p.resource.status.inFlight.isSome = true) :
    p.actionsSent t = [] ∧ ∀ s, .saved s ∈ t →
      s.inFlight = none ∧ s.consistencyRetries = 0
      ∧ ∃ attributes, s.snapshot = some attributes
        ∧ (p.resource.desiredAttributes.changesFrom attributes).isEmpty
          = true := by
  obtain ⟨t₁, rest, step, rfl, observed, goes⟩ :=
    (course_of_walk asks.stays h).observes
  obtain ⟨fresh, rfl, hstate, hfresh, hmet⟩ :=
    reread_of_marked hid lags (fun e he => List.mem_append_left _ he)
      marked observed
  have hsnapshot : (p.reread fresh).snapshot = some fresh.attributes := by
    simp [reread, observe, hfresh]
  have hknown : (p.reread fresh).identity = some id :=
    (inherits_of_walk_observeRemote hid observed).1.trans hid
  have hrunning : (p.reread fresh).lifecycleState = some .available :=
    congrArg some hstate
  -- by what the list shows, nothing is needed any more
  have hidle : p.resource.nextAction? (p.reread fresh) = none := by
    rw [asks.nextAction?_eq (by rw [hknown]; rfl) hrunning]
    simp [ManagedResource.attributesAction?, hsnapshot, hmet]
  cases goes with
  | acts needed =>
    rw [hidle] at needed
    cases needed
  | @settles _ s s' d t₂ t₃ _ _ free settling ending =>
    rw [trackInFlight_none_of_settled (by rw [hrunning]; rfl)] at free
    cases free
    have quiet : ∀ e ∈ t₁ ++ t₂, p.Quiet e :=
      List.forall_mem_append.mpr ⟨quiet_of_walk_observeRemote observed,
        quiet_of_walk_settle settling⟩
    rw [← List.append_assoc]
    refine ⟨actionsSent_of_idle quiet (ending_of_walk_finish ending),
      fun stored hs => ?_⟩
    obtain rfl := eq_of_saved_mem_quits quiet ending hs
    have hkept := lasting_of_walk_settle_plain asks.plain settling
    exact ⟨congrArg Status.inFlight hkept,
      congrArg Status.consistencyRetries hkept, fresh.attributes,
      (congrArg Status.snapshot hkept).trans hsnapshot, hmet⟩

omit lags asks h in
theorem identity_reread (found : Snapshot) :
    (p.reread found).identity = some id := by
  have hinit :
      { p.initialStatus with consistencyRetries := 0 }.identity = some id := hid
  exact identity_observe_of_some hinit found

omit hid asks h in
theorem snapshot_reread :
    (p.reread stale).snapshot = some stale.attributes := by
  simp [reread, observe, lags.reported]

omit h in
/-- By the old attributes the update is needed. -/
theorem nextAction?_of_lags :
    p.resource.nextAction? (p.reread stale) = some (p.overdue stale) := by
  have hrunning : (p.reread stale).lifecycleState = some .available :=
    congrArg some lags.running
  rw [asks.nextAction?_eq (by rw [identity_reread hid]; rfl) hrunning]
  simp [ManagedResource.attributesAction?, snapshot_reread lags,
    lags.behind, overdue]

omit asks h in
/-- Its precondition holds: the database runs. -/
theorem check_of_lags :
    check (p.forgetFailed (p.reread stale)) (p.overdue stale) = .met := by
  have hrunning : (p.reread stale).lifecycleState = some .available :=
    congrArg some lags.running
  unfold check
  rw [lifecycleState_forgetFailed, (inherits_forgetFailed p (p.reread stale)).1,
    identity_reread hid, hrunning]
  rfl

variable (unmarked : p.resource.status.inFlight = none)
    (calm : p.resource.status.consistencyRetries = 0)

include unmarked calm

omit h in
/-- A pass that begins without a mark chooses the update and nothing else. -/
theorem eq_of_chooses {needed : Option CorrectiveAction}
    (hsub : ∀ e ∈ t₁, e ∈ t) (chosen : p.Chooses t₁ s needed) :
    s = p.reread stale ∧ needed = some (p.overdue stale) := by
  obtain ⟨seen, observed, rfl, free⟩ := chosen
  cases reread_of_unmarked hid lags hsub unmarked calm observed
  have hunmarked : (p.reread stale).inFlight = none := unmarked
  rw [trackInFlight_of_unmarked hunmarked] at free
  cases free
  exact ⟨rfl, nextAction?_of_lags hid lags asks⟩

/-- Such a pass goes by the old attributes. -/
theorem misled_of_lags : p.Misled stale t := by
  -- whatever the pass comes to choose is the update, by the old attributes
  have hchosen : ∀ {t₁ s needed}, (∀ e ∈ t₁, e ∈ t) → p.Chooses t₁ s needed →
      s = p.reread stale ∧ needed = some (p.overdue stale) :=
    fun hsub chosen => eq_of_chooses hid lags asks unmarked calm hsub chosen
  have hmet := check_of_lags hid lags
  -- that leaves three courses: the update is declined, or its mark is refused,
  -- or it is sent
  cases course_of_walk asks.stays h with
  | stopped observed =>
    cases reread_of_unmarked hid lags (fun e he => List.mem_append_left _ he)
      unmarked calm observed
  | held observed held =>
    cases reread_of_unmarked hid lags (fun e he => List.mem_append_left _ he)
      unmarked calm observed
    have hunmarked : (p.reread stale).inFlight = none := unmarked
    rw [trackInFlight_of_unmarked hunmarked] at held
    cases held
  | settled chosen =>
    cases (hchosen (fun e he => List.mem_append_left _ he) chosen).2
  | declined chosen failed ending =>
    obtain ⟨rfl, haction⟩ :=
      hchosen (fun e he => List.mem_append_left _ he) chosen
    cases haction
    have quiet := quiet_of_chooses chosen
    exact .declined failed
      (actionsSent_of_idle quiet (ending_of_walk_finish ending))
      fun s hs => eq_of_saved_mem_quits quiet ending hs
  | waited chosen _ unmet =>
    -- the database runs, so that the precondition holds
    obtain ⟨rfl, haction⟩ :=
      hchosen (fun e he => List.mem_append_left _ he) chosen
    cases haction
    rw [hmet] at unmet
    cases unmet
  | illegal chosen _ noRule =>
    obtain ⟨rfl, haction⟩ :=
      hchosen (fun e he => List.mem_append_left _ he) chosen
    cases haction
    rw [hmet] at noRule
    cases noRule
  | uncredited sends credentials =>
    -- an update reads no Secrets
    obtain ⟨chosen, hchosen', -⟩ := sends
    obtain ⟨-, haction⟩ :=
      hchosen (fun e he => List.mem_append_left _ he) hchosen'
    cases haction
    cases (walk_readCredentials_update credentials).2
  | @unmarked t₁ t₂ _ _ _ error sends credentials =>
    -- the refused mark is the only status given to the store
    have quiet := sends.quiet_readCredentials credentials
    obtain ⟨chosen, hchosen', fresh, -, rfl⟩ := sends
    obtain ⟨rfl, haction⟩ :=
      hchosen (fun e he => List.mem_append_left _ he) hchosen'
    cases haction
    rw [← List.append_assoc]
    refine .unmarked fresh ?_ fun s hs => ?_
    · rw [actionsSent_append, actionsSent_of_quiet quiet]
      rfl
    · exact absurd hs
        (saved_not_mem_append_refused (saveStatus_not_mem_of_quiet quiet))
  | @sent t₁ t₂ t₃ _ _ c call reply _ sends credentials target ending =>
    -- two statuses are stored: the mark, and the one after the answer
    have quiet := sends.quiet_readCredentials credentials
    obtain ⟨chosen, hchosen', fresh, -, rfl⟩ := sends
    obtain ⟨rfl, haction⟩ :=
      hchosen (fun e he => List.mem_append_left _ he) hchosen'
    cases haction
    have hforgot := facts_forgetFailed p (p.reread stale)
    obtain ⟨id', -, rfl⟩ := Option.map_eq_some_iff.mp target
    rw [← List.append_assoc]
    refine .sent fresh ?_ (List.mem_append_right _ (List.mem_cons_self ..)) ?_
      ?_ fun s hs => ?_
    · rw [actionsSent_append, actionsSent_of_quiet quiet, actionsSent_cons,
        actionsSent_cons, (ending_of_walk_finish ending).actionsSent]
      rfl
    · exact (congrArg Status.snapshot hforgot).trans (snapshot_reread lags)
    · exact congrArg Status.consistencyRetries hforgot
    · exact (eq_of_saved_mem_sent (saveStatus_not_mem_of_quiet quiet) ending
        hs).imp_right fun hlast => ⟨_, hlast⟩

end Lagging

/-- It sends the update exactly if that has not failed for good and its mark can
be stored. -/
theorem Misled.sends_iff (h : p.Misled stale t) :
    (∃ changes, .updateAttributes changes ∈ p.actionsSent t)
      ↔ p.resource.status.failedAction ≠ some (p.overdue stale).signature
      ∧ ∃ s, .saved s ∈ t := by
  cases h with
  | declined failed idle => simp [idle, failed]
  | unmarked _ idle unstored => simp [idle, unstored]
  | sent fresh again mem =>
    refine iff_of_true
      ⟨p.resource.desiredAttributes.changesFrom stale.attributes, ?_⟩
      ⟨fresh, _, mem⟩
    rw [again]
    exact List.mem_singleton_self _

/-- It stores the old attributes if it stores anything. -/
theorem Misled.stores_iff (h : p.Misled stale t) (lags : p.Lags id stale t) :
    (∃ s, .saved s ∈ t ∧ s.snapshot = some stale.attributes)
      ↔ ∃ s, .saved s ∈ t := by
  cases h with
  | declined _ _ stored =>
    refine ⟨fun ⟨s, hs, _⟩ => ⟨s, hs⟩, fun ⟨s, hs⟩ => ⟨s, hs, ?_⟩⟩
    rw [stored s hs]
    exact snapshot_reread lags
  | unmarked _ _ unstored => simp [unstored]
  | sent _ _ mem old => exact iff_of_true ⟨_, mem, old⟩ ⟨_, mem⟩

/-! ## What is left behind -/

/-- The object is on record, and unless an action is under way the reads have
not disagreed. -/
structure Steady (id : String) (s : Status) : Prop where
  known : s.identity = some id
  calm : s.inFlight.isSome = true ∨ s.consistencyRetries = 0

/-- A pass that begins so leaves it so. -/
theorem steady_of_lags (begins : Steady id p.resource.status)
    (lags : p.Lags id stale t) (asks : p.resource.AsksAttributes)
    (h : p.run.Walk t r) (hs : .saved s ∈ t) : Steady id s := by
  refine ⟨identity_of_saved begins.known h hs, .inr ?_⟩
  -- a mark is dropped together with the count; without one the pass goes by the
  -- old attributes, and stores what it begins with
  cases hmark : p.resource.status.inFlight with
  | some pending =>
    obtain ⟨-, hstored⟩ :=
      confirms_of_lags begins.known lags asks h (by rw [hmark]; rfl)
    exact (hstored s hs).2.1
  | none =>
    have hcalm : p.resource.status.consistencyRetries = 0 :=
      begins.calm.resolve_left (by rw [hmark]; nofun)
    cases misled_of_lags begins.known lags asks h hmark hcalm with
    | declined _ _ stored =>
      rw [stored s hs]
      rfl
    | unmarked _ _ unstored => exact absurd hs (unstored s)
    | sent _ _ _ _ calm stored =>
      rcases stored s hs with rfl | ⟨answer, rfl⟩
      · exact calm
      · rw [consistencyRetries_afterAnswer, calm]

/-- Whoever sends an update asks nothing else of an object that runs. -/
theorem Sends.asksAttributes {changes : RemoteAttributes}
    (stays : p.resource.deletionRequested = false)
    (plain : p.resource.pdbRequest = none)
    (h : p.Sends t s (.updateAttributes changes)) :
    p.resource.AsksAttributes := by
  obtain ⟨row, hrow, holds⟩ := h.row
  have hknown : s.identity.isSome = true :=
    Precondition.isSome_identity_of_holds hrow holds
  obtain ⟨id, hid⟩ := Option.isSome_iff_exists.mp hknown
  -- the precondition of an update is that the object runs
  have hstate : s.lifecycleState = some .available := by
    have hrule : row.rule = .anyOf [.available] := by
      cases hrow
      rfl
    have holds : row.rule.holds s.identity s.lifecycleState = true := holds
    rw [hrule, hid] at holds
    cases hobserved : s.lifecycleState with
    | none =>
      rw [hobserved] at holds
      cases holds
    | some state =>
      rw [hobserved] at holds
      exact congrArg some (by simpa [StateRule.holds] using holds)
  -- so no change of state was needed first
  obtain ⟨seen, -, needed, hgrounds⟩ := h.grounds
  have hseen : seen.lifecycleState = some .available :=
    (congrArg Status.lifecycleState hgrounds).symm.trans hstate
  have hseenId : seen.identity = some id :=
    (congrArg Status.identity hgrounds).symm.trans hid
  refine ⟨stays, plain, fun s' hs' => ?_⟩
  rw [← ManagedResource.stateAction?_eq_none_of_update stays
    (by rw [hseenId]; rfl) needed]
  simp only [ManagedResource.stateAction?, hs', hseen]

/-- A pass whose update was taken leaves its object on record, with the update
under way. -/
theorem steady_of_sent {changes : RemoteAttributes} {found : Snapshot}
    {before after : List PassEvent}
    (stays : p.resource.deletionRequested = false)
    (plain : p.resource.pdbRequest = none) (h : p.run.Walk t r)
    (ht : t = before ++ .remote (.update id changes) (.answered found) :: after)
    (s₀ : Status) :
    p.resource.AsksAttributes ∧ Steady id (storedAfter s₀ t) := by
  obtain ⟨looked, read, s, chosen, c, call, reply, hbefore, he, sends, -,
      target, -⟩ :=
    (course_of_walk stays h).sends_of_sentBy ht rfl
  cases he
  obtain ⟨sent, hsent, hkind, -⟩ :=
    sentBy_of_sends stays sends target (.answered found)
  cases hsent
  cases chosen with
  | updateAttributes changes' =>
    obtain ⟨id', hid, hcall⟩ := Option.map_eq_some_iff.mp target
    cases hcall
    have hmarked :
        .saved (p.markDispatched s (.updateAttributes changes)) ∈ t := by
      rw [ht, hbefore]
      simp
    refine ⟨sends.asksAttributes stays plain,
      identity_storedAfter s₀ h hmarked hid, .inl ?_⟩
    -- the mark of the update outlives the answer, as only a request on a
    -- pluggable database is completed at once
    rcases (awaits_of_sent h ht rfl rfl (.inl ⟨found, rfl⟩) s₀).2 with hmark
      | ⟨request, hrequest, -⟩
    · rw [hmark]
      rfl
    · have hsignature : (CorrectiveAction.updateAttributes changes).signature
          = (CorrectiveAction.pdb request).signature := hrequest
      cases CorrectiveAction.signature_eq_iff.mp hsignature
  | provision | bind | changeState | delete | pdb => cases hkind

end Pass

/-! ## Runs -/

/-- **Updates that are repeated for a read that lags behind.** In a run over a
resource that stays, whose spec stays as it is, and that requests no action, the
first pass sends an update, and the remote takes it. After that the direct read
keeps showing the object with old attributes, and the list with those that are
declared. Then a later pass

1. sends the update again exactly if it begins with no action under way, the
   update is not on record as one that failed for good, and the store takes what
   it is given;
2. stores the old attributes exactly if it begins with no action under way and
   the store takes what it is given;
3. stores no status with an action under way if it begins with one. -/
theorem update_repeated_iff_unmarked {s : Status} {sender : Turn}
    {after : List Turn} {sent rest : List PassEvent} {id : String}
    {changes : RemoteAttributes} {found stale : Snapshot}
    (hrun : Reaches sender.pass.resource.status (sender :: after) s)
    (stays : ∀ turn ∈ sender :: after,
      turn.pass.resource.deletionRequested = false)
    (unchanged : ∀ turn ∈ after, turn.pass.resource.AsksAs sender.pass.resource)
    (plain : sender.pass.resource.pdbRequest = none)
    (htrace : sender.trace
      = sent ++ .remote (.update id changes) (.answered found) :: rest)
    (lags : ∀ turn ∈ after, turn.pass.Lags id stale turn.trace) :
    ∀ turn ∈ after,
      ((∃ changes, .updateAttributes changes ∈ turn.pass.actionsSent turn.trace)
        ↔ turn.pass.resource.status.inFlight = none
          ∧ turn.pass.resource.status.failedAction
            ≠ some (turn.pass.overdue stale).signature
          ∧ ∃ s, .saved s ∈ turn.trace)
      ∧ ((∃ s, .saved s ∈ turn.trace ∧ s.snapshot = some stale.attributes)
        ↔ turn.pass.resource.status.inFlight = none
          ∧ ∃ s, .saved s ∈ turn.trace)
      ∧ (turn.pass.resource.status.inFlight.isSome = true →
        ∀ s, .saved s ∈ turn.trace → s.inFlight = none) := by
  obtain ⟨hasks, hsteady⟩ :=
    Pass.steady_of_sent (stays sender (List.mem_cons_self ..)) plain sender.walk
      htrace sender.pass.resource.status
  have asks : ∀ turn ∈ after, turn.pass.resource.AsksAttributes := fun turn h =>
    hasks.of_asksAs (unchanged turn h) (stays turn (List.mem_cons_of_mem _ h))
  have later : Reaches sender.stored after s := hrun.tail
  -- every later pass begins with the object on record, and without
  -- disagreements unless an action is under way
  obtain ⟨-, hbegins⟩ := later.invariant hsteady fun turn hturn hbegin s hs =>
    Pass.steady_of_lags hbegin (lags turn hturn) (asks turn hturn) turn.walk hs
  intro turn hturn
  obtain ⟨hid, hcalm⟩ := hbegins turn hturn
  have hbehind := (lags turn hturn).behind
  cases hmark : turn.pass.resource.status.inFlight with
  | some pending =>
    -- the list is consulted, and shows the update done
    have hmarked :
        turn.pass.resource.status.inFlight.isSome = true := by rw [hmark]; rfl
    obtain ⟨hidle, hstored⟩ :=
      Pass.confirms_of_lags hid (lags turn hturn)
        (asks turn hturn) turn.walk hmarked
    refine ⟨?_, ?_, fun _ s hs => (hstored s hs).1⟩
    · simp [hidle]
    · refine iff_of_false ?_ (by simp)
      rintro ⟨s, hs, hold⟩
      obtain ⟨-, -, attributes, hsnapshot, hmet⟩ := hstored s hs
      obtain rfl := Option.some.inj (hsnapshot.symm.trans hold)
      rw [hbehind] at hmet
      cases hmet
  | none =>
    -- the direct read is believed
    have hcalm : turn.pass.resource.status.consistencyRetries = 0 :=
      hcalm.resolve_left (by rw [hmark]; nofun)
    have hmisled :=
      Pass.misled_of_lags hid (lags turn hturn) (asks turn hturn) turn.walk
        hmark hcalm
    refine ⟨?_, ?_, nofun⟩
    · rw [hmisled.sends_iff]
      exact (and_iff_right rfl).symm
    · rw [hmisled.stores_iff (lags turn hturn)]
      exact (and_iff_right rfl).symm

/-- The database after the update. -/
def grownDatabase : Snapshot :=
  { smallDatabase with attributes := { displayName := some "sales",
                                       cpuCoreCount := some 2 } }

/-- A remote that has carried out the update, and whose direct reads lag
behind. -/
def laggingReads : Simulation :=
  { remote :=
      { objects := .ofList [(grownDatabase.id, grownDatabase)]
        stale := .ofList [(smallDatabase.id, smallDatabase)] } }

/-- The pass after the update: it finds the update confirmed. -/
def confirmedUpdate : Turn :=
  .simulated Simulation.answer
    (.ofSized 2 acceptedUpdate.stored ⟨1700000010, 0⟩) laggingReads

/-- The pass after that one. -/
def repeatedUpdate : Turn :=
  .simulated Simulation.answer
    (.ofSized 2 confirmedUpdate.stored ⟨1700000020, 0⟩) laggingReads

/-- In both passes the direct read lags behind. -/
theorem updates_lag : ∀ turn ∈ [confirmedUpdate, repeatedUpdate],
    turn.pass.Lags "ocid1.adb.1" smallDatabase turn.trace := by
  obtain ⟨stored, hconfirmed⟩ : ∃ stored, confirmedUpdate.trace
      = [.remote (.get "ocid1.adb.1") (.answered smallDatabase),
        .remote (.list { displayName := some "sales" })
          (.answered [grownDatabase]), .saved stored] := ⟨_, rfl⟩
  obtain ⟨marked, found, stored', hrepeated⟩ : ∃ marked found stored,
    repeatedUpdate.trace
      = [.remote (.get "ocid1.adb.1") (.answered smallDatabase), .saved marked,
        .remote (.update "ocid1.adb.1" { cpuCoreCount := some 2 }) found,
        .saved stored] := ⟨_, _, _, rfl⟩
  intro turn hturn
  simp only [List.mem_cons, List.not_mem_nil, or_false] at hturn
  rcases hturn with rfl | rfl
  · rw [hconfirmed]
    refine ⟨by simp, rfl, rfl, rfl, fun filter reply hlist =>
      ⟨grownDatabase, ?_⟩⟩
    simp only [List.mem_cons, List.not_mem_nil, or_false] at hlist
    rcases hlist with hlist | hlist | hlist <;> cases hlist
    exact ⟨rfl, rfl, rfl⟩
  · -- the list is not read
    rw [hrepeated]
    refine ⟨by simp, rfl, rfl, rfl, fun filter reply hlist => ?_⟩
    simp at hlist

/-- The pass after the update sends nothing, and the one after that repeats the
update. -/
theorem every_other_pass_repeats_update :
    (∀ changes, .updateAttributes changes
      ∉ confirmedUpdate.pass.actionsSent confirmedUpdate.trace)
      ∧ ∃ changes, .updateAttributes changes
        ∈ repeatedUpdate.pass.actionsSent repeatedUpdate.trace := by
  obtain ⟨marked, found, stored, haccepted⟩ : ∃ marked found stored,
    acceptedUpdate.trace
      = [.remote (.get "ocid1.adb.1") (.answered smallDatabase), .saved marked]
        ++ .remote (.update "ocid1.adb.1" { cpuCoreCount := some 2 })
          (.answered found) :: [.saved stored] :=
    ⟨_, _, _, rfl⟩
  obtain ⟨again, hrepeated⟩ : ∃ again, .saved again ∈ repeatedUpdate.trace :=
    ⟨_, List.mem_cons_of_mem _ (List.mem_cons_self ..)⟩
  have hrun : Reaches acceptedUpdate.pass.resource.status
    (acceptedUpdate :: [confirmedUpdate, repeatedUpdate])
      repeatedUpdate.stored := .cons rfl (.cons rfl (.cons rfl .start))
  have hall := update_repeated_iff_unmarked hrun ?_ ?_ rfl haccepted updates_lag
  · refine ⟨fun changes hsent => ?_, ?_⟩
    · obtain ⟨hnone, -, -⟩ :=
        (hall confirmedUpdate (by simp)).1.mp ⟨changes, hsent⟩
      cases hnone
    · exact (hall repeatedUpdate (by simp)).1.mpr ⟨rfl, nofun, again, hrepeated⟩
  · intro turn hturn
    simp only [List.mem_cons, List.not_mem_nil, or_false] at hturn
    rcases hturn with rfl | rfl | rfl <;> rfl
  · intro turn hturn
    simp only [List.mem_cons, List.not_mem_nil, or_false] at hturn
    rcases hturn with rfl | rfl <;> exact ⟨rfl, rfl, rfl, rfl, rfl⟩

/-- An update that was accepted, and that the list has shown to have happened,
is sent again, and the old attributes come back, since the direct read lags
behind. -/
theorem update_repeated_by_lagging_read :
    Reaches { identity := some "ocid1.adb.1" }
        [acceptedUpdate, confirmedUpdate, repeatedUpdate] repeatedUpdate.stored
      ∧ (∃ sent rest found,
        acceptedUpdate.trace
          = sent
            ++ .remote (.update "ocid1.adb.1" { cpuCoreCount := some 2 })
              (.answered found) :: rest)
      ∧ (∀ turn ∈ [confirmedUpdate, repeatedUpdate],
        turn.pass.Lags "ocid1.adb.1" smallDatabase turn.trace)
      ∧ confirmedUpdate.stored.snapshot = some grownDatabase.attributes
      ∧ .updateAttributes { cpuCoreCount := some 2 }
        ∈ repeatedUpdate.pass.actionsSent repeatedUpdate.trace
      ∧ ∃ s, .saved s ∈ repeatedUpdate.trace
        ∧ s.snapshot = some smallDatabase.attributes := by
  refine ⟨.cons rfl (.cons rfl (.cons rfl .start)), ⟨[_, _], _, _, rfl⟩,
    updates_lag, rfl, List.mem_cons_self .., ?_⟩
  exact ⟨_, List.mem_cons_of_mem _ (List.mem_cons_self ..), rfl⟩

end DatabaseOperator
