import DatabaseOperator.Proofs.Pass.AtRest
import DatabaseOperator.Proofs.Pass.Lag

/-!
# Reads that disagree

Where the list is consulted and shows the object, the list is believed: what it
shows is on record before the pass does anything else. If the direct read says
otherwise, the pass does nothing else at all, and comes back to look again. How
often that happened in a row is on record too, and only the first time is free.

- `Pass.KeepsSight`, `Pass.Course.keepsSight`: until an action is sent, a pass
  records of the object what it saw first.
- `Pass.records_mergeReads`: what is seen first is what the list shows.
- `Pass.Deferred`: what becomes of the status when the reads disagree.
- `Pass.list_is_believed`: all of it for a whole pass.
- `Pass.disagreements_counted`: and for passes one after another.
-/

namespace DatabaseOperator

/-- What a read shows of an object is on record: its state, and its attributes
if it shows any. -/
def Status.Records (s : Status) (found : Snapshot) : Prop :=
  s.lifecycleState = some found.state
    ∧ (found.attributes.isEmpty = false → s.snapshot = some found.attributes)

namespace Pass

variable {p : Pass} {s s' seen marked : Status} {id : String}
    {t t₁ t₂ before after : List PassEvent} {r : Except OperatorError Outcome}
    {o : Outcome} {direct : Reply Snapshot} {listed : Option Snapshot}
    {found : Snapshot} {d : Duration}

theorem records_of_sighting (same : sighting s = sighting s')
    (h : s'.Records found) : s.Records found := by
  have hstate : s.lifecycleState = s'.lifecycleState :=
    (congrArg Status.lifecycleState same :)
  have hsnapshot : s.snapshot = s'.snapshot := (congrArg Status.snapshot same :)
  unfold Status.Records
  rwa [hstate, hsnapshot]

theorem consistencyRetries_of_sighting (same : sighting s = sighting s') :
    s.consistencyRetries = s'.consistencyRetries :=
  (congrArg Status.consistencyRetries same :)

/-! ## What stays until an action is sent -/

theorem sighting_trackInFlight (p : Pass) (s : Status)
    (action : Option CorrectiveAction) :
    sighting (p.trackInFlight s action).status = sighting s := by
  unfold trackInFlight
  split
  next => rfl
  next =>
    split
    next =>
      simp only
      split <;> rfl
    next => split <;> rfl

theorem sighting_forgetFailed (p : Pass) (s : Status) :
    sighting (p.forgetFailed s) = sighting s := by
  show sighting (p.forgetFailed s).facts = sighting s
  rw [facts_forgetFailed]
  rfl

theorem sighting_waitFor (p : Pass) (s : Status) (action : CorrectiveAction)
    (expected : StateRule) :
    sighting (p.waitFor s action expected).1 = sighting s := by
  unfold waitFor recordWait
  simp only
  split
  next => split <;> rfl
  next => rfl

theorem sighting_of_walk_settle {settled : Status × Duration}
    (h : (p.settle s).Walk t settled) : sighting settled.1 = sighting s := by
  show sighting settled.1.lasting = sighting s
  rw [lasting_of_walk_settle h]
  show sighting (p.completeOneShot (p.forgetObstacles s)) = sighting s
  rw [sighting_completeOneShot, sighting_forgetObstacles]

theorem Chooses.sighting {action : Option CorrectiveAction}
    (h : p.Chooses t s action) :
    ∃ seen, (p.observeRemote p.initialStatus).Walk t (.proceed seen)
      ∧ Pass.sighting s = Pass.sighting seen := by
  obtain ⟨seen, observed, -, free⟩ := h
  have hkept := sighting_trackInFlight p seen action
  rw [free] at hkept
  exact ⟨seen, observed, hkept⟩

theorem Sends.sighting {action : CorrectiveAction} (h : p.Sends t s action) :
    ∃ seen, (p.observeRemote p.initialStatus).Walk t (.proceed seen)
      ∧ Pass.sighting s = Pass.sighting seen := by
  obtain ⟨chosen, hchosen, -, -, rfl⟩ := h
  obtain ⟨seen, observed, hkept⟩ := hchosen.sighting
  exact ⟨seen, observed, (sighting_forgetFailed p chosen).trans hkept⟩

/-- A pass that has seen its object in some way ends with that on record if it
sends nothing, and marks the action with that on record if it sends one. -/
inductive KeepsSight (p : Pass) (seen : Status) : List PassEvent →
    Except OperatorError Outcome → Prop where
  | idle {t₁ t₂ : List PassEvent} {s : Status} {d : Duration}
      {r : Except OperatorError Outcome} (quiet : ∀ e ∈ t₁, p.Quiet e)
      (same : sighting s = sighting seen) (ending : (p.quits s d).Walk t₂ r) :
      KeepsSight p seen (t₁ ++ t₂) r
  | unmarked {t₁ : List PassEvent} {s : Status} {e : OperatorError}
      (quiet : ∀ e ∈ t₁, p.Quiet e) :
      KeepsSight p seen (t₁ ++ [.store (.saveStatus s) (.error e)]) (.error e)
  | sent {t₁ t₂ : List PassEvent} {s : Status} {action sent : CorrectiveAction}
      {call : RemoteCall} {reply : Reply call.Answer}
      {r : Except OperatorError Outcome} (quiet : ∀ e ∈ t₁, p.Quiet e)
      (same : sighting s = sighting seen)
      (sends : p.sentBy (.remote call reply) = some sent)
      (ending : (p.sentEnding s action call reply).Walk t₂ r) :
      KeepsSight p seen
        (t₁ ++ .saved (p.markDispatched s action) :: .remote call reply :: t₂) r

theorem Course.keepsSight (hdel : p.resource.deletionRequested = false)
    (h : p.Course t r) :
    ∃ t₁ rest step, t = t₁ ++ rest
      ∧ (p.observeRemote p.initialStatus).Walk t₁ step
      ∧ p.KeepsSight step.status t r := by
  cases h with
  | stopped observed ending =>
    exact ⟨_, _, _, rfl, observed,
      .idle (quiet_of_walk_observeRemote observed) rfl ending⟩
  -- a status that is held back, chosen for or waited with has the sighting of
  -- the observation
  | @held _ _ seen _ _ _ observed held ending =>
    have hkept := sighting_trackInFlight p seen (p.resource.nextAction? seen)
    rw [held] at hkept
    exact ⟨_, _, _, rfl, observed,
      .idle (quiet_of_walk_observeRemote observed) hkept ending⟩
  | settled chosen settling ending =>
    obtain ⟨seen, observed, hkept⟩ := chosen.sighting
    refine ⟨_, _, _, rfl, observed, ?_⟩
    rw [← List.append_assoc]
    exact .idle (chosen.quiet_settle settling)
      ((sighting_of_walk_settle settling).trans hkept) ending
  | declined chosen _ ending =>
    obtain ⟨seen, observed, hkept⟩ := chosen.sighting
    refine ⟨_, _, _, rfl, observed, .idle (quiet_of_chooses chosen) ?_ ending⟩
    exact hkept
  | waited chosen _ _ ending =>
    obtain ⟨seen, observed, hkept⟩ := chosen.sighting
    refine ⟨_, _, _, rfl, observed, .idle (quiet_of_chooses chosen) ?_ ending⟩
    exact ((sighting_waitFor ..).trans (sighting_forgetFailed ..)).trans hkept
  | illegal chosen _ _ ending =>
    obtain ⟨seen, observed, hkept⟩ := chosen.sighting
    refine ⟨_, _, _, rfl, observed, .idle (quiet_of_chooses chosen) ?_ ending⟩
    exact (sighting_forgetFailed ..).trans hkept
  | uncredited sends credentials ending =>
    obtain ⟨seen, observed, hkept⟩ := sends.sighting
    refine ⟨_, _, _, rfl, observed, ?_⟩
    rw [← List.append_assoc]
    refine .idle (sends.quiet_readCredentials credentials) ?_ ending
    exact hkept
  | unmarked sends credentials =>
    obtain ⟨seen, observed, -⟩ := sends.sighting
    refine ⟨_, _, _, rfl, observed, ?_⟩
    rw [← List.append_assoc]
    exact .unmarked (sends.quiet_readCredentials credentials)
  | sent sends credentials target ending =>
    obtain ⟨seen, observed, hkept⟩ := sends.sighting
    obtain ⟨sent, hsent, -⟩ := sentBy_of_sends hdel sends target _
    refine ⟨_, _, _, rfl, observed, ?_⟩
    rw [← List.append_assoc]
    exact .sent (sends.quiet_readCredentials credentials) hkept hsent ending

/-- What such a pass stores before it sends an action, and what it leaves behind
without having sent any, has the object on record as it was seen. -/
theorem KeepsSight.unsent (h : p.KeepsSight seen t r) :
    (∀ s before after, t = before ++ .saved s :: after →
      p.actionsSent before = [] → sighting s = sighting seen)
      ∧ ∀ o, r = .ok o → p.actionsSent t = [] →
        sighting o.status = sighting seen := by
  cases h with
  | @idle t₁ t₂ s' d _ quiet same ending =>
    refine ⟨fun s before after ht _ => ?_, ?_⟩
    · have hmem : .saved s ∈ t₁ ++ t₂ := by simp [ht]
      rw [eq_of_saved_mem_quits quiet ending hmem]
      exact same
    · rintro o rfl -
      rw [ended_of_walk_finish ending]
      exact same
  | unmarked quiet =>
    refine ⟨fun s before after ht _ => ?_, ?_⟩
    · have hmem : .saved s ∈ before ++ .saved s :: after := by simp
      rw [← ht] at hmem
      exact absurd hmem
        (saved_not_mem_append_refused (saveStatus_not_mem_of_quiet quiet))
    · rintro o ⟨⟩
  | @sent t₁ t₂ s' action sent call reply _ quiet same sends ending =>
    have hcall : ∀ u : List PassEvent, .remote call reply ∈ u →
        p.actionsSent u ≠ [] := fun u hmem =>
      sentBy_of_mem hmem sends
    refine ⟨fun s before after ht hunsent => ?_, fun o _ hunsent =>
      absurd hunsent (hcall _ (by simp))⟩
    obtain ⟨rest, rfl, hrest⟩ :=
      split_of_not_mem ht (saveStatus_not_mem_of_quiet quiet)
    -- either it is the mark, or the call comes before it
    match rest, hrest with
    | [], hrest =>
      cases (List.cons.inj hrest).1
      exact same
    | [_], hrest => cases (List.cons.inj (List.cons.inj hrest).2).1
    | _ :: e :: rest, hrest =>
      obtain rfl := (List.cons.inj (List.cons.inj hrest).2).1
      exact absurd hunsent (hcall _ (by simp))

/-- The count of disagreements stays as it is, even if an action is sent. -/
theorem KeepsSight.consistencyRetries (h : p.KeepsSight seen t r) :
    (∀ s, .saved s ∈ t → s.consistencyRetries = seen.consistencyRetries)
      ∧ ∀ o, r = .ok o →
        o.status.consistencyRetries = seen.consistencyRetries := by
  cases h with
  | @idle t₁ t₂ s' d _ quiet same ending =>
    refine ⟨fun s hs => ?_, ?_⟩
    · rw [eq_of_saved_mem_quits quiet ending hs]
      exact consistencyRetries_of_sighting same
    · rintro o rfl
      rw [ended_of_walk_finish ending]
      exact consistencyRetries_of_sighting same
  | unmarked quiet =>
    refine ⟨fun s hs => ?_, ?_⟩
    · exact absurd hs
        (saved_not_mem_append_refused (saveStatus_not_mem_of_quiet quiet))
    · rintro o ⟨⟩
  | @sent t₁ t₂ s' action sent call reply _ quiet same sends ending =>
    have hafter : (p.afterAnswer (p.markDispatched s' action) action
      (p.answerOf call reply)).1.consistencyRetries
        = seen.consistencyRetries :=
      (consistencyRetries_afterAnswer p _ action _).trans
        (consistencyRetries_of_sighting same)
    refine ⟨fun s hs => ?_, ?_⟩
    · rcases eq_of_saved_mem_sent (saveStatus_not_mem_of_quiet quiet) ending hs
        with rfl | rfl
      · exact consistencyRetries_of_sighting same
      · exact hafter
    · rintro o rfl
      rw [ended_of_walk_finish ending]
      exact hafter

/-! ## What the reads come to -/

theorem records_observe (s : Status) (found : Snapshot) :
    (observe s found).Records found := by
  refine ⟨rfl, fun hshown => ?_⟩
  show (if found.attributes.isEmpty then s.snapshot else some found.attributes)
    = some found.attributes
  rw [hshown]
  rfl

/-- Of two reads that agree on the state, the list counts for the attributes. -/
theorem records_fresher (s : Status) {direct : Snapshot}
    (same : direct.state = found.state) :
    (observe s (fresher direct (some found))).Records found := by
  unfold fresher
  simp only
  split
  next hnone =>
    refine ⟨congrArg some same, fun hshown => ?_⟩
    rw [hnone] at hshown
    cases hshown
  next => exact records_observe s found

/-- The status that is put off when the reads disagree: the list is on record,
and one more disagreement. The first in a row costs nothing but a short wait,
each of the next ones counts as a failure too. -/
structure Deferred (p : Pass) (old : Status) (found : Snapshot) (s : Status)
    (d : Duration) : Prop where
  records : s.Records found
  counted : s.consistencyRetries.toNat = old.consistencyRetries.toNat + 1
  first : old.consistencyRetries = 0 →
    s.consecutiveFailures = old.consecutiveFailures
      ∧ d = p.settings.conflictRequeue
  again : old.consistencyRetries ≠ 0 →
    s.consecutiveFailures.toNat = old.consecutiveFailures.toNat + 1
      ∧ d = p.backoffDelay s

theorem toNat_add_one {n : UInt32} (h : n.toNat < 4294967295) :
    (n + 1).toNat = n.toNat + 1 := by
  rw [UInt32.toNat_add]
  exact Nat.mod_eq_of_lt (Nat.succ_lt_succ h)

theorem afterMismatch_deferred
    (failures : s.consecutiveFailures.toNat < 4294967295)
    (retries : s.consistencyRetries.toNat < 4294967295)
    (direct : Option LifecycleState) (found : Snapshot) :
    ∃ s' d, p.afterMismatch s direct found = .stop s' d
      ∧ p.Deferred s found s' d := by
  have hcounted := toNat_add_one retries
  unfold afterMismatch
  simp only
  split
  next hfirst =>
    refine ⟨_, _, rfl, records_observe s found, hcounted, fun _ => ⟨rfl, rfl⟩,
      fun hagain => ?_⟩
    have hone : s.consistencyRetries.toNat + 1 ≤ 1 :=
      hcounted ▸ UInt32.le_iff_toNat_le.mp hfirst
    refine absurd (UInt32.toNat_inj.mp ?_) hagain
    show s.consistencyRetries.toNat = 0
    omega
  next hagain =>
    refine ⟨_, _, rfl, records_observe s found, hcounted, fun hfirst => ?_,
      fun _ => ⟨toNat_add_one failures, rfl⟩⟩
    refine absurd (UInt32.le_iff_toNat_le.mpr ?_) hagain
    show (s.consistencyRetries + 1).toNat ≤ 1
    rw [hcounted, hfirst]
    decide

/-- The direct read contradicts what the list shows: it does not find the
object, or finds it in another state. -/
def Contradicts (direct : Reply Snapshot) (found : Snapshot) : Prop :=
  direct.isNotFound = true
    ∨ ∃ seen, direct = .answered seen ∧ seen.state ≠ found.state

/-- If the list shows the object, that is what is seen. -/
theorem records_mergeReads (p : Pass) (s : Status)
    (direct : Except RemoteError Snapshot) (found : Snapshot) :
    (p.mergeReads s direct (some found)).status.Records found := by
  have hmismatch :
      ∀ state, (p.afterMismatch s state found).status.Records found := by
    intro state
    unfold afterMismatch
    simp only
    split <;> exact records_observe s found
  cases direct with
  | ok seen =>
    show Status.Records
      (Step.status (if seen.state = found.state then _ else _)) found
    split
    next same => exact records_fresher _ same
    next => exact hmismatch _
  | error e =>
    show Status.Records (Step.status (if e.isNotFound then _ else _)) found
    split
    next => exact hmismatch _
    next => exact records_observe s found

/-- A direct read that the list does not contradict ends the count of
disagreements. -/
theorem consistencyRetries_mergeReads (p : Pass) (old : Status)
    (seen : Snapshot)
    (agree : ∀ found, listed = some found → found.state = seen.state) :
    (p.mergeReads old (.ok seen) listed).status.consistencyRetries = 0 := by
  cases listed with
  | none => rfl
  | some found =>
    show Status.consistencyRetries
      (Step.status (if seen.state = found.state then _ else _)) = 0
    rw [if_pos (agree found rfl).symm]
    rfl

/-! ## A whole pass -/

/-- What a pass sees of its object is what its reads come to. -/
theorem keepsSight_of_reads (stays : p.resource.deletionRequested = false)
    (walk : p.run.Walk t r) (reads : p.Reads id t direct listed) :
    p.KeepsSight
      (p.mergeReads p.initialStatus (p.outcomeOf direct) listed).status t
      r := by
  obtain ⟨t₁, rest, step, rfl, observed, keeps⟩ :=
    (course_of_walk stays walk).keepsSight stays
  obtain ⟨direct', listed', reads', rfl⟩ :=
    reads_of_walk_observeRemote reads.known observed rest
  obtain ⟨rfl, rfl⟩ := reads.unique reads'
  exact keeps

/-- A pass that ends after its two reads with a status, which it stores, and
without having sent anything. -/
structure EndsAtOnce (p : Pass) (id : String) (direct : Reply Snapshot)
    (t : List PassEvent) (r : Except OperatorError Outcome) (s : Status)
    (d : Duration) : Prop where
  sends : p.actionsSent t = []
  ends : ∃ reply answer,
    t = [.remote (.get id) direct, .remote (.list p.resource.listFilter) reply,
      .store (.saveStatus s) answer]
      ∧ r = answer.map fun _ =>
        { requeue := some d, dispatched := none, status := s,
          finalized := false }

/-- A pass whose reads disagree ends at once, with its status put off. -/
theorem endsAtOnce_of_contradicts (stays : p.resource.deletionRequested = false)
    (walk : p.run.Walk t r) (reads : p.Reads id t direct (some found))
    (contradicts : Contradicts direct found)
    (failures : p.resource.status.consecutiveFailures.toNat < 4294967295)
    (retries : p.resource.status.consistencyRetries.toNat < 4294967295) :
    ∃ s d, p.EndsAtOnce id direct t r s d
      ∧ p.Deferred p.resource.status found s d := by
  obtain ⟨state, hmerge⟩ :=
    mergeReads_of_disagreement (p := p) (s := p.initialStatus) contradicts
  obtain ⟨s, d, hstop, deferred⟩ :=
    afterMismatch_deferred (p := p) (s := p.initialStatus) failures retries
      state found
  generalize hlisted : some found = listed at reads
  cases reads with
  | alone => cases hlisted
  | @listed _ reply rest known consulted =>
    have hrefresh : (p.refresh p.initialStatus id).Walk
        [.remote (.get id) direct, .remote (.list p.resource.listFilter) reply]
        (.stop s d) := by
      refine walk_refresh_iff.mpr ⟨direct, .inr ⟨consulted, reply, rfl, ?_⟩⟩
      rw [← hlisted, hmerge, hstop]
    have observed : (p.observeRemote p.initialStatus).Walk
        [.remote (.get id) direct, .remote (.list p.resource.listFilter) reply]
        (.stop s d) := by
      have hknown : p.initialStatus.identity = some id := known
      exact (walk_observeRemote_of_some hknown).mpr hrefresh
    have ending : (p.quits s d).Walk rest r := walk_onward stays walk observed
    refine ⟨s, d, ⟨?_, ?_⟩, deferred.records, deferred.counted, deferred.first,
      deferred.again⟩
    · exact actionsSent_of_idle (quiet_of_walk_observeRemote observed)
        (ending_of_walk_finish ending)
    · rcases walk_finish_iff.mp ending with ⟨hsame, -, -⟩
        | ⟨-, answer, rfl, rfl⟩
      · -- one more disagreement is on record
        have hcounted := deferred.counted
        rw [show s = p.resource.status from hsame] at hcounted
        exact absurd hcounted.symm (Nat.succ_ne_self _)
      · exact ⟨reply, answer, rfl, rfl⟩

/-- **The list is believed.** In a pass over a resource that stays and whose
object is on record:

- if the list is consulted and shows the object, its state is on record until an
  action is sent, and so are its attributes if it shows any;
- if the direct read contradicts it, the pass sends nothing and ends at once:
  the first time in a row without counting a failure, and with a short wait, and
  each time after that with one failure more;
- and a direct read that the list does not contradict ends the count of those
  times. -/
theorem list_is_believed (stays : p.resource.deletionRequested = false)
    (walk : p.run.Walk t r) (reads : p.Reads id t direct listed)
    (failures : p.resource.status.consecutiveFailures.toNat < 4294967295)
    (retries : p.resource.status.consistencyRetries.toNat < 4294967295) :
    (∀ found, listed = some found →
      (∀ s before after, t = before ++ .saved s :: after →
        p.actionsSent before = [] → s.Records found)
        ∧ (∀ o, r = .ok o → p.actionsSent t = [] → o.status.Records found)
        ∧ (Contradicts direct found →
          ∃ s d, p.EndsAtOnce id direct t r s d
            ∧ p.Deferred p.resource.status found s d))
    ∧ ∀ seen, direct = .answered seen →
      (∀ found, listed = some found → found.state = seen.state) →
        (∀ s, .saved s ∈ t → s.consistencyRetries = 0)
          ∧ ∀ o, r = .ok o → o.status.consistencyRetries = 0 := by
  have keeps := keepsSight_of_reads stays walk reads
  constructor
  · rintro found rfl
    have hseen :=
      records_mergeReads p p.initialStatus (p.outcomeOf direct) found
    obtain ⟨hstored, hleft⟩ := keeps.unsent
    refine ⟨fun s before after ht hunsent => ?_, fun o ho hunsent => ?_,
      fun contradicts => ?_⟩
    · exact records_of_sighting (hstored s before after ht hunsent) hseen
    · exact records_of_sighting (hleft o ho hunsent) hseen
    · exact endsAtOnce_of_contradicts stays walk reads contradicts
        failures retries
  · rintro seen rfl agree
    have hcalm := consistencyRetries_mergeReads p p.initialStatus seen agree
    obtain ⟨hstored, hleft⟩ := keeps.consistencyRetries
    exact ⟨fun s hs => (hstored s hs).trans hcalm, fun o ho =>
      (hleft o ho).trans hcalm⟩

/-! ## One pass after another -/

/-- **Disagreements in a row are counted.** If the reads of every pass disagree,
and the store takes what the passes leave, there is one disagreement on record
for each pass, and one failure for each but the first. -/
theorem disagreements_counted {s₀ : Status} {turns : List Turn}
    (run : Reaches s₀ turns s) (fresh : s₀.consistencyRetries = 0)
    (bounded : s₀.consecutiveFailures.toNat + turns.length < 4294967296)
    (stays : ∀ turn ∈ turns, turn.pass.resource.deletionRequested = false)
    (disagree : ∀ turn ∈ turns, ∃ direct found, turn.pass.Reads id turn.trace
      direct (some found) ∧ Contradicts direct found)
    (stored : ∀ turn ∈ turns, AllStored turn.trace) :
    s.consistencyRetries.toNat = turns.length
      ∧ s.consecutiveFailures.toNat
        = s₀.consecutiveFailures.toNat + (turns.length - 1)
      ∧ ∀ turn ∈ turns, turn.pass.actionsSent turn.trace = [] := by
  induction run with
  | start =>
    refine ⟨?_, rfl, by simp⟩
    rw [fresh]
    rfl
  | @step turns s turn past begins ih =>
    have hlength : (turns ++ [turn]).length = turns.length + 1 := by simp
    have hlast : turn ∈ turns ++ [turn] := by simp
    rw [hlength] at bounded ⊢
    obtain ⟨hretries, hfailures, hsent⟩ := ih (by omega)
      (fun earlier hmem => stays earlier (List.mem_append_left _ hmem))
      (fun earlier hmem => disagree earlier (List.mem_append_left _ hmem))
      fun earlier hmem => stored earlier (List.mem_append_left _ hmem)
    obtain ⟨direct, found, reads, contradicts⟩ := disagree turn hlast
    obtain ⟨s', d, ends, deferred⟩ :=
      endsAtOnce_of_contradicts (stays turn hlast) turn.walk reads contradicts
        (by rw [begins]; omega) (by rw [begins]; omega)
    obtain ⟨reply, answer, htrace, -⟩ := ends.ends
    -- the pass ends in one write, which is taken
    have hstored : turn.stored = s' := by
      have htaken := stored turn hlast
      unfold Turn.stored
      rw [htrace] at htaken ⊢
      cases answer with
      | ok _ => rfl
      | error e => exact absurd (by simp) (htaken s' e)
    rw [hstored]
    rw [begins] at deferred
    refine ⟨?_, ?_, List.forall_mem_append.mpr ⟨hsent, ?_⟩⟩
    · rw [deferred.counted, hretries]
    · -- the first pass is the one that counts no failure
      by_cases hfirst : s.consistencyRetries = 0
      · have hnone : turns.length = 0 := by rw [← hretries, hfirst]; rfl
        rw [(deferred.first hfirst).1, hfailures, hnone]
      · have hsome : turns.length ≠ 0 := by
          rw [← hretries]
          exact fun hzero => hfirst (UInt32.toNat_inj.mp hzero)
        rw [(deferred.again hfirst).1, hfailures]
        omega
    · intro other hother
      rw [List.mem_singleton.mp hother]
      exact ends.sends

end Pass

/-- A remote in the middle of a change that direct reads do not show yet. -/
def changingRemote : Simulation :=
  { remote :=
      { objects :=
          .ofList
            [(grownDatabase.id, { grownDatabase with state := .updating })]
        stale := .ofList [(smallDatabase.id, smallDatabase)] } }

/-- A pass there, after an update was accepted. -/
def contradictedPass : Turn :=
  .simulated Simulation.answer
    (.ofSized 2 acceptedUpdate.stored ⟨1700000010, 0⟩) changingRemote

/-- The direct read still shows the database in use, so the pass leaves it
alone, and looks again soon. -/
theorem list_is_believed_during_change :
    ∃ s d,
      contradictedPass.pass.EndsAtOnce "ocid1.adb.1" (.answered smallDatabase)
        contradictedPass.trace contradictedPass.result s d
      ∧ s.lifecycleState = some .updating
      ∧ s.snapshot = some grownDatabase.attributes
      ∧ s.consistencyRetries.toNat = 1 ∧ s.consecutiveFailures = 0
      ∧ d = contradictedPass.pass.settings.conflictRequeue := by
  obtain ⟨stored, htrace⟩ : ∃ stored, contradictedPass.trace
      = [.remote (.get "ocid1.adb.1") (.answered smallDatabase),
        .remote (.list { displayName := some "sales" })
          (.answered [{ grownDatabase with state := .updating }]),
        .saved stored] := ⟨_, rfl⟩
  have hreads : contradictedPass.pass.Reads "ocid1.adb.1" contradictedPass.trace
      (.answered smallDatabase)
      (some { grownDatabase with state := .updating }) := by
    rw [htrace]
    exact .listed rfl rfl
  have hcontradicts : Pass.Contradicts (.answered smallDatabase)
      { grownDatabase with state := .updating } :=
    .inr ⟨smallDatabase, rfl, by decide⟩
  obtain ⟨hlisted, -⟩ := Pass.list_is_believed rfl contradictedPass.walk hreads
    (by decide) (by decide)
  obtain ⟨-, -, hends⟩ := hlisted _ rfl
  obtain ⟨s, d, ends, deferred⟩ := hends hcontradicts
  obtain ⟨hfailures, hdelay⟩ := deferred.first rfl
  exact ⟨s, d, ends, deferred.records.1, deferred.records.2 rfl,
    deferred.counted, hfailures, hdelay⟩

end DatabaseOperator
