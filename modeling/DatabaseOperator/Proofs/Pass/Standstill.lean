import DatabaseOperator.Proofs.Pass.Grounds
import DatabaseOperator.Proofs.Pass.Refusal

/-!
# Standing still after a failure for good

An action that failed for good is on record as such, and unmarked. As long as
the grounds on which it was chosen stay as they are, it is chosen again and
refused, and nothing else is chosen. What the remote reports of the object is
all that could change the grounds. So if that stays the same, nothing is sent
any more, however long the run.

- `Status.Stuck`: the grounds and the failure on record, with no action under
  way.
- `Pass.stuck_of_sent`: what a pass leaves behind whose action failed for good.
- `Pass.stuck_of_walk`: a pass that begins so sends nothing and leaves it so.
- `nothing_sent_after_permanent_failure`: the same for a run.
-/

namespace DatabaseOperator

/-- On record are the grounds of another status and an action that failed for
good, and no action is under way. -/
structure Status.Stuck (s basis : Status) (signature : String) : Prop where
  grounds : s.grounds = basis.grounds
  failed : s.failedAction = some signature
  unmarked : s.inFlight = none

namespace Pass

variable {p : Pass} {s basis : Status} {t t₁ t₂ : List PassEvent}
    {r : Except OperatorError Outcome} {action : CorrectiveAction}

/-! ## The failure -/

/-- An action that failed for good leaves no mark, and the grounds as they
are. -/
theorem stuck_afterFailure {e : RemoteError}
    (permanent : e.errorClass = .permanent) (p : Pass) (s : Status)
    (action : CorrectiveAction) :
    (p.afterFailure s action e).1.Stuck s action.signature := by
  refine ⟨?_, failedAction_afterFailure permanent p s action, ?_⟩
  · unfold afterFailure
    simp only [permanent]
    cases action.createsObject <;> rfl
  · unfold afterFailure
    simp only [permanent]
    cases action.createsObject <;> rfl

/-- A pass whose action failed for good is stuck afterwards, unless the store
has refused a status. -/
theorem stuck_of_sent {after : List PassEvent} {call : RemoteCall}
    {reply : Reply call.Answer} {e : RemoteError} {c : Credentials}
    (s₀ : Status) (sends : p.Sends t₁ s action)
    (credentials : (p.readCredentials action).Walk t₂ (.ok c))
    (ending : (p.sentEnding s action call reply).Walk after r)
    (rejected : p.outcomeOf reply = .error e)
    (permanent : e.errorClass = .permanent)
    (ht : t
      = (t₁ ++ t₂)
        ++ .saved (p.markDispatched s action) :: .remote call reply :: after)
    (stored : AllStored t) : (storedAfter s₀ t).Stuck s action.signature := by
  have hanswer : p.answerOf call reply = .error e := by
    unfold answerOf
    rw [rejected]
    rfl
  rcases storedAfter_sent_cases s₀ (sends.quiet_readCredentials credentials)
    ending ht with ⟨-, hlast⟩ | ⟨refused, -⟩
  · rw [hlast, hanswer]
    obtain ⟨hgrounds, hfailed, hunmarked⟩ :=
      stuck_afterFailure permanent p (p.markDispatched s action) action
    exact ⟨hgrounds, hfailed, hunmarked⟩
  · exact absurd stored refused

/-! ## Passes after it -/

section Stuck

variable (stays : p.resource.deletionRequested = false)
    (stuck : p.resource.status.Stuck basis action.signature)
    (needed : p.resource.nextAction? basis = some action)
    (told : ∀ id, basis.identity = some id → ∃ found,
      Confirms found basis ∧ Repeats id found t)

include stuck told in
/-- What is observed leaves the record as it is. -/
theorem stuck_of_walk_observeRemote {step : Step} (hsub : ∀ e ∈ t₁, e ∈ t)
    (h : (p.observeRemote p.initialStatus).Walk t₁ step) :
    step.status.Stuck basis action.signature := by
  obtain ⟨hgrounds, hfailed, hunmarked⟩ := stuck
  refine ⟨?_, ?_, unmarked_of_walk_observeRemote hunmarked h⟩
  · rw [← hgrounds]
    refine grounds_of_walk_observeRemote hunmarked (fun id hid => ?_) h
    obtain ⟨found, confirms, repeats⟩ :=
      told id ((congrArg Status.identity hgrounds).symm.trans hid)
    exact ⟨found, (confirms_iff_of_grounds hgrounds).mpr confirms,
      repeats.mono hsub⟩
  · exact (Status.failedAction_eq_of_verdicts
      (verdicts_of_walk_observeRemote h)).trans hfailed

include stuck needed told in
/-- What is chosen is the action that failed. -/
theorem stuck_of_chooses {chosen : Option CorrectiveAction}
    (hsub : ∀ e ∈ t₁, e ∈ t) (h : p.Chooses t₁ s chosen) :
    chosen = some action ∧ s.Stuck basis action.signature := by
  obtain ⟨seen, observed, hneeded, free⟩ := h
  have hseen : seen.Stuck basis action.signature :=
    stuck_of_walk_observeRemote stuck told hsub observed
  rw [trackInFlight_of_unmarked hseen.unmarked] at free
  cases free
  refine ⟨?_, hseen⟩
  rw [← hneeded, ManagedResource.nextAction?_eq_of_grounds hseen.grounds,
    needed]

include stays stuck needed told in
/-- A pass that begins so sends nothing, and whatever it stores is stuck in the
same way. -/
theorem stuck_of_walk (h : p.run.Walk t r) :
    p.actionsSent t = [] ∧ ∀ s, .saved s ∈ t →
      s.Stuck basis action.signature := by
  -- an action that is gone about is not the one that failed, which is the only
  -- one to be chosen
  have hrefused : ∀ {t₁ s other}, (∀ e ∈ t₁, e ∈ t) →
      p.Chooses t₁ s (some other) → s.failedAction ≠ some other.signature →
        False := by
    intro t₁ s other hsub chosen fresh
    obtain ⟨hother, hstuck⟩ := stuck_of_chooses stuck needed told hsub chosen
    cases hother
    exact fresh hstuck.failed
  have hunsent :
      ∀ {t₁ s other}, (∀ e ∈ t₁, e ∈ t) → p.Sends t₁ s other → False := by
    rintro t₁ s other hsub ⟨chosen, hchosen, fresh, -⟩
    exact hrefused hsub hchosen fresh
  cases course_of_walk stays h with
  | stopped observed ending =>
    have quiet := quiet_of_walk_observeRemote observed
    refine ⟨actionsSent_of_idle quiet (ending_of_walk_finish ending),
      fun s hs => ?_⟩
    rw [eq_of_saved_mem_quits quiet ending hs]
    exact stuck_of_walk_observeRemote stuck told
      (fun e he => List.mem_append_left _ he) observed
  -- nothing is under way, so nothing is held back
  | @held t₁ t₂ seen _ _ _ observed held _ =>
    have hseen : seen.Stuck basis action.signature :=
      stuck_of_walk_observeRemote stuck told
        (fun e he => List.mem_append_left _ he) observed
    rw [trackInFlight_of_unmarked hseen.unmarked] at held
    cases held
  | settled chosen =>
    cases (stuck_of_chooses stuck needed told
      (fun e he => List.mem_append_left _ he) chosen).1
  | declined chosen failed ending =>
    have quiet := quiet_of_chooses chosen
    refine ⟨actionsSent_of_idle quiet (ending_of_walk_finish ending),
      fun s hs => ?_⟩
    rw [eq_of_saved_mem_quits quiet ending hs]
    obtain ⟨-, hstuck⟩ :=
      stuck_of_chooses stuck needed told
        (fun e he => List.mem_append_left _ he) chosen
    exact ⟨hstuck.grounds, hstuck.failed, hstuck.unmarked⟩
  | waited chosen fresh | illegal chosen fresh =>
    exact (hrefused (fun e he => List.mem_append_left _ he) chosen fresh).elim
  | uncredited sends | unmarked sends | sent sends =>
    exact (hunsent (fun e he => List.mem_append_left _ he) sends).elim

end Stuck

end Pass

/-! ## Runs -/

/-- A run that begins stuck, and in which every pass needs the action that
failed and is told the same of the object, stays stuck and sends nothing. -/
theorem stuck_of_reaches {s₀ s basis : Status} {turns : List Turn}
    {action : CorrectiveAction} (hrun : Reaches s₀ turns s)
    (hbegin : s₀.Stuck basis action.signature)
    (stays : ∀ turn ∈ turns, turn.pass.resource.deletionRequested = false)
    (needed : ∀ turn ∈ turns,
      turn.pass.resource.nextAction? basis = some action)
    (told : ∀ turn ∈ turns, ∀ id, basis.identity = some id → ∃ found,
      Pass.Confirms found basis ∧ Pass.Repeats id found turn.trace) :
    s.Stuck basis action.signature ∧ ∀ turn ∈ turns,
      turn.pass.actionsSent turn.trace = [] := by
  have hpass : ∀ turn ∈ turns, turn.pass.resource.status.Stuck basis
      action.signature → turn.pass.actionsSent turn.trace = [] ∧ ∀ s,
        .saved s ∈ turn.trace → s.Stuck basis action.signature :=
    fun turn hturn hstuck =>
      Pass.stuck_of_walk (stays turn hturn) hstuck (needed turn hturn)
        (told turn hturn) turn.walk
  obtain ⟨hstuck, hbegins⟩ := hrun.invariant hbegin fun turn hturn hstuck =>
    (hpass turn hturn hstuck).2
  exact ⟨hstuck, fun turn hturn => (hpass turn hturn (hbegins turn hturn)).1⟩

/-- **A failure for good is the last.** In a run over a resource that stays and
whose spec stays as it is, the action of the first pass fails for good and the
store takes that. Then no later pass sends any action, as long as all that the
passes are told of the object on record is what the first one went by, failures
other than that it is not found apart. If no object is on record, nothing is
asked of what they are told. -/
theorem nothing_sent_after_permanent_failure {s : Status} {failing : Turn}
    {after : List Turn} {sent rest : List PassEvent} {call : RemoteCall}
    {reply : Reply call.Answer} {action : CorrectiveAction} {e : RemoteError}
    (hrun : Reaches failing.pass.resource.status (failing :: after) s)
    (stays : ∀ turn ∈ failing :: after,
      turn.pass.resource.deletionRequested = false)
    (unchanged : ∀ turn ∈ after,
      turn.pass.resource.AsksAs failing.pass.resource)
    (htrace : failing.trace = sent ++ .remote call reply :: rest)
    (acts : failing.pass.sentBy (.remote call reply) = some action)
    (rejected : failing.pass.outcomeOf reply = .error e)
    (permanent : e.errorClass = .permanent)
    (stored : Pass.AllStored failing.trace)
    (told : ∀ id found, failing.stored.identity = some id →
      failing.pass.GoesBy failing.trace found →
        ∀ turn ∈ after, Pass.Repeats id found turn.trace) :
    ∀ turn ∈ after, turn.pass.actionsSent turn.trace = [] := by
  have hdel := stays failing (List.mem_cons_self ..)
  obtain ⟨looked, read, s', chosen, c, call', reply', hsent, he, sends,
      credentials, -, ending⟩ :=
    (Pass.course_of_walk hdel failing.walk).sends_of_sentBy htrace acts
  cases he
  have hsplit : failing.trace
      = (looked ++ read)
        ++ .saved (failing.pass.markDispatched s' chosen) :: .remote call reply
          :: rest := by
    rw [htrace, hsent, List.append_assoc]
    rfl
  have hstuck : failing.stored.Stuck s' chosen.signature :=
    Pass.stuck_of_sent failing.pass.resource.status sends credentials ending
      rejected permanent hsplit stored
  obtain ⟨seen, -, needed, hkept⟩ := sends.grounds
  refine (stuck_of_reaches hrun.tail hstuck
    (fun turn h => stays turn (List.mem_cons_of_mem _ h)) ?_ ?_).2
  · intro turn hturn
    rw [(unchanged turn hturn).nextAction?_eq
      (stays turn (List.mem_cons_of_mem _ hturn)) hdel,
      ManagedResource.nextAction?_eq_of_grounds hkept, needed]
  · intro turn hturn id hid
    obtain ⟨found, goes, confirms⟩ := sends.goesBy hdel hid
      (read
        ++ .saved (failing.pass.markDispatched s' chosen)
          :: .remote call reply :: rest)
    rw [← List.append_assoc, ← hsplit] at goes
    have hrecorded : failing.stored.identity = some id :=
      (congrArg Status.identity hstuck.grounds).trans hid
    exact ⟨found, confirms, told id found hrecorded goes turn hturn⟩

/-- A pass after the update that was rejected, over the same spec, that cannot
read the database. -/
def unreadAfterRejection : Turn :=
  .simulated Simulation.answer
    (.ofSized 2 rejectedUpdate.stored ⟨1700000060, 0⟩)
    (rejectingRemote "get" [smallDatabase])

/-- A pass after that one, to which the database is the same as before. -/
def unchangedAfterRejection : Turn :=
  .simulated Simulation.answer
    (.ofSized 2 unreadAfterRejection.stored ⟨1700000120, 0⟩)
    (rejectingRemote "update" [smallDatabase])

/-- The update that was rejected is not sent again. -/
theorem rejected_update_not_repeated :
    unreadAfterRejection.pass.actionsSent unreadAfterRejection.trace = []
      ∧ unchangedAfterRejection.pass.actionsSent unchangedAfterRejection.trace
        = [] := by
  obtain ⟨marked, failed, hfailing⟩ : ∃ marked failed, rejectedUpdate.trace
      = [.remote (.get "ocid1.adb.1") (.answered smallDatabase), .saved marked]
        ++ .remote (.update "ocid1.adb.1" { cpuCoreCount := some 2 })
          (.failed (.permanent "quota exceeded"))
          :: [.saved failed] := ⟨_, _, rfl⟩
  obtain ⟨counted, hunread⟩ : ∃ counted, unreadAfterRejection.trace
      = [.remote (.get "ocid1.adb.1") (.failed (.permanent "quota exceeded")),
        .saved counted] := ⟨_, rfl⟩
  have hunchanged : unchangedAfterRejection.trace
    = [.remote (.get "ocid1.adb.1") (.answered smallDatabase)] := rfl
  have hrun : Reaches rejectedUpdate.pass.resource.status
      (rejectedUpdate :: [unreadAfterRejection, unchangedAfterRejection])
        unchangedAfterRejection.stored :=
    .cons rfl (.cons rfl (.cons rfl .start))
  have hstored : Pass.AllStored rejectedUpdate.trace := by
    intro s e
    rw [hfailing]
    simp
  have hall :=
    nothing_sent_after_permanent_failure hrun ?_ ?_ hfailing rfl rfl rfl
      hstored ?_
  · exact ⟨hall _ (by simp), hall _ (by simp)⟩
  · intro turn hturn
    simp only [List.mem_cons, List.not_mem_nil, or_false] at hturn
    rcases hturn with rfl | rfl | rfl <;> rfl
  · intro turn hturn
    simp only [List.mem_cons, List.not_mem_nil, or_false] at hturn
    rcases hturn with rfl | rfl <;> exact ⟨rfl, rfl, rfl, rfl, rfl⟩
  · -- the first pass went by what it had read
    intro id found hid goes turn hturn
    obtain rfl : "ocid1.adb.1" = id := Option.some.inj hid
    have hreads : rejectedUpdate.pass.Reads "ocid1.adb.1" rejectedUpdate.trace
        (.answered smallDatabase) none :=
      .alone rfl rfl
    obtain rfl := goes.eq_of_reads hreads
    simp only [List.mem_cons, List.not_mem_nil, or_false] at hturn
    rcases hturn with rfl | rfl
    · rw [hunread]
      exact ⟨by simp [Reply.isNotFound, RemoteError.isNotFound],
        by simp, by simp⟩
    · rw [hunchanged]
      exact ⟨by simp [Reply.isNotFound], by simp [Pass.Agree, Pass.fresher],
        by simp⟩

end DatabaseOperator
