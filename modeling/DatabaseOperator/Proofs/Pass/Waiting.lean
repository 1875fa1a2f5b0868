import DatabaseOperator.Proofs.Pass.Confirmation
import DatabaseOperator.Proofs.Pass.Disagreement
import DatabaseOperator.Proofs.Pass.Driving
import DatabaseOperator.Proofs.Pass.Patience
import DatabaseOperator.Proofs.Pass.Recording

/-!
# Waiting for a precondition

An action whose precondition does not hold is not sent. The pass ends, and marks
when the wait began; a pass that comes the longest wait later reports that,
counts it as a failure, and marks a new beginning. So over a run of such passes
the mark names the pass that has timed out last, or the first one, and the wait
is measured from there.

- `Status.Admits`: nothing on record holds an action back or forbids it.
- `Pass.Judges`: a pass sees its object, finds that an action is needed, and
  what is known of its precondition.
- `Turn.Waits`, `Turn.waits_of_unmet`: what one pass does that finds the
  precondition not to hold.
- `waitBegan`: the clock from which the wait is measured.
- `Waited`, `waited_of_unmet`: what is on record after a run of such passes.
- `precondition_waited_for`: when they time out, how often, and what the pass
  does that finds the precondition to hold.
- `long_year_never_times_out`: a wait that is not measured, since its beginning
  cannot be read.
-/

namespace DatabaseOperator

/-- Nothing on record holds an action back or forbids it: it is not under way,
and has not failed for good. -/
structure Status.Admits (s : Status) (action : CorrectiveAction) : Prop where
  unmarked : ∀ m, s.inFlight = some m → m.signature ≠ action.signature
  unfailed : s.failedAction ≠ some action.signature

namespace Pass

variable {p : Pass} {s s' seen : Status} {t t₁ t₂ : List PassEvent}
    {r : Except OperatorError Outcome} {action : CorrectiveAction}
    {expected : StateRule} {verdict : PreconditionCheck} {m : PendingAction}

/-! ## Finding an action to be needed -/

/-- The pass sees its object and finds that an action is needed; from what is
known its precondition is judged so. -/
structure Judges (p : Pass) (t : List PassEvent) (action : CorrectiveAction)
    (verdict : PreconditionCheck) : Prop where
  stays : p.resource.deletionRequested = false
  found : ∃ t₁ t₂ seen, t = t₁ ++ t₂ ∧ (p.observeRemote p.initialStatus).Walk t₁
    (.proceed seen)
    ∧ p.resource.nextAction? seen = some action ∧ check seen action = verdict

/-- A mark that is there after observing was there before. -/
theorem inFlight_of_walk_observeRemote {step : Step}
    (observed : (p.observeRemote p.initialStatus).Walk t step)
    (marked : step.status.inFlight = some m) :
    p.resource.status.inFlight = some m := by
  have hinherits : ∀ {s : Status}, s.Inherits p.initialStatus →
      s.inFlight = some m → p.resource.status.inFlight = some m := by
    rintro s ⟨-, hkept | hdropped⟩ hmark
    · exact hkept.symm.trans hmark
    · rw [hdropped] at hmark
      cases hmark
  cases hid : p.resource.status.identity with
  | some id =>
    exact hinherits (inherits_of_walk_observeRemote hid observed) marked
  | none =>
    have hunknown : p.initialStatus.identity = none := hid
    rcases
        ((walk_observeRemote_of_none hunknown).mp observed).inherits_or_adopts
      with hkept | ⟨_, _, found, -, -, -, -, -, rfl⟩
    · exact hinherits hkept marked
    · exact marked

/-- An action that is not under way is not held back. -/
theorem trackInFlight_of_other
    (other : ∀ m, s.inFlight = some m → m.signature ≠ action.signature) :
    ∃ s', p.trackInFlight s (some action) = .proceed s' ∧ s'.Inherits s := by
  have hkept := inherits_trackInFlight p s (some action)
  cases hmark : s.inFlight with
  | none =>
    rw [trackInFlight_of_unmarked hmark] at hkept ⊢
    exact ⟨s, rfl, hkept⟩
  | some m =>
    have hfilter :
        (some action).filter (fun a => a.signature == m.signature) = none := by
      have hne : (action.signature == m.signature) = false := by
        rw [beq_eq_false_iff_ne]
        exact (other m hmark).symm
      simp [Option.filter, hne]
    obtain ⟨s', hproceed⟩ : ∃ s',
        p.trackInFlight s (some action) = .proceed s' := by
      unfold trackInFlight
      simp only [hmark, hfilter]
      split <;> exact ⟨_, rfl⟩
    rw [hproceed] at hkept
    exact ⟨s', hproceed, hkept⟩

/-- A pass chooses the action that it finds to be needed, if the record admits
it. -/
theorem Judges.chooses (judges : p.Judges t action verdict)
    (admits : p.resource.status.Admits action) :
    ∃ t₁ t₂ s, t = t₁ ++ t₂ ∧ p.Chooses t₁ s (some action)
      ∧ check (p.forgetFailed s) action = verdict
      ∧ s.Admits action := by
  obtain ⟨stays, t₁, t₂, seen, ht, observed, needed, judged⟩ := judges
  have hother : ∀ m, seen.inFlight = some m → m.signature ≠ action.signature :=
      fun m hmark =>
    admits.unmarked m (inFlight_of_walk_observeRemote observed hmark)
  obtain ⟨s, free, hkept⟩ := trackInFlight_of_other (p := p) hother
  have chosen : p.Chooses t₁ s (some action) := ⟨seen, observed, needed, free⟩
  refine ⟨t₁, t₂, s, ht, chosen, ?_, ?_, ?_⟩
  · -- what the precondition is judged by is not touched in between
    have hgrounds : (p.forgetFailed s).grounds = seen.grounds := by
      have hsame := grounds_trackInFlight p seen (some action)
      rw [free] at hsame
      rw [grounds_forgetFailed]
      exact hsame
    have hid : (p.forgetFailed s).identity = seen.identity :=
      (congrArg Status.identity hgrounds :)
    have hstate : (p.forgetFailed s).lifecycleState = seen.lifecycleState :=
      (congrArg Status.lifecycleState hgrounds :)
    rw [← judged]
    unfold check
    rw [hid, hstate]
  · intro m hmark
    obtain ⟨-, hsame | hdropped⟩ := hkept
    · exact hother m (hsame.symm.trans hmark)
    · rw [hdropped] at hmark
      cases hmark
  · rw [Status.failedAction_eq_of_journal chosen.journal]
    exact admits.unfailed

/-! ## What a pass that waits leaves -/

theorem waitingSince_eq_of_waiting (same : s'.waiting = s.waiting)
    (signature : String) :
    p.waitingSince s' signature = p.waitingSince s signature := by
  unfold waitingSince
  rw [same]

theorem waiting_recordWait_eq (same : s'.waiting = s.waiting)
    (signature : String) :
    (p.recordWait s' signature).waiting
      = (p.recordWait s signature).waiting := by
  unfold recordWait
  rw [same]
  split
  next => exact same
  next => rfl

/-- A wait for the action that is on record goes on, and one that is not begins
now. -/
theorem filter_waiting_recordWait (p : Pass) (s : Status) (signature : String) :
    ((p.recordWait s signature).waiting.filter fun m =>
      m.signature == signature)
      = (s.waiting.filter fun m => m.signature == signature).or
        (some (p.pending signature)) := by
  have hnow : (some (p.pending signature)).filter
      (fun m => m.signature == signature) = some (p.pending signature) := by
    simp [pending]
  unfold recordWait
  cases hwaiting : s.waiting with
  | none => exact hnow
  | some m =>
    by_cases hsame : m.signature = signature
    · simp [hwaiting, hsame, Option.filter_some]
    · simp only [Option.any_some, beq_eq_false_iff_ne.mpr hsame,
        Bool.false_eq_true, ↓reduceIte, Option.filter_some]
      exact hnow

theorem consecutiveFailures_recordWait (p : Pass) (s : Status)
    (signature : String) :
    (p.recordWait s signature).consecutiveFailures = s.consecutiveFailures := by
  unfold recordWait
  split <;> rfl

/-- When the longest wait is over, that is reported and counted, and a new wait
begins. -/
theorem waitFor_of_old
    (old : p.settings.maxWait
      ≤ Instant.sinceClamped (p.waitingSince s action.signature) p.now) :
    ∃ message, (p.waitFor s action expected).1
      = (countFailure
        { s with waiting := some (p.pending action.signature) }).reportWaiting
        p.stamp
        Reason.preconditionTimeout message := by
  unfold waitFor
  simp only [decideWait_eq_expired_iff.mpr old]
  exact ⟨_, rfl⟩

/-- Before, the wait goes on. -/
theorem waitFor_of_young
    (young : ¬ p.settings.maxWait
      ≤ Instant.sinceClamped (p.waitingSince s action.signature) p.now) :
    ∃ message, (p.waitFor s action expected).1
      = (p.recordWait s action.signature).reportWaiting p.stamp
        Reason.waitingForPrecondition message := by
  unfold waitFor decideWait
  simp only [young, ↓reduceIte]
  exact ⟨_, rfl⟩

/-- A waiting pass says why it waits. -/
theorem progressing_reportWaiting (s : Status) (stamp : Stamp)
    (reason message : String) :
    ((s.reportWaiting stamp reason message).condition?
      ConditionType.progressing).map Condition.reason
      = some reason := by
  have said : (s.reportWaiting stamp reason message).Says stamp.generation
    ConditionType.progressing true reason
      message := Status.says_set ..
  obtain ⟨c, hc, -, hreason, -⟩ := said
  rw [hc]
  exact congrArg some hreason

/-- A record that admits an action still does when the action waits. -/
theorem admits_waitFor_forgetFailed (admits : s.Admits action) :
    (p.waitFor (p.forgetFailed s) action expected).1.Admits action := by
  have hfailed :
      (p.waitFor (p.forgetFailed s) action expected).1.failedAction = none := by
    rw [(amends_waitFor ..).failedAction]
    exact (congrArg Status.failedAction (facts_forgetFailed p s) :)
  obtain ⟨-, hmark⟩ :=
    (inherits_waitFor p (p.forgetFailed s) action expected).trans
      (inherits_forgetFailed p s)
  constructor
  · intro m hm
    rcases hmark with hkept | hdropped
    · exact admits.unmarked m (hkept.symm.trans hm)
    · rw [hdropped] at hm
      cases hm
  · rw [hfailed]
    nofun

end Pass

/-! ## Timeouts -/

/-- The pass reports that the longest wait for a precondition is over. -/
def Turn.TimesOut (turn : Turn) : Prop :=
  (turn.stored.condition? ConditionType.progressing).map Condition.reason
    = some Reason.preconditionTimeout

instance (turn : Turn) : Decidable turn.TimesOut :=
  inferInstanceAs (Decidable (_ = _))

/-- What a pass does that finds the precondition of an action not to hold: it
sends nothing, and leaves on record that it waits. If the longest wait is over,
it reports and counts that, and marks a new beginning. -/
structure Turn.Waits (turn : Turn) (action : CorrectiveAction) : Prop where
  idle : turn.pass.actionsSent turn.trace = []
  admits : turn.stored.Admits action
  old : turn.pass.settings.maxWait
      ≤ Instant.sinceClamped
        (turn.pass.waitingSince turn.pass.resource.status action.signature)
        turn.pass.now →
    turn.TimesOut
      ∧ turn.stored.waiting = some (turn.pass.pending action.signature)
      ∧ turn.stored.consecutiveFailures
        = turn.pass.resource.status.consecutiveFailures + 1
  young : ¬ turn.pass.settings.maxWait
      ≤ Instant.sinceClamped
        (turn.pass.waitingSince turn.pass.resource.status action.signature)
        turn.pass.now →
    ¬ turn.TimesOut
      ∧ turn.stored.waiting
        = (turn.pass.recordWait turn.pass.resource.status
          action.signature).waiting
      ∧ turn.stored.consecutiveFailures
        = turn.pass.resource.status.consecutiveFailures

/-- A pass does so if the record admits the action, and the store takes what the
pass leaves. -/
theorem Turn.waits_of_unmet {turn : Turn} {action : CorrectiveAction}
    {expected : StateRule}
    (unmet : turn.pass.Judges turn.trace action (.unmet expected))
    (admits : turn.pass.resource.status.Admits action)
    (stored : Pass.AllStored turn.trace) : turn.Waits action := by
  obtain ⟨t₁, t₂, s, ht, chosen, hunmet, hadmits⟩ := unmet.chooses admits
  have hwalk := turn.walk
  rw [ht] at hwalk stored
  have quiet := Pass.quiet_of_chooses chosen
  have ending :=
    Pass.walk_quits_of_unmet unmet.stays chosen hadmits.unfailed hunmet hwalk
  -- what is stored is what the pass ends with
  have hstored : turn.stored
      = (turn.pass.waitFor (turn.pass.forgetFailed s) action expected).1 := by
    unfold Turn.stored
    rw [ht, storedAfter_append, Pass.storedAfter_of_quiet _ quiet]
    rcases Pass.storedAfter_finish_cases ending with ⟨-, hlast⟩ | ⟨refused, -⟩
    · exact hlast
    · exact absurd
        (Pass.AllStored.of_subset stored (List.subset_append_right t₁ t₂))
        refused
  -- of waits and failures the record says what it said when the pass began
  have hwaiting : (turn.pass.forgetFailed s).waiting
      = turn.pass.resource.status.waiting := by
    have hforgot : (turn.pass.forgetFailed s).waiting = s.waiting :=
      (congrArg Status.waiting (Pass.facts_forgetFailed _ s) :)
    rw [hforgot, Status.waiting_eq_of_unobserved chosen.unobserved]
    rfl
  have hcount : (turn.pass.forgetFailed s).consecutiveFailures
      = turn.pass.resource.status.consecutiveFailures := by
    have hforgot : (turn.pass.forgetFailed s).consecutiveFailures
        = s.consecutiveFailures :=
      (congrArg Status.consecutiveFailures (Pass.facts_forgetFailed _ s) :)
    rw [hforgot, Status.consecutiveFailures_eq_of_unobserved chosen.unobserved]
    rfl
  -- so the age of the wait is measured from where the record says
  have hsince :=
    Pass.waitingSince_eq_of_waiting (p := turn.pass) hwaiting action.signature
  have hreports : ∀ {left : Status} {reason message : String},
      turn.stored = left.reportWaiting turn.pass.stamp reason message →
      (turn.TimesOut ↔ reason = Reason.preconditionTimeout) := by
    intro left reason message hleft
    unfold Turn.TimesOut
    rw [hleft, Pass.progressing_reportWaiting, Option.some_inj]
  refine ⟨?_, ?_, ?_, ?_⟩
  · rw [ht]
    exact Pass.actionsSent_of_idle quiet (Pass.ending_of_walk_finish ending)
  · rw [hstored]
    exact Pass.admits_waitFor_forgetFailed hadmits
  · -- an old wait is reported as over, and counts as a failure
    intro old
    rw [← hsince] at old
    obtain ⟨message, hleft⟩ := Pass.waitFor_of_old old
    rw [← hstored] at hleft
    refine ⟨(hreports hleft).mpr rfl, ?_, ?_⟩
    · rw [hleft]
      rfl
    · rw [hleft, ← hcount]
      rfl
  · -- a young wait goes on, and nothing is counted
    intro young
    rw [← hsince] at young
    obtain ⟨message, hleft⟩ := Pass.waitFor_of_young young
    rw [← hstored] at hleft
    refine ⟨fun out => ?_, ?_, ?_⟩
    · have himpossible : Reason.waitingForPrecondition
        = Reason.preconditionTimeout := (hreports hleft).mp out
      exact absurd himpossible (by decide)
    · rw [hleft, ← Pass.waiting_recordWait_eq hwaiting]
      rfl
    · rw [hleft, ← hcount]
      exact Pass.consecutiveFailures_recordWait ..

/-! ## The pass that goes ahead -/

namespace Pass

/-- What is done about an object that is known needs no credentials. -/
theorem createsObject_of_unmet {p : Pass} {t : List PassEvent}
    {action : CorrectiveAction} {expected : StateRule}
    (unmet : p.Judges t action (.unmet expected)) :
    action.createsObject = false := by
  obtain ⟨stays, -, -, seen, -, -, needed, judged⟩ := unmet
  have hknown : seen.identity.isSome = true :=
    isSome_identity_of_unmet stays needed rfl judged
  rcases ManagedResource.nextAction?_of_identified stays hknown needed with
    ⟨_, rfl⟩ | ⟨_, rfl⟩ | ⟨request, -, rfl, gives⟩
  · rfl
  · rfl
  · exact (Bool.or_eq_false_iff.mp gives).1

/-- For an action that needs no credentials none are read. -/
theorem walk_readCredentials_of_not_createsObject {p : Pass}
    {t : List PassEvent} {action : CorrectiveAction}
    {credentials : Except OperatorError Credentials}
    (free : action.createsObject = false)
    (h : (p.readCredentials action).Walk t credentials) :
    t = [] ∧ credentials = .ok {} := by
  unfold readCredentials at h
  rw [if_neg (by rw [free]; nofun)] at h
  exact Program.walk_pure_iff.mp h

/-- An action whose precondition holds is sent. -/
theorem walk_dispatch_of_met {p : Pass} {t₁ t₂ : List PassEvent}
    {r : Except OperatorError Outcome} {s : Status} {action : CorrectiveAction}
    (stays : p.resource.deletionRequested = false)
    (chosen : p.Chooses t₁ s (some action))
    (fresh : s.failedAction ≠ some action.signature)
    (met : check (p.forgetFailed s) action = .met)
    (h : p.run.Walk (t₁ ++ t₂) r) :
    ∃ s', p.Sends t₁ s' action
      ∧ (p.dispatch s' p.resource.status action).Walk t₂ r := by
  have hact := walk_act_of_chooses stays h chosen
  unfold act at hact
  rw [if_neg fresh] at hact
  have hcheck : Precondition.check action.kind (p.forgetFailed s).identity
      (p.forgetFailed s).lifecycleState = .met :=
    met
  simp only [hcheck] at hact
  exact ⟨_, ⟨s, chosen, fresh, met, rfl⟩, hact⟩

/-- The sending of an action that needs no credentials begins with its mark, and
the call follows. -/
theorem sent_of_walk_dispatch {p : Pass} {t₁ t₂ : List PassEvent}
    {r : Except OperatorError Outcome} {s : Status} {action : CorrectiveAction}
    (stays : p.resource.deletionRequested = false) (sends : p.Sends t₁ s action)
    (free : action.createsObject = false) (stored : AllStored t₂)
    (h : (p.dispatch s p.resource.status action).Walk t₂ r) :
    ∃ (call : RemoteCall) (reply : Reply call.Answer) (t₃ : List PassEvent),
      t₂ = .saved (p.markDispatched s action) :: .remote call reply :: t₃
        ∧ p.callOf s.identity action {} = some call
        ∧ (p.sentEnding s action call reply).Walk t₃ r := by
  rcases walk_dispatch_cases (sends.callOf stays) h with
    ⟨t₃, t₄, e, -, credentials, -⟩ | ⟨t₃, c, e, rfl, -, -⟩ | ⟨t₃, t₄, c, call,
      reply, rfl, credentials, target, ending⟩
  · obtain ⟨-, himpossible⟩ :=
      walk_readCredentials_of_not_createsObject free credentials
    cases himpossible
  · exact absurd (by simp) (stored (p.markDispatched s action) e)
  · obtain ⟨rfl, hnone⟩ :=
      walk_readCredentials_of_not_createsObject free credentials
    cases hnone
    exact ⟨call, reply, t₄, rfl, target, ending⟩

/-- The answer to an action does not bear on waits. -/
theorem waiting_afterAnswer (p : Pass) (s : Status) (action : CorrectiveAction)
    (answer : Except RemoteError (Option Snapshot)) :
    (p.afterAnswer s action answer).1.waiting = s.waiting := by
  cases answer with
  | ok found =>
    cases action with
    | pdb request =>
      obtain ⟨kind⟩ := request
      cases kind <;> cases found <;> rfl
    | provision | bind _ | updateAttributes _ | changeState _ | delete _ =>
      cases found <;> rfl
  | error e =>
    show (p.afterFailure s action e).1.waiting = s.waiting
    unfold afterFailure
    simp only
    cases action.createsObject && e.errorClass == .transient
      <;> cases e.errorClass <;> rfl

end Pass

/-- A pass that finds the precondition of an action to hold sends the action,
and waits no more. -/
theorem Turn.sends_of_met {turn : Turn} {action : CorrectiveAction}
    (met : turn.pass.Judges turn.trace action .met)
    (admits : turn.pass.resource.status.Admits action)
    (free : action.createsObject = false) (stored : Pass.AllStored turn.trace) :
    ∃ sent, turn.pass.actionsSent turn.trace = [sent] ∧ sent.kind = action.kind
      ∧ sent.signature = action.signature
      ∧ turn.stored.waiting = none := by
  obtain ⟨t₁, t₂, chosen, ht, choosing, hmet, hadmits⟩ := met.chooses admits
  have hwalk := turn.walk
  rw [ht] at hwalk stored
  obtain ⟨s, sends, hdispatch⟩ :=
    Pass.walk_dispatch_of_met met.stays choosing hadmits.unfailed hmet hwalk
  have hstored : Pass.AllStored t₂ :=
    Pass.AllStored.of_subset stored (List.subset_append_right t₁ t₂)
  obtain ⟨call, reply, t₃, rfl, target, ending⟩ :=
    Pass.sent_of_walk_dispatch met.stays sends free hstored hdispatch
  obtain ⟨sent, hsent, hkind, hsignature⟩ :=
    Pass.sentBy_of_sends met.stays sends target reply
  have quiet := Pass.quiet_of_chooses choosing
  refine ⟨sent, ?_, hkind, hsignature, ?_⟩
  · rw [ht, Pass.actionsSent_append, Pass.actionsSent_of_quiet quiet,
      Pass.actionsSent_cons, Pass.actionsSent_cons, hsent,
      (Pass.ending_of_walk_finish ending).actionsSent]
    rfl
  · have hmarked : (turn.pass.markDispatched s action).waiting = none := by
      obtain ⟨_, -, -, -, rfl⟩ := sends
      rfl
    rw [← hmarked]
    unfold Turn.stored
    rcases Pass.storedAfter_sent_cases turn.pass.resource.status quiet ending ht
      with ⟨-, hlast⟩ | ⟨-, hlast⟩
    · rw [hlast, Pass.waiting_afterAnswer]
    · rw [hlast]

/-- The pass after which the wait on record began: the one that timed out last,
or else the first one. -/
def waitMark? (turns : List Turn) : Option Turn :=
  (turns.filter fun turn => turn.TimesOut).getLast?.or turns.head?

/-- The clock from which a pass measures its wait, after others: that of the
last pass that timed out, or else of the first one, which may be itself. -/
def waitBegan (before : List Turn) (turn : Turn) : Instant :=
  ((waitMark? before).getD turn).pass.now

theorem mem_of_waitMark? {turns : List Turn} {turn : Turn}
    (h : waitMark? turns = some turn) : turn ∈ turns := by
  unfold waitMark? at h
  rcases Option.or_eq_some_iff.mp h with hlast | ⟨-, hfirst⟩
  · exact (List.mem_filter.mp (List.mem_of_getLast? hlast)).1
  · exact List.mem_of_head? hfirst

theorem waitMark?_concat (turns : List Turn) (turn : Turn) :
    waitMark? (turns ++ [turn]) = if turn.TimesOut then some turn
      else (waitMark? turns).or (some turn) := by
  unfold waitMark?
  by_cases htimes : turn.TimesOut
  · simp [htimes]
  · cases turns with
    | nil => simp [htimes]
    | cons first rest => simp [htimes]

theorem waitBegan_concat (before : List Turn) (last turn : Turn) :
    waitBegan (before ++ [last]) turn = if last.TimesOut then last.pass.now
      else waitBegan before last := by
  unfold waitBegan
  rw [waitMark?_concat]
  split
  next => rfl
  next => cases waitMark? before <;> rfl

/-! ## Runs of passes that wait -/

section Runs

variable {s₀ s : Status} {turns : List Turn} {action : CorrectiveAction}
    {maxWait : Duration}

/-- The number of passes that time out. -/
def timeouts (turns : List Turn) : Nat :=
  (turns.filter fun turn => turn.TimesOut).length

/-- What is on record when some passes have waited for the precondition of an
action: the wait, marked by the pass after which it began, and a failure for
each pass that has timed out. -/
structure Waited (s₀ : Status) (action : CorrectiveAction) (turns : List Turn)
    (s : Status) : Prop where
  admits : s.Admits action
  waiting : (s.waiting.filter fun m => m.signature == action.signature)
    = (waitMark? turns).map fun turn => turn.pass.pending action.signature
  failures : s₀.consecutiveFailures.toNat + timeouts turns < 4294967296 →
    s.consecutiveFailures.toNat = s₀.consecutiveFailures.toNat + timeouts turns

/-- If the clock of that pass can be read back from its timestamp, the wait is
measured from it. -/
theorem Waited.waitingSince_eq (h : Waited s₀ action turns s) {turn : Turn}
    (begins : turn.pass.resource.status = s)
    (readable : ∀ earlier ∈ turns, earlier.pass.now.HasShortYear) :
    turn.pass.waitingSince turn.pass.resource.status action.signature
      = waitBegan turns turn := by
  unfold Pass.waitingSince waitBegan
  rw [begins, h.waiting]
  cases hmark : waitMark? turns with
  | none => rfl
  | some first =>
    have hmem : first ∈ turns := mem_of_waitMark? hmark
    show Instant.ofKept first.pass.now.timestamp turn.pass.now = first.pass.now
    rw [Instant.ofKept_timestamp, if_pos (readable first hmem)]

theorem timeouts_concat (turns : List Turn) (turn : Turn) :
    timeouts (turns ++ [turn]) = timeouts turns + if turn.TimesOut then 1
      else 0 := by
  unfold timeouts
  by_cases htimes : turn.TimesOut
  · simp [htimes]
  · simp [htimes]

/-- A pass that waits after others times out exactly if the longest wait is over
since the wait began, and leaves on record what that means. -/
theorem Waited.step (h : Waited s₀ action turns s) {turn : Turn}
    (begins : turn.pass.resource.status = s) (waits : turn.Waits action)
    (limit : turn.pass.settings.maxWait = maxWait)
    (readable : ∀ earlier ∈ turns, earlier.pass.now.HasShortYear) :
    Waited s₀ action (turns ++ [turn]) turn.stored
      ∧ (turn.TimesOut
        ↔ maxWait
          ≤ Instant.sinceClamped (waitBegan turns turn) turn.pass.now) := by
  have hold := waits.old
  have hyoung := waits.young
  rw [h.waitingSince_eq begins readable, limit, begins] at hold hyoung
  by_cases old : maxWait
    ≤ Instant.sinceClamped (waitBegan turns turn) turn.pass.now
  · obtain ⟨htimes, hwaiting, hcount⟩ := hold old
    refine ⟨⟨waits.admits, ?_, ?_⟩, iff_of_true htimes old⟩
    · rw [hwaiting, waitMark?_concat, if_pos htimes]
      simp [Pass.pending]
    · rw [timeouts_concat, if_pos htimes]
      intro bounded
      have hearlier := h.failures (by omega)
      rw [hcount, Pass.toNat_add_one (by omega), hearlier, Nat.add_assoc]
  · obtain ⟨hnot, hwaiting, hcount⟩ := hyoung old
    refine ⟨⟨waits.admits, ?_, ?_⟩, iff_of_false hnot old⟩
    · rw [hwaiting, Pass.filter_waiting_recordWait, h.waiting, waitMark?_concat,
        if_neg hnot]
      cases waitMark? turns <;> rfl
    · rw [timeouts_concat, if_neg hnot, hcount]
      exact h.failures

/-- **What a run of waiting passes leaves.** The record tells of the wait that
goes on and of those that have ended. -/
theorem waited_of_unmet (run : Reaches s₀ turns s) (fresh : s₀.Admits action)
    (unwaited : ∀ m, s₀.waiting = some m → m.signature ≠ action.signature)
    (unmet : ∀ turn ∈ turns, ∃ expected, turn.pass.Judges turn.trace action
      (.unmet expected)) (stored : ∀ turn ∈ turns, Pass.AllStored turn.trace)
    (limit : ∀ turn ∈ turns, turn.pass.settings.maxWait = maxWait)
    (readable : ∀ turn ∈ turns, turn.pass.now.HasShortYear) :
    Waited s₀ action turns s
      ∧ ∀ before turn after, turns = before ++ turn :: after →
        turn.pass.actionsSent turn.trace = []
          ∧ (turn.TimesOut
            ↔ maxWait
              ≤ Instant.sinceClamped
                (waitBegan before turn) turn.pass.now) := by
  induction run with
  | start =>
    refine ⟨⟨fresh, ?_, fun _ => rfl⟩, by simp⟩
    cases hwaiting : s₀.waiting with
    | none => rfl
    | some m => simp [Option.filter_some, unwaited m hwaiting, waitMark?]
  | @step turns s turn past begins ih =>
    simp only [List.forall_mem_append, List.forall_mem_singleton]
      at unmet stored limit readable
    obtain ⟨waited, hearlier⟩ := ih unmet.1 stored.1 limit.1 readable.1
    obtain ⟨expected, judges⟩ := unmet.2
    have waits : turn.Waits action :=
      Turn.waits_of_unmet judges (begins ▸ waited.admits) stored.2
    obtain ⟨hwaited, htimes⟩ := waited.step begins waits limit.2 readable.1
    exact ⟨hwaited, forall_split_concat_iff.mpr ⟨hearlier, waits.idle, htimes⟩⟩

/-- What the longest wait has passed for since the wait after a pass that timed
out began, it has passed for since that pass. -/
theorem le_sinceClamped_of_waitBegan
    (measured : ∀ before turn after, turns = before ++ turn :: after →
      (turn.TimesOut
        ↔ maxWait ≤ Instant.sinceClamped (waitBegan before turn) turn.pass.now))
    {before between after : List Turn} {first turn : Turn}
    (hsplit : turns = before ++ first :: (between ++ after))
    (out : first.TimesOut)
    (long : ∀ turn ∈ between, turn.TimesOut →
      turn.pass.now.inLeapSecond = true → Duration.ofSeconds 1 ≤ maxWait)
    {stop : Instant}
    (passed :
      maxWait
        ≤ Instant.sinceClamped
          (waitBegan (before ++ first :: between) turn) stop) :
    maxWait ≤ Instant.sinceClamped first.pass.now stop := by
  induction between using List.reverseRecOn generalizing turn after stop with
  | nil =>
    rw [waitBegan_concat, if_pos out] at passed
    exact passed
  | append_singleton between next ih =>
    rw [List.append_assoc] at hsplit
    rw [← List.cons_append, ← List.append_assoc, waitBegan_concat] at passed
    simp only [List.forall_mem_append, List.forall_mem_singleton] at long
    by_cases hnext : next.TimesOut
    · rw [if_pos hnext] at passed
      -- the longest wait has passed twice, up to the pass that timed out last
      -- and since then
      have hthere : turns = (before ++ first :: between) ++ next :: after := by
        simp [hsplit]
      have hbefore := ih hsplit long.1 ((measured _ _ _ hthere).mp hnext)
      exact Instant.le_sinceClamped_trans (long.2 hnext) hbefore passed
    · rw [if_neg hnext] at passed
      exact ih hsplit long.1 passed

end Runs

/-- **Waiting for a precondition.** A run of passes begins with a status that
admits an action and has no wait for it on record. Each pass finds the action to
be needed and its precondition not to hold; their status is stored, the longest
wait is always the same, and their clocks lie in years that timestamps are read
back from.

1. None of them sends an action, and each reports a timeout exactly if the
   longest wait is over since the last one that did, or else since the first
   pass. It does not matter how the clocks go.
2. So any two timeouts lie the longest wait apart. If that is less than a
   second, none between them may lie in a leap second.
3. There is one failure on record for each timeout.
4. A pass after them that finds the action to be needed and its precondition to
   hold sends it, and no wait is left. -/
theorem precondition_waited_for {s₀ s : Status} {turns : List Turn}
    {action : CorrectiveAction} {maxWait : Duration} (run : Reaches s₀ turns s)
    (fresh : s₀.Admits action)
    (unwaited : ∀ m, s₀.waiting = some m → m.signature ≠ action.signature)
    (unmet : ∀ turn ∈ turns, ∃ expected,
      turn.pass.Judges turn.trace action (.unmet expected))
    (stored : ∀ turn ∈ turns, Pass.AllStored turn.trace)
    (limit : ∀ turn ∈ turns, turn.pass.settings.maxWait = maxWait)
    (readable : ∀ turn ∈ turns, turn.pass.now.HasShortYear) :
    (∀ before turn after, turns = before ++ turn :: after →
      turn.pass.actionsSent turn.trace = []
        ∧ (turn.TimesOut
          ↔ maxWait
            ≤ Instant.sinceClamped (waitBegan before turn) turn.pass.now))
      ∧ (∀ before first between later after,
        turns = before ++ first :: (between ++ later :: after) →
          first.TimesOut → later.TimesOut →
            (∀ turn ∈ between, turn.TimesOut →
              turn.pass.now.inLeapSecond = true →
                Duration.ofSeconds 1 ≤ maxWait) →
              maxWait ≤ Instant.sinceClamped first.pass.now later.pass.now)
      ∧ (s₀.consecutiveFailures.toNat + timeouts turns < 4294967296 →
        s.consecutiveFailures.toNat
          = s₀.consecutiveFailures.toNat + timeouts turns)
      ∧ (turns ≠ [] → ∀ last : Turn, last.pass.resource.status = s →
        last.pass.Judges last.trace action .met → Pass.AllStored last.trace →
          ∃ sent, last.pass.actionsSent last.trace = [sent]
            ∧ sent.kind = action.kind ∧ sent.signature = action.signature
            ∧ last.stored.waiting = none) := by
  obtain ⟨waited, hpasses⟩ :=
    waited_of_unmet run fresh unwaited unmet stored limit readable
  refine ⟨hpasses, ?_, waited.failures, ?_⟩
  · intro before first between later after hsplit hfirst hlater long
    have measured : ∀ before turn after, turns = before ++ turn :: after →
        (turn.TimesOut
          ↔ maxWait
            ≤ Instant.sinceClamped (waitBegan before turn) turn.pass.now) :=
      fun before turn after h => (hpasses before turn after h).2
    have hthere : turns = (before ++ first :: between) ++ later :: after := by
      simp [hsplit]
    exact le_sinceClamped_of_waitBegan measured hsplit hfirst long
      ((measured _ _ _ hthere).mp hlater)
  · intro some_waited last begins met hstored
    obtain ⟨first, hfirst⟩ := List.exists_mem_of_ne_nil turns some_waited
    obtain ⟨expected, hunmet⟩ := unmet first hfirst
    exact Turn.sends_of_met met (begins ▸ waited.admits)
      (Pass.createsObject_of_unmet hunmet) hstored

/-! ## A wait that times out, and one that never does -/

/-- The small database while it changes. -/
def busyDatabase : Snapshot :=
  { smallDatabase with state := .updating }

/-- A pass that finds it, though it is to be larger. -/
def busyTurn (status : Status) (seconds : Int) : Turn :=
  .simulated Simulation.answer (.ofSized 2 status ⟨seconds, 0⟩)
    { remote := { objects := .ofList [(busyDatabase.id, busyDatabase)] } }

/-- The action that is needed. -/
def enlargement : CorrectiveAction :=
  .updateAttributes { cpuCoreCount := some 2 }

/-- Such a pass finds that the database is to be available first. -/
theorem judges_busyTurn {status : Status} {seconds : Int}
    (known : status.identity = some "ocid1.adb.1")
    (unmarked : status.inFlight = none)
    (settled : status.consistencyRetries = 0) :
    ∃ expected, (busyTurn status seconds).pass.Judges
      (busyTurn status seconds).trace enlargement
      (.unmet expected) := by
  have hstatus : status
      = { status with
          identity := some "ocid1.adb.1", inFlight := none
          consistencyRetries := 0 } := by
    rw [← known, ← unmarked, ← settled]
  rw [hstatus]
  obtain ⟨rest, htrace⟩ : ∃ rest,
      (busyTurn
        { status with
          identity := some "ocid1.adb.1", inFlight := none
          consistencyRetries := 0 }
        seconds).trace
        = [.remote (.get "ocid1.adb.1") (.answered busyDatabase)] ++ rest :=
    ⟨_, rfl⟩
  exact ⟨_, rfl, _, _, _, htrace, .ask _ (.done _), rfl, rfl⟩

/-- The wait begins. -/
def firstWait : Turn :=
  busyTurn { identity := some "ocid1.adb.1" } 1700000000

/-- The longest wait is just over. -/
def lastWait : Turn :=
  busyTurn firstWait.stored 1700000900

/-- The database is available again. -/
def endedWait : Turn :=
  .simulated Simulation.answer (.ofSized 2 lastWait.stored ⟨1700000960, 0⟩)
    (failingRemote [])

theorem judges_endedWait :
    endedWait.pass.Judges endedWait.trace enlargement .met := by
  obtain ⟨rest, htrace⟩ : ∃ rest, endedWait.trace
      = [.remote (.get "ocid1.adb.1") (.answered smallDatabase)] ++ rest :=
    ⟨_, rfl⟩
  exact ⟨rfl, _, _, _, htrace, .ask _ (.done _), rfl, rfl⟩

/-- The first pass waits, the second one times out, and the third one sends the
update. -/
theorem wait_times_out_and_ends :
    ¬ firstWait.TimesOut ∧ lastWait.TimesOut
      ∧ lastWait.stored.consecutiveFailures.toNat = 1
      ∧ ∃ sent, endedWait.pass.actionsSent endedWait.trace = [sent]
        ∧ sent.kind = enlargement.kind
        ∧ sent.signature = enlargement.signature
        ∧ endedWait.stored.waiting = none := by
  have run : Reaches { identity := some "ocid1.adb.1" }
      [firstWait, lastWait] lastWait.stored :=
    .cons rfl (.cons rfl .start)
  have unmet : ∀ turn ∈ [firstWait, lastWait],
      ∃ expected, turn.pass.Judges turn.trace enlargement (.unmet expected) :=
    List.forall_mem_cons.mpr ⟨judges_busyTurn rfl rfl rfl,
      List.forall_mem_singleton.mpr (judges_busyTurn rfl rfl rfl)⟩
  have limit : ∀ turn ∈ [firstWait, lastWait], turn.pass.settings.maxWait
    = .ofSeconds 900 := by decide
  have readable : ∀ turn ∈ [firstWait, lastWait], turn.pass.now.HasShortYear :=
    List.forall_mem_cons.mpr
      ⟨by decide, List.forall_mem_singleton.mpr (by decide)⟩
  obtain ⟨hmeasured, -, hfailures, hsends⟩ :=
    precondition_waited_for run ⟨nofun, nofun⟩ nofun unmet
      (by decide +kernel) limit readable
  have hfirst := hmeasured [] firstWait [lastWait] rfl
  have hlast := hmeasured [firstWait] lastWait [] rfl
  have hcounted : timeouts [firstWait, lastWait] = 1 := by decide +kernel
  rw [hcounted] at hfailures
  exact ⟨fun out => absurd (hfirst.2.mp out) (by decide),
    hlast.2.mpr (by decide), hfailures (by decide),
    hsends (by simp) endedWait rfl judges_endedWait (by decide +kernel)⟩

/-- A wait begins when the years no longer have four digits. -/
def longYearWait : Turn :=
  busyTurn { identity := some "ocid1.adb.1" } 253402300800

/-- The pass after it, when the longest wait is over. -/
def laterLongYearWait : Turn :=
  busyTurn longYearWait.stored 253402301800

/-- The longest wait is over, but the pass does not time out. -/
theorem long_year_never_times_out :
    Reaches { identity := some "ocid1.adb.1" } [longYearWait, laterLongYearWait]
      laterLongYearWait.stored
      ∧ (∀ turn ∈ [longYearWait, laterLongYearWait],
        (∃ expected, turn.pass.Judges turn.trace enlargement (.unmet expected))
          ∧ Pass.AllStored turn.trace)
      ∧ laterLongYearWait.pass.settings.maxWait
        ≤ Instant.sinceClamped longYearWait.pass.now laterLongYearWait.pass.now
      ∧ ¬ laterLongYearWait.TimesOut := by
  refine ⟨.cons rfl (.cons rfl .start), ?_, by decide,
    by decide +kernel⟩
  exact List.forall_mem_cons.mpr
    ⟨⟨judges_busyTurn rfl rfl rfl, by decide +kernel⟩,
      List.forall_mem_singleton.mpr ⟨judges_busyTurn rfl rfl rfl,
        by decide +kernel⟩⟩

end DatabaseOperator
