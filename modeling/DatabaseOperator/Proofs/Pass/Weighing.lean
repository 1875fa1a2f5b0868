import DatabaseOperator.Proofs.Pass.Appearance
import DatabaseOperator.Proofs.Pass.Refusal
import DatabaseOperator.Proofs.Pass.Sights
import DatabaseOperator.Proofs.Status.Reports
import DatabaseOperator.Proofs.Time.Age

/-!
# The marks that hold a pass back

What was sent, or what cannot be sent yet, is marked with a time. There are five
points at which a pass goes by the age of such a mark alone: a create has not
shown its object, an object that was made is not readable, an action is not seen
to have happened, the precondition of an action does not hold, and an object
that was deleted is still there. While the mark is young the pass ends there and
leaves the mark; once it is old the pass goes on.

- `Pass.Weighs`: a pass comes to the point where the age of a mark decides, and
  `Pass.HoldsBack`: the mark is young.
- `Pass.MovesOn`: what a pass does that is not held back.
- `Pass.HoldsBack.quits`: a pass that is held back sends nothing, and keeps the
  mark.
- `Pass.Weighs.movesOn`: a pass that weighs an old mark goes on.
-/

namespace DatabaseOperator

namespace Pass

variable {p q : Pass} {m : PendingAction} {s s' seen : Status} {id : String}
    {t u t₁ t₂ : List PassEvent} {step : Step} {action : CorrectiveAction}
    {r r' : Except OperatorError Outcome} {o : Outcome}

/-! ## Weighing a mark -/

/-- The object of a create does not show, and the create cannot be repeated
either: the list does not show exactly one live object, or there is no name to
look it up by and no token. -/
inductive Unshown (p : Pass) : List Sight → Prop where
  | blind {shown : List Sight}
      (nameless : p.resource.listFilter.displayName = none)
      (token : p.resource.retryToken = none) : Unshown p shown
  | unseen {reply : Reply (List Snapshot)} {shown : List Sight}
      (named : p.resource.listFilter.displayName.isSome = true)
      (unseen : soleLive reply.items = none) : Unshown p (.list reply :: shown)

/-- An object is found neither directly nor in the list. -/
inductive Nowhere (id : String) : List Sight → Prop where
  | missed {direct : Reply Snapshot} {reply : Reply (List Snapshot)}
      {shown : List Sight} (absent : direct.isNotFound = true)
      (unlisted : listedAs id reply.items = none) :
      Nowhere id (.object id direct :: .list reply :: shown)

/-- An object is found directly, or else in the list, and in a state. -/
inductive FoundIn (id : String) : List Sight → LifecycleState → Prop where
  | read {found : Snapshot} {shown : List Sight} :
      FoundIn id (.object id (.answered found) :: shown) found.state
  | listed {direct : Reply Snapshot} {reply : Reply (List Snapshot)}
      {found : Snapshot} {shown : List Sight}
      (absent : direct.isNotFound = true)
      (listed : listedAs id reply.items = some found) :
      FoundIn id (.object id direct :: .list reply :: shown) found.state

/-- The pass comes to the point where the age of a mark decides whether it goes
on. -/
inductive Weighs (p : Pass) (m : PendingAction) (t : List PassEvent) :
    Prop where
  /-- A create was sent, and its object does not show. A deletion waits for it
  too, if it is to remove the object. -/
  | creating
      (attends : p.resource.deletionRequested = true →
        p.resource.hardLink = true)
      (unknown : p.resource.status.identity = none)
      (marked : p.resource.status.inFlight = some m)
      (create : isCreateSignature m.signature = true)
      (unshown : p.Unshown (sights t))
  /-- What was made or bound is on record, and is not readable. -/
  | appearing {id : String} (stays : p.resource.deletionRequested = false)
      (known : p.resource.status.identity = some id)
      (marked : p.resource.status.inFlight = some m)
      (brings :
        (isCreateSignature m.signature || isBindSignature m.signature) = true)
      (nowhere : Nowhere id (sights t))
  /-- The action that was sent is needed still. -/
  | confirming {t₁ t₂ : List PassEvent} {seen : Status}
      {action : CorrectiveAction} (stays : p.resource.deletionRequested = false)
      (ht : t = t₁ ++ t₂)
      (observed : (p.observeRemote p.initialStatus).Walk t₁ (.proceed seen))
      (marked : seen.inFlight = some m)
      (needed : p.resource.nextAction? seen = some action)
      (same : action.signature = m.signature)
  /-- The precondition of the action that is needed does not hold. -/
  | waiting {t₁ t₂ : List PassEvent} {s : Status} {action : CorrectiveAction}
      {expected : StateRule} (stays : p.resource.deletionRequested = false)
      (ht : t = t₁ ++ t₂) (chosen : p.Chooses t₁ s (some action))
      (fresh : s.failedAction ≠ some action.signature)
      (unmet : check (p.forgetFailed s) action = .unmet expected)
      (marked : (p.recordWait (p.forgetFailed s) action.signature).waiting
        = some m)
  /-- The delete call was sent, and the object is still there. -/
  | deleting {id : String} {state : LifecycleState}
      (leaves : p.resource.deletionRequested = true)
      (hard : p.resource.hardLink = true)
      (known : p.resource.status.identity = some id)
      (marked : p.resource.status.inFlight = some m)
      (same : m.signature = deleteSignature)
      (found : FoundIn id (sights t) state)
      (standing : state.isTornDown = false)

/-- A mark holds the pass back: it is weighed, and young. -/
def HoldsBack (p : Pass) (m : PendingAction) (t : List PassEvent) : Prop :=
  p.Weighs m t ∧ Instant.age m.since p.now < p.settings.maxWait

/-- A pass that has weighed a mark goes on. -/
inductive MovesOn (p : Pass) (m : PendingAction) (t : List PassEvent)
    (r : Except OperatorError Outcome) : Prop where
  /-- Without the mark, the first action of the resource is chosen. -/
  | reopened {t₁ t₂ : List PassEvent} {s : Status} (ht : t = t₁ ++ t₂)
      (chosen : p.Chooses t₁ s p.resource.firstAction?)
      (unknown : s.identity = none) (unmarked : s.inFlight = none)
  /-- Without the mark, the action is chosen again. -/
  | retried {t₁ t₂ : List PassEvent} {s : Status} {action : CorrectiveAction}
      (ht : t = t₁ ++ t₂) (chosen : p.Chooses t₁ s (some action))
      (same : action.signature = m.signature) (unmarked : s.inFlight = none)
  /-- The end of the wait is reported, and a new wait begins. -/
  | timedOut {t₁ t₂ : List PassEvent} {s : Status} {message : String}
      {d : Duration} (ht : t = t₁ ++ t₂) (ending : (p.quits s d).Walk t₂ r)
      (reported : s.Says p.resource.generation ConditionType.progressing true
        Reason.preconditionTimeout message)
      (again : s.waiting = some (p.pending m.signature))
  /-- The object is not waited for any more, and the mark is dropped. -/
  | forgotten {t₁ t₂ : List PassEvent} {s : Status} {d : Duration}
      (ht : t = t₁ ++ t₂) (ending : (p.quits s d).Walk t₂ r)
      (unmarked : s.inFlight = none)
  /-- A deletion lets the resource go. -/
  | released {t₁ t₂ : List PassEvent} {s : Status} (ht : t = t₁ ++ t₂)
      (ending : (release (p.unsent s)).Walk t₂ r)
  /-- A deletion marks the delete call again, and sends it if the store takes
  the mark. -/
  | resent {before after : List PassEvent} {s : Status}
      {answer : Except OperatorError Unit}
      (ht :
        t = before ++ .store (.saveStatus (p.markDeleted s)) answer :: after)
      (sent : answer = .ok () → ∃ id reply rest,
        after = .remote (.delete id) reply :: rest)

/-! ## Held back -/

/-- The pass ends with a status, and has sent nothing. -/
def Quits (p : Pass) (s : Status) (t : List PassEvent)
    (r : Except OperatorError Outcome) : Prop :=
  ∃ t₁ t₂ d, t = t₁ ++ t₂ ∧ (∀ e ∈ t₁, p.Quiet e) ∧ (p.quits s d).Walk t₂ r

theorem Quits.idle (h : p.Quits s t r) : p.actionsSent t = [] := by
  obtain ⟨t₁, t₂, d, rfl, quiet, ending⟩ := h
  exact actionsSent_of_idle quiet (ending_of_walk_finish ending)

theorem Quits.status_eq (h : p.Quits s t (.ok o)) : o.status = s := by
  obtain ⟨t₁, t₂, d, rfl, quiet, ending⟩ := h
  rw [ended_of_walk_finish ending]
  rfl

/-- A pass over a resource that stays is over when its first stage ends it. -/
theorem quits_of_stop {d : Duration}
    (stays : p.resource.deletionRequested = false) (h : p.run.Walk (t₁ ++ t₂) r)
    (observed : (p.observeRemote p.initialStatus).Walk t₁ (.stop s d)) :
    p.Quits s (t₁ ++ t₂) r :=
  ⟨t₁, t₂, d, rfl, quiet_of_walk_observeRemote observed,
    walk_onward stays h observed⟩

/-- So it is when the action that is needed is held back. -/
theorem quits_of_held {d : Duration}
    (stays : p.resource.deletionRequested = false) (h : p.run.Walk (t₁ ++ t₂) r)
    (observed : (p.observeRemote p.initialStatus).Walk t₁ (.proceed seen))
    (held : p.trackInFlight seen (p.resource.nextAction? seen) = .stop s d) :
    p.Quits s (t₁ ++ t₂) r := by
  have hrest := walk_onward stays h observed
  unfold onward at hrest
  simp only [held] at hrest
  exact ⟨t₁, t₂, d, rfl, quiet_of_walk_observeRemote observed, hrest⟩

/-! ### Creates -/

/-- A create whose object does not show is waited for by the age of its mark. -/
theorem Recovery.eq_awaitCreated (h : p.Recovery s t₁ step)
    (marked : s.inFlight = some m)
    (create : isCreateSignature m.signature = true)
    (unshown : p.Unshown (sights (t₁ ++ t₂))) : step = p.awaitCreated s m := by
  generalize hsights : sights (t₁ ++ t₂) = shown at unshown
  cases h with
  | unmarked unmarked =>
    rw [marked] at unmarked
    cases unmarked
  | irrelevant marked' other =>
    obtain rfl := Option.some.inj (marked.symm.trans marked')
    rw [create] at other
    cases other
  | repeatable _ _ nameless token =>
    cases unshown with
    | blind _ untokened => rw [untokened] at token; cases token
    | unseen named => rw [nameless] at named; cases named
  | blind marked' | unseen marked' =>
    obtain rfl := Option.some.inj (marked.symm.trans marked')
    rfl
  | adopted _ _ named sole =>
    cases unshown with
    | blind nameless => rw [nameless] at named; cases named
    | unseen _ unseen =>
      cases hsights
      rw [unseen] at sole
      cases sole

section Creating

variable (unknown : p.resource.status.identity = none)
    (marked : p.resource.status.inFlight = some m)
    (create : isCreateSignature m.signature = true)

include unknown marked create

theorem eq_awaitCreated_of_unshown (unshown : p.Unshown (sights (t₁ ++ t₂)))
    (observed : (p.observeRemote p.initialStatus).Walk t₁ step) :
    step = p.awaitCreated p.initialStatus m := by
  have hunknown : p.initialStatus.identity = none := unknown
  exact ((walk_observeRemote_of_none hunknown).mp observed).eq_awaitCreated
    marked create unshown

theorem eq_awaitCreated_of_identify (unshown : p.Unshown (sights (t₁ ++ t₂)))
    (identified : (p.identify p.deletingStatus).Walk t₁ step) :
    step = p.awaitCreated p.deletingStatus m := by
  have hunknown : p.deletingStatus.identity = none := unknown
  exact ((walk_identify_of_none hunknown).mp identified).eq_awaitCreated marked
    create unshown

/-- While the mark of a create is young, the pass leaves it as it is. -/
theorem quits_of_creating
    (attends : p.resource.deletionRequested = true → p.resource.hardLink = true)
    (unshown : p.Unshown (sights t))
    (young : Instant.age m.since p.now < p.settings.maxWait)
    (h : p.run.Walk t r) :
    ∃ s, p.Quits s t r ∧ s.identity = none ∧ s.inFlight = some m := by
  cases hdel : p.resource.deletionRequested with
  | false =>
    obtain ⟨t₁, rest, step, rfl, observed, -⟩ :=
      (course_of_walk hdel h).looks_first
    obtain ⟨s, d, hstop, hfacts⟩ : ∃ s d, p.awaitCreated p.initialStatus m
        = .stop s d ∧ s.facts = p.initialStatus.facts :=
      awaitCreated_of_young young
    obtain rfl :=
      eq_awaitCreated_of_unshown unknown marked create unshown observed
    rw [hstop] at observed
    exact ⟨s, quits_of_stop hdel h observed,
      (Status.identity_eq_of_facts hfacts).trans unknown,
      (Status.inFlight_eq_of_facts hfacts).trans marked⟩
  | true =>
    obtain ⟨s, d, hstop, hfacts⟩ : ∃ s d,
      p.awaitCreated p.deletingStatus m = .stop s d
        ∧ s.facts = p.deletingStatus.facts := awaitCreated_of_young young
    have hstep : ∀ {t₁ t₂ step}, t = t₁ ++ t₂ →
        (p.identify p.deletingStatus).Walk t₁ step → step = .stop s d := by
      rintro t₁ t₂ step rfl identified
      exact (eq_awaitCreated_of_identify unknown marked create unshown
        identified).trans hstop
    cases teardown_of_walk hdel h with
    | detached soft =>
      rw [attends hdel] at soft
      cases soft
    | awaited _ identified ending =>
      cases hstep rfl identified
      refine ⟨_, ⟨_, _, _, rfl, quiet_of_walk_identify identified, ending⟩, ?_,
        ?_⟩
      · exact (Status.identity_eq_of_facts hfacts).trans unknown
      · exact (Status.inFlight_eq_of_facts hfacts).trans marked
    | objectless _ identified => cases hstep rfl identified
    | known _ knows => cases hstep rfl knows.1

/-- Once it is old, the mark is dropped: the first action of the resource is
chosen, or a deletion has no object to remove. -/
theorem movesOn_of_creating
    (attends : p.resource.deletionRequested = true → p.resource.hardLink = true)
    (unshown : p.Unshown (sights t))
    (old : ¬ Instant.age m.since p.now < p.settings.maxWait)
    (h : p.run.Walk t r) : p.MovesOn m t r := by
  cases hdel : p.resource.deletionRequested with
  | false =>
    obtain ⟨t₁, rest, step, rfl, observed, -⟩ :=
      (course_of_walk hdel h).looks_first
    obtain rfl :=
      eq_awaitCreated_of_unshown unknown marked create unshown observed
    rw [awaitCreated_of_old old] at observed
    have hunknown :
        { p.initialStatus with inFlight := none }.identity = none := unknown
    refine .reopened rfl ⟨_, observed, ?_, trackInFlight_of_unmarked rfl _⟩
      hunknown rfl
    exact ManagedResource.nextAction?_of_unidentified hdel hunknown
  | true =>
    have hstep : ∀ {t₁ t₂ step}, t = t₁ ++ t₂ →
        (p.identify p.deletingStatus).Walk t₁ step →
          step = .proceed { p.deletingStatus with inFlight := none } := by
      rintro t₁ t₂ step rfl identified
      exact (eq_awaitCreated_of_identify unknown marked create unshown
        identified).trans (awaitCreated_of_old old)
    cases teardown_of_walk hdel h with
    | detached soft =>
      rw [attends hdel] at soft
      cases soft
    | awaited _ identified => cases hstep rfl identified
    | objectless _ _ _ ending => exact .released rfl ending
    | known _ knows =>
      obtain ⟨identified, hid⟩ := knows
      cases hstep rfl identified
      cases unknown.symm.trans hid

end Creating

/-! ### Objects that are not readable yet -/

/-- A pass that is shown its object nowhere misses it. -/
theorem misses_of_nowhere (stays : p.resource.deletionRequested = false)
    (known : p.resource.status.identity = some id)
    (nowhere : Nowhere id (sights t)) (h : p.run.Walk t r) :
    ∃ reply, p.Misses id t reply := by
  obtain ⟨t₁, rest, step, rfl, observed, hsights⟩ := sights_of_walk stays h
  rw [hsights] at nowhere
  have hinit : p.initialStatus.identity = some id := known
  obtain ⟨direct, ⟨-, rfl, -⟩ | ⟨-, reply, rfl, -⟩⟩ :=
    walk_refresh_iff.mp ((walk_observeRemote_of_some hinit).mp observed)
  · cases nowhere
  · cases nowhere with
    | missed absent unlisted =>
      exact ⟨reply, direct, rest, rfl, absent, unlisted⟩

section Appearing

variable (stays : p.resource.deletionRequested = false)
    (known : p.resource.status.identity = some id)
    (marked : p.resource.status.inFlight = some m)
    (brings :
      (isCreateSignature m.signature || isBindSignature m.signature) = true)
    (nowhere : Nowhere id (sights t)) (h : p.run.Walk t r)

include stays known marked nowhere h

include brings in
/-- While the mark is young, an object that is not readable is given time. -/
theorem quits_of_appearing
    (young : Instant.age m.since p.now < p.settings.maxWait) :
    ∃ s, p.Quits s t r ∧ s.identity = some id ∧ s.inFlight = some m := by
  obtain ⟨reply, misses⟩ := misses_of_nowhere stays known nowhere h
  obtain ⟨looked, rest, rfl, quiet, goes⟩ := goes_of_misses stays known h misses
  have hawaited : p.initialStatus.inFlight.any p.awaitsAppearance = true := by
    rw [show p.initialStatus.inFlight = some m from marked]
    simp [awaitsAppearance, young, brings]
  unfold afterMissing at goes
  rw [if_pos hawaited] at goes
  cases goes with
  | ends ending =>
    exact ⟨_, ⟨looked, rest, _, rfl, quiet, ending⟩, known, marked⟩

/-- Once it is old, the object is not waited for. -/
theorem movesOn_of_appearing
    (old : ¬ Instant.age m.since p.now < p.settings.maxWait) :
    p.MovesOn m t r := by
  obtain ⟨reply, misses⟩ := misses_of_nowhere stays known nowhere h
  obtain ⟨looked, rest, rfl, -, goes⟩ := goes_of_misses stays known h misses
  have hunawaited :
      p.initialStatus.inFlight.any p.awaitsAppearance = false := by
    rw [show p.initialStatus.inFlight = some m from marked]
    simp [awaitsAppearance, old]
  obtain ⟨t₁, t₂, s, d, rfl, ending, unmarked⟩ :=
    goes.quits_of_missing stays known hunawaited
  exact .forgotten (List.append_assoc looked t₁ t₂).symm ending unmarked

end Appearing

/-! ### Actions that are not confirmed -/

section Confirming

variable (stays : p.resource.deletionRequested = false)
    (observed : (p.observeRemote p.initialStatus).Walk t₁ (.proceed seen))
    (marked : seen.inFlight = some m)
    (needed : p.resource.nextAction? seen = some action)
    (same : action.signature = m.signature)

include observed marked needed same

include stays in
/-- While its mark is young, an action that is needed still is held back. -/
theorem quits_of_confirming
    (young : Instant.age m.since p.now < p.settings.maxWait)
    (h : p.run.Walk (t₁ ++ t₂) r) :
    ∃ s, p.Quits s (t₁ ++ t₂) r ∧ s.facts = seen.facts := by
  obtain ⟨s, d, held, hfacts⟩ :=
    trackInFlight_of_young (p := p) marked same young
  rw [← needed] at held
  exact ⟨s, quits_of_held stays h observed held, hfacts⟩

/-- Once it is old, the action is chosen again. -/
theorem movesOn_of_confirming
    (old : ¬ Instant.age m.since p.now < p.settings.maxWait) :
    p.MovesOn m (t₁ ++ t₂) r := by
  have hfree : p.trackInFlight seen (some action)
      = .proceed { seen with inFlight := none } := by
    unfold trackInFlight
    simp only [marked, Option.filter_some, same, beq_self_eq_true,
      ↓reduceIte, old]
  exact .retried rfl ⟨seen, observed, needed, hfree⟩ same rfl

end Confirming

/-! ### Preconditions -/

/-- The age of a wait that is on record, be it from now on, is that of its
mark. -/
theorem sinceClamped_waitingSince {signature : String}
    (marked : (p.recordWait s signature).waiting = some m) :
    m.signature = signature
      ∧ Instant.sinceClamped (p.waitingSince s signature) p.now
        = Instant.age m.since p.now := by
  unfold recordWait at marked
  unfold waitingSince
  split at marked
  next again =>
    rw [marked] at again ⊢
    have hsame : m.signature = signature := by simpa using again
    simp only [Option.filter_some, hsame, beq_self_eq_true, ↓reduceIte]
    exact ⟨trivial, rfl⟩
  next anew =>
    cases marked
    refine ⟨rfl, ?_⟩
    have hnone :
        s.waiting.filter (fun w => w.signature == signature) = none := by
      cases hwaiting : s.waiting with
      | none => rfl
      | some w => simpa [hwaiting] using anew
    rw [hnone, Instant.sinceClamped_self]
    exact (Instant.age_timestamp_self p.now).symm

section Waiting

variable {expected : StateRule} (stays : p.resource.deletionRequested = false)
    (chosen : p.Chooses t₁ s (some action))
    (fresh : s.failedAction ≠ some action.signature)
    (unmet : check (p.forgetFailed s) action = .unmet expected)
    (marked :
      (p.recordWait (p.forgetFailed s) action.signature).waiting = some m)
    (h : p.run.Walk (t₁ ++ t₂) r)

include stays chosen fresh unmet h in
/-- An action whose precondition does not hold ends the pass. -/
theorem walk_quits_of_unmet :
    (p.quits (p.waitFor (p.forgetFailed s) action expected).1
      (p.waitFor (p.forgetFailed s) action expected).2).Walk
      t₂ r := by
  have hact := walk_act_of_chooses stays h chosen
  unfold act at hact
  rw [if_neg fresh] at hact
  have hcheck : Precondition.check action.kind (p.forgetFailed s).identity
    (p.forgetFailed s).lifecycleState
      = .unmet expected := unmet
  simp only [hcheck] at hact
  exact hact

include stays chosen fresh unmet marked h

/-- While its mark is young, the wait goes on. -/
theorem quits_of_waiting
    (young : Instant.age m.since p.now < p.settings.maxWait) :
    ∃ s', p.Quits s' (t₁ ++ t₂) r
      ∧ s'.facts
        = (p.recordWait (p.forgetFailed s) action.signature).facts := by
  obtain ⟨-, hage⟩ := sinceClamped_waitingSince marked
  have hpoll : decideWait p.settings.maxWait p.settings.pollInterval
      (p.waitingSince (p.forgetFailed s) action.signature) p.now
      = .poll (p.remaining (Instant.age m.since p.now)) := by
    have hearly : ¬ p.settings.maxWait ≤ Instant.age m.since p.now :=
      Nat.not_le_of_lt young
    unfold decideWait
    simp only [hage, hearly, ↓reduceIte]
    rfl
  have ending := walk_quits_of_unmet stays chosen fresh unmet h
  unfold waitFor at ending
  simp only [hpoll] at ending
  exact ⟨_, ⟨t₁, t₂, _, rfl, quiet_of_chooses chosen, ending⟩,
    Status.facts_reportWaiting ..⟩

/-- Once it is old, the end of the wait is reported, and a new wait begins. -/
theorem movesOn_of_waiting
    (old : ¬ Instant.age m.since p.now < p.settings.maxWait) :
    p.MovesOn m (t₁ ++ t₂) r := by
  obtain ⟨hsame, hage⟩ := sinceClamped_waitingSince marked
  have hexpired : decideWait p.settings.maxWait p.settings.pollInterval
      (p.waitingSince (p.forgetFailed s) action.signature) p.now
        = .expired := by
    rw [decideWait_eq_expired_iff, hage]
    exact Nat.le_of_not_lt old
  have ending := walk_quits_of_unmet stays chosen fresh unmet h
  unfold waitFor at ending
  simp only [hexpired] at ending
  refine .timedOut rfl ending (Status.says_set _ _ _ _ _ _) ?_
  rw [hsame]
  rfl

end Waiting

/-! ### Objects that are to be gone -/

/-- An object that is shown is located, in the state that it is shown in. -/
theorem eq_observe_of_foundIn {known : Status} {state : LifecycleState}
    {found : Except RemoteError (Status × Option LifecycleState)}
    (located : (p.locate known id).Walk t₁ found)
    (shown : FoundIn id (sights (t₁ ++ t₂)) state) :
    ∃ seen, found = .ok (observe known seen, some state) := by
  obtain ⟨direct, ⟨present, rfl, rfl⟩ | ⟨absent, reply, rfl, rfl⟩⟩ :=
    walk_locate_iff.mp located
  · have hfirst : sights ([.remote (.get id) direct] ++ t₂)
      = .object id direct :: sights t₂ := rfl
    rw [hfirst] at shown
    generalize sights t₂ = rest at shown
    cases shown with
    | read => exact ⟨_, rfl⟩
    | listed missing =>
      rw [present] at missing
      cases missing
  · cases shown with
    | read => cases absent
    | @listed _ _ seen _ _ listed =>
      refine ⟨seen, ?_⟩
      rw [listed]
      rfl

/-- A delete call that was sent is given time by the age of its mark. -/
theorem deletionStep_of_marked {state : LifecycleState}
    (marked : s.inFlight = some m) (same : m.signature = deleteSignature)
    (standing : state.isTornDown = false) :
    p.deletionStep s id (some state)
      = if Instant.age m.since p.now < p.settings.maxWait
        then .awaitTeardown (p.remaining (Instant.age m.since p.now))
        else .dispatch := by
  unfold deletionStep nextDeletionStep deleteAge
  simp only [marked, same, standing, Option.filter_some, beq_self_eq_true,
    ↓reduceIte, Option.map_some, Bool.not_true, Option.isNone_some,
    Bool.or_self, Bool.false_eq_true]
  rfl

section Deleting

variable {state : LifecycleState} (leaves : p.resource.deletionRequested = true)
    (hard : p.resource.hardLink = true)
    (known : p.resource.status.identity = some id)
    (marked : p.resource.status.inFlight = some m)
    (same : m.signature = deleteSignature) (shown : FoundIn id (sights t) state)
    (standing : state.isTornDown = false) (h : p.run.Walk t r)

include leaves hard known marked same shown standing h

/-- While its mark is young, a delete call is given time. -/
theorem quits_of_deleting
    (young : Instant.age m.since p.now < p.settings.maxWait) :
    ∃ s, p.Quits s t r ∧ s.identity = some id ∧ s.inFlight = some m := by
  have reads : p.readsObject = true := by simp [readsObject, leaves]
  -- the delete call is not sent again
  have hgiven : ∀ {t₁ rest s observed}, t = t₁ ++ rest →
    (p.locate p.deletingStatus id).Walk t₁ (.ok (s, observed)) →
      s.identity = some id ∧ s.inFlight = some m
        ∧ p.deletionStep s id observed
          = .awaitTeardown (p.remaining (Instant.age m.since p.now)) := by
    rintro t₁ rest s observed rfl located
    obtain ⟨seen, hseen⟩ := eq_observe_of_foundIn located shown
    cases hseen
    have hmark : (observe p.deletingStatus seen).inFlight = some m := marked
    refine ⟨identity_observe_of_some known seen, hmark, ?_⟩
    rw [deletionStep_of_marked hmark same standing, if_pos young]
  cases objectTeardown_of_recorded leaves hard known h with
  | unread located =>
    obtain ⟨_, herror⟩ := eq_observe_of_foundIn located shown
    cases herror
  | given located _ ending =>
    obtain ⟨hid, hmark, -⟩ := hgiven rfl located
    exact ⟨_, ⟨_, _, _, rfl, quiet_of_walk_locate reads located, ending⟩,
      hid, hmark⟩
  | gone located step | unmarked located step | deleted located step
  | vanished located step | kept located step =>
    obtain ⟨-, -, hgiven⟩ := hgiven rfl located
    rw [hgiven] at step
    cases step

/-- Once it is old, the delete call is sent again. -/
theorem movesOn_of_deleting
    (old : ¬ Instant.age m.since p.now < p.settings.maxWait) :
    p.MovesOn m t r := by
  have hdispatch : ∀ {t₁ rest s observed}, t = t₁ ++ rest →
      (p.locate p.deletingStatus id).Walk t₁ (.ok (s, observed)) →
        p.deletionStep s id observed = .dispatch := by
    rintro t₁ rest s observed rfl located
    obtain ⟨seen, hseen⟩ := eq_observe_of_foundIn located shown
    cases hseen
    have hmark : (observe p.deletingStatus seen).inFlight = some m := marked
    rw [deletionStep_of_marked hmark same standing, if_neg old]
  cases objectTeardown_of_recorded leaves hard known h with
  | unread located =>
    obtain ⟨_, herror⟩ := eq_observe_of_foundIn located shown
    cases herror
  | gone located step | given located step =>
    rw [hdispatch rfl located] at step
    cases step
  | unmarked => exact .resent rfl nofun
  | deleted | vanished | kept => exact .resent rfl fun _ => ⟨_, _, _, rfl⟩

end Deleting

/-! ## What holds a pass back, and what becomes of it -/

/-- A pass that a mark holds back sends nothing, and leaves the mark as it
was. -/
theorem HoldsBack.quits (h : p.HoldsBack m t) (walk : p.run.Walk t r) :
    ∃ s, p.Quits s t r ∧ (s.inFlight = some m ∨ s.waiting = some m) := by
  obtain ⟨weighs, young⟩ := h
  cases weighs with
  | creating attends unknown marked create unshown =>
    obtain ⟨s, quits, -, hmark⟩ :=
      quits_of_creating unknown marked create attends unshown young walk
    exact ⟨s, quits, .inl hmark⟩
  | appearing stays known marked brings nowhere =>
    obtain ⟨s, quits, -, hmark⟩ :=
      quits_of_appearing stays known marked brings nowhere walk young
    exact ⟨s, quits, .inl hmark⟩
  | confirming stays ht observed marked needed same =>
    subst ht
    obtain ⟨s, quits, hfacts⟩ :=
      quits_of_confirming stays observed marked needed same young walk
    exact ⟨s, quits, .inl ((Status.inFlight_eq_of_facts hfacts).trans marked)⟩
  | waiting stays ht chosen fresh unmet marked =>
    subst ht
    obtain ⟨s, quits, hfacts⟩ :=
      quits_of_waiting stays chosen fresh unmet marked walk young
    exact ⟨s, quits, .inr ((congrArg Status.waiting hfacts :).trans marked)⟩
  | deleting leaves hard known marked same found standing =>
    obtain ⟨s, quits, -, hmark⟩ :=
      quits_of_deleting leaves hard known marked same found standing walk young
    exact ⟨s, quits, .inl hmark⟩

/-- A pass that weighs an old mark goes on. -/
theorem Weighs.movesOn (h : p.Weighs m t)
    (old : ¬ Instant.age m.since p.now < p.settings.maxWait)
    (walk : p.run.Walk t r) : p.MovesOn m t r := by
  cases h with
  | creating attends unknown marked create unshown =>
    exact movesOn_of_creating unknown marked create attends unshown old walk
  | appearing stays known marked _ nowhere =>
    exact movesOn_of_appearing stays known marked nowhere walk old
  | confirming _ ht observed marked needed same =>
    subst ht
    exact movesOn_of_confirming observed marked needed same old
  | waiting stays ht chosen fresh unmet marked =>
    subst ht
    exact movesOn_of_waiting stays chosen fresh unmet marked walk old
  | deleting leaves hard known marked same found standing =>
    exact movesOn_of_deleting leaves hard known marked same found
      standing walk old

end Pass

end DatabaseOperator
