import DatabaseOperator.Proofs.Pass.Verdicts
import DatabaseOperator.Proofs.Signature

/-!
# What a pass goes by when its object is on record

A pass over a resource whose object is on record begins by reading the object.
What was read settles whether the pass is over at once or goes on, and if
nothing is then to be done, it settles.

- `Pass.Reads`: the reads at the beginning of a pass, and `Pass.Reads.unique`:
  there is one way to see them.
- `Pass.Sees`, `Pass.Sees.reread`: reads that agree on a snapshot, and the
  status after them.
- `Pass.Course.observes`: what the first stage of a pass means for the rest of
  it.
- `Pass.rest_of_reads`: the same, by the reads.
- `Pass.afterMissing_eq_proceed_iff`: what is made of an object that is not
  found.
- `Pass.AllStored`, `Pass.storedAfter_finish_cases`: no status was refused, and
  what is stored then.
-/

namespace DatabaseOperator.Pass

variable {p : Pass} {s s' seen : Status} {id : String}
    {t t₁ t₂ : List PassEvent} {r : Except OperatorError Outcome}

/-! ## The reads -/

/-- The pass begins by reading the object on record, directly and in the list
where that is consulted: the reply to the direct read, and what the list shows
of the object. -/
inductive Reads (p : Pass) (id : String) : List PassEvent → Reply Snapshot →
    Option Snapshot → Prop where
  | alone {direct : Reply Snapshot} {rest : List PassEvent}
      (known : p.resource.status.identity = some id)
      (unconsulted :
        consultsList p.initialStatus (p.outcomeOf direct) = false) :
      Reads p id (.remote (.get id) direct :: rest) direct none
  | listed {direct : Reply Snapshot} {reply : Reply (List Snapshot)}
      {rest : List PassEvent} (known : p.resource.status.identity = some id)
      (consulted : consultsList p.initialStatus (p.outcomeOf direct) = true) :
      Reads p id
        (.remote (.get id) direct :: .remote (.list p.resource.listFilter) reply
          :: rest) direct
        (listedAs id reply.items)

variable {direct direct' : Reply Snapshot} {listed listed' : Option Snapshot}

theorem Reads.known (h : p.Reads id t direct listed) :
    p.resource.status.identity = some id := by
  cases h <;> assumption

/-- What was read is settled by the exchanges. -/
theorem Reads.unique (h : p.Reads id t direct listed)
    (h' : p.Reads id t direct' listed') :
    direct = direct' ∧ listed = listed' := by
  cases h with
  | alone _ unconsulted =>
    generalize htrace : Exchange.remote (.get id) direct :: _ = trace at h'
    cases h' with
    | alone =>
      cases htrace
      exact ⟨rfl, rfl⟩
    | listed _ consulted =>
      cases htrace
      rw [unconsulted] at consulted
      cases consulted
  | listed _ consulted =>
    generalize htrace : Exchange.remote (.get id) direct :: _ = trace at h'
    cases h' with
    | alone _ unconsulted =>
      cases htrace
      rw [unconsulted] at consulted
      cases consulted
    | listed =>
      cases htrace
      exact ⟨rfl, rfl⟩

/-- The first stage of such a pass is its reads, put together. -/
theorem reads_of_walk_observeRemote {step : Step}
    (hid : p.resource.status.identity = some id)
    (h : (p.observeRemote p.initialStatus).Walk t step)
    (rest : List PassEvent) :
    ∃ direct listed, p.Reads id (t ++ rest) direct listed
      ∧ step = p.mergeReads p.initialStatus (p.outcomeOf direct) listed := by
  have hinit : p.initialStatus.identity = some id := hid
  obtain ⟨direct, ⟨hno, rfl, rfl⟩ | ⟨hyes, reply, rfl, rfl⟩⟩ :=
    walk_refresh_iff.mp ((walk_observeRemote_of_some hinit).mp h)
  · exact ⟨direct, none, .alone hid hno, rfl⟩
  · exact ⟨direct, _, .listed hid hyes, rfl⟩

/-- The status after a read that is believed. -/
def reread (p : Pass) (found : Snapshot) : Status :=
  observe { p.initialStatus with consistencyRetries := 0 } found

/-- The reads show the object on record as a snapshot has it: directly, and in
the list if that shows the object. -/
def Sees (p : Pass) (id : String) (found : Snapshot) (t : List PassEvent) :
    Prop :=
  ∃ listed, p.Reads id t (.answered found) listed
    ∧ ∀ other, listed = some other → other = found

theorem Sees.of_alone {found : Snapshot}
    (h : p.Reads id t (.answered found) none) : p.Sees id found t :=
  ⟨none, h, fun _ himpossible => nomatch himpossible⟩

/-- A pass that sees its object goes on with what it has seen. -/
theorem Sees.reread {found : Snapshot} {step : Step} {rest : List PassEvent}
    (h : p.Sees id found (t ++ rest))
    (observed : (p.observeRemote p.initialStatus).Walk t step) :
    step = .proceed (p.reread found) := by
  obtain ⟨listed, reads, agree⟩ := h
  obtain ⟨direct', listed', reads', rfl⟩ :=
    reads_of_walk_observeRemote reads.known observed rest
  obtain ⟨rfl, rfl⟩ := reads.unique reads'
  cases listed with
  | none => rfl
  | some other =>
    obtain rfl := agree other rfl
    have hsame : fresher other (some other) = other := by
      unfold fresher
      simp
    show (if other.state = other.state then _ else _) = _
    rw [if_pos rfl, hsame]
    rfl

/-! ## An object that is missing -/

/-- A pass goes on without its object if the last signature explains where the
object is, and the object is not too young to be found. -/
theorem afterMissing_eq_proceed_iff :
    p.afterMissing s = .proceed seen
      ↔ s.inFlight.any p.awaitsAppearance = false
        ∧ ∃ state, removedState? (lastSignature s) = some state
          ∧ seen = { s with lifecycleState := some state } := by
  unfold afterMissing removedState?
  cases s.inFlight.any p.awaitsAppearance with
  | true => simp
  | false =>
    cases isUnplugSignature (lastSignature s) with
    | true => simp [eq_comm]
    | false => cases isDeleteSignature (lastSignature s) <;> simp [eq_comm]

/-! ## What follows -/

/-- An action that is no longer needed holds nothing back. -/
theorem trackInFlight_none (p : Pass) (s : Status) :
    ∃ s', p.trackInFlight s none = .proceed s'
      ∧ (s' = s ∨ s' = { s with inFlight := none }) := by
  unfold trackInFlight
  split
  next => exact ⟨s, rfl, .inl rfl⟩
  next =>
    simp only [Option.filter_none]
    split
    next => exact ⟨s, rfl, .inl rfl⟩
    next => exact ⟨_, rfl, .inr rfl⟩

/-- What becomes of a pass after its first stage: it is over if that stage ends
it, and settles if nothing is found to be done. -/
inductive Goes (p : Pass) : Step → List PassEvent →
    Except OperatorError Outcome → Prop where
  | ends {s : Status} {d : Duration} {rest : List PassEvent}
      {r : Except OperatorError Outcome} (ending : (p.quits s d).Walk rest r) :
      Goes p (.stop s d) rest r
  | settles {seen s s' : Status} {d : Duration} {t₁ t₂ : List PassEvent}
      {r : Except OperatorError Outcome}
      (idle : p.resource.nextAction? seen = none)
      (free : p.trackInFlight seen none = .proceed s)
      (settling : (p.settle s).Walk t₁ (s', d))
      (ending : (p.quits s' d).Walk t₂ r) : Goes p (.proceed seen) (t₁ ++ t₂) r
  | acts {seen : Status} {action : CorrectiveAction} {rest : List PassEvent}
      {r : Except OperatorError Outcome}
      (needed : p.resource.nextAction? seen = some action) :
      Goes p (.proceed seen) rest r

/-- Every pass over a resource that stays goes on from its first stage. -/
theorem Course.observes (h : p.Course t r) :
    ∃ t₁ rest step, t = t₁ ++ rest
      ∧ (p.observeRemote p.initialStatus).Walk t₁ step
      ∧ p.Goes step rest r := by
  -- a pass that has chosen an action has found something to be done, whatever
  -- becomes of the action
  have hacts : ∀ {t₁ rest s action}, t = t₁ ++ rest →
      p.Chooses t₁ s (some action) →
        ∃ t₁ rest step, t = t₁ ++ rest
          ∧ (p.observeRemote p.initialStatus).Walk t₁ step
          ∧ p.Goes step rest r := by
    rintro t₁ rest s action ht ⟨seen, observed, needed, -⟩
    exact ⟨t₁, rest, _, ht, observed, .acts needed⟩
  cases h with
  | stopped observed ending => exact ⟨_, _, _, rfl, observed, .ends ending⟩
  | @held t₁ t₂ seen s d _ observed held ending =>
    refine ⟨_, _, _, rfl, observed, ?_⟩
    cases hneeded : p.resource.nextAction? seen with
    | none =>
      obtain ⟨s', hproceed, -⟩ := trackInFlight_none p seen
      rw [hneeded, hproceed] at held
      cases held
    | some action => exact .acts hneeded
  | settled chosen settling ending =>
    obtain ⟨seen, observed, idle, free⟩ := chosen
    exact ⟨_, _, _, rfl, observed, .settles idle free settling ending⟩
  | declined chosen | waited chosen | illegal chosen => exact hacts rfl chosen
  | uncredited sends | unmarked sends | sent sends =>
    obtain ⟨chosen, hchosen, -⟩ := sends
    exact hacts rfl hchosen

/-- What was read of the object on record settles how the pass goes on. -/
theorem rest_of_reads (hdel : p.resource.deletionRequested = false)
    (h : p.run.Walk t r) (reads : p.Reads id t direct listed) :
    ∃ t₁ rest, t = t₁ ++ rest ∧ (∀ e ∈ t₁, p.Quiet e)
      ∧ p.Goes (p.mergeReads p.initialStatus (p.outcomeOf direct) listed)
        rest r := by
  obtain ⟨t₁, rest, step, rfl, observed, goes⟩ :=
    (course_of_walk hdel h).observes
  obtain ⟨direct', listed', reads', rfl⟩ :=
    reads_of_walk_observeRemote reads.known observed rest
  obtain ⟨rfl, rfl⟩ := reads.unique reads'
  exact ⟨t₁, rest, rfl, quiet_of_walk_observeRemote observed, goes⟩

/-! ## What is stored -/

/-- Exchanges of no consequence leave the stored status as it is. -/
theorem storedAfter_of_quiet (s₀ : Status) (quiet : ∀ e ∈ t, p.Quiet e) :
    storedAfter s₀ t = s₀ := by
  rcases DatabaseOperator.storedAfter_cases s₀ t with h | h
  · exact h
  · exact absurd h (saveStatus_not_mem_of_quiet quiet)

/-- The store took every status that it was given. -/
def AllStored (t : List PassEvent) : Prop :=
  ∀ s e, .store (.saveStatus s) (.error e) ∉ t

theorem allStored_iff_all :
    (t.all fun | ⟨.store (.saveStatus _), .error _⟩ => false | _ => true) = true
      ↔ AllStored t := by
  rw [List.all_eq_true]
  constructor
  · intro h s e hmem
    have hfalse := h _ hmem
    cases hfalse
  · intro h event hmem
    split
    next => exact absurd hmem (h _ _)
    next => rfl

instance : Decidable (AllStored t) :=
  decidable_of_iff _ allStored_iff_all

/-- A pass ends with its status stored, unless the store refuses it. -/
theorem storedAfter_finish_cases {g : Progress} {d : Duration}
    (h : (finish g d).Walk t r) :
    (AllStored t ∧ storedAfter g.persisted t = g.status)
      ∨ (¬ AllStored t ∧ storedAfter g.persisted t = g.persisted) := by
  rcases walk_finish_iff.mp h with ⟨hsame, rfl, -⟩ | ⟨-, answer, rfl, -⟩
  · exact .inl ⟨by simp [AllStored], hsame.symm⟩
  · cases answer with
    | ok _ => exact .inl ⟨by simp [AllStored], rfl⟩
    | error e => exact .inr ⟨by simp [AllStored], rfl⟩

/-- After a pass that has sent an action the status after its answer is stored,
or the mark of the action, if the store has refused a status. -/
theorem storedAfter_sent_cases {before after : List PassEvent}
    {action : CorrectiveAction} {call : RemoteCall} {reply : Reply call.Answer}
    (s₀ : Status) (quiet : ∀ e ∈ before, p.Quiet e)
    (ending : (p.sentEnding s action call reply).Walk after r)
    (ht : t
      = before
        ++ .saved (p.markDispatched s action) :: .remote call reply :: after) :
    (AllStored t
        ∧ storedAfter s₀ t
          = (p.afterAnswer (p.markDispatched s action) action
            (p.answerOf call reply)).1)
      ∨ (¬ AllStored t ∧ storedAfter s₀ t = p.markDispatched s action) := by
  subst ht
  have hstored : AllStored
    (before
      ++ .saved (p.markDispatched s action) :: .remote call reply :: after)
      ↔ AllStored after := by
    constructor
    · intro h s' e hmem
      exact h s' e
        (List.mem_append_right _
          (List.mem_cons_of_mem _ (List.mem_cons_of_mem _ hmem)))
    · intro h s' e hmem
      rcases List.mem_append.mp hmem with hmem | hmem
      · exact saveStatus_not_mem_of_quiet quiet hmem
      · simp only [List.mem_cons] at hmem
        rcases hmem with hmem | hmem | hmem
        · cases hmem
        · cases hmem
        · exact h s' e hmem
  rw [hstored, storedAfter_append]
  exact storedAfter_finish_cases ending

/-- A pass that succeeds ends with a status that is stored then. -/
theorem storedAfter_of_walk_finish {g : Progress} {d : Duration} {o : Outcome}
    (h : (finish g d).Walk t (.ok o)) :
    storedAfter g.persisted t = o.status := by
  obtain rfl := ended_of_walk_finish h
  rcases walk_finish_iff.mp h with ⟨hsame, rfl, -⟩ | ⟨-, answer, rfl, hr⟩
  · exact hsame.symm
  · cases answer with
    | ok _ => rfl
    | error e => cases hr

end DatabaseOperator.Pass
