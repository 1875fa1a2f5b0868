import DatabaseOperator.Proofs.Pass.Bookkeeping
import DatabaseOperator.Pass.Drive

/-!
# Drives one after another

A resource is driven again and again: with a pass, or with what is done instead
of one. Without a pass there is at most one call, to the store, and no state is
observed. So it is passes alone that move the state on record, and one that
fails moves it by the mark that it has stored before it sent its action.

- `Pass.Driving`, `Pass.driving_of_walk`: the ways in which a resource is
  driven.
- `Pass.Driving.state_stored`: what they do to the state on record.
- `Pass.Accounts.released_iff`: a pass lets the resource go exactly if it says
  so in the end.
- `Drive`, `Drives`: drives of which each begins with the status that was stored
  last.
-/

namespace DatabaseOperator

namespace Pass

variable {p : Pass} {g : Progress} {t : List PassEvent}
    {r : Except OperatorError Outcome} {driven : Driven}
    {validation connection : Except OperatorError Unit}

/-! ## Ways to drive -/

/-- A resource is driven by a pass, or without one: nothing is done, a status is
stored that has the state on record, or the resource is let go. -/
inductive Driving (p : Pass) : List PassEvent → Driven → Prop where
  | passed {t : List PassEvent} {r : Except OperatorError Outcome}
      (walk : p.run.Walk t r) : Driving p t (.passed r)
  | unchanged (next : Except OperatorError (Option Duration)) :
      Driving p [] (.skipped next)
  | reported {s : Status}
      (state : s.lifecycleState = p.resource.status.lifecycleState)
      (answer : Except OperatorError Unit)
      (next : Except OperatorError (Option Duration)) :
      Driving p [.store (.saveStatus s) answer] (.skipped next)
  | detached (answer : Except OperatorError Unit)
      (next : Except OperatorError (Option Duration)) :
      Driving p [.store .releaseFinalizer answer] (.skipped next)

theorem driving_of_walk_reject {fault : OperatorError}
    (h : (p.reject fault).Walk t driven) : p.Driving t driven := by
  unfold reject at h
  simp only at h
  split at h
  next =>
    obtain ⟨rfl, rfl⟩ := Program.walk_done_iff.mp h
    exact .unchanged _
  next =>
    obtain ⟨answer, rfl, rfl⟩ := Program.walk_ask_done_iff.mp h
    have hstate : (p.rejectedStatus fault).lifecycleState
      = p.resource.status.lifecycleState := rfl
    exact .reported hstate answer _

theorem driving_of_walk_block {fault : OperatorError}
    (h : (p.block fault).Walk t driven) : p.Driving t driven := by
  obtain ⟨answer, rfl, rfl⟩ := Program.walk_ask_done_iff.mp h
  have hstate : (p.blockedStatus fault).lifecycleState
      = p.resource.status.lifecycleState := by
    unfold blockedStatus
    simp only
    split <;> rfl
  exact .reported hstate answer _

theorem driving_of_walk_detach (h : detach.Walk t driven) :
    p.Driving t driven := by
  obtain ⟨answer, rfl, rfl⟩ := Program.walk_ask_done_iff.mp h
  exact .detached answer _

theorem driving_of_walk (h : (p.drive validation connection).Walk t driven) :
    p.Driving t driven := by
  unfold drive at h
  split at h
  next => exact driving_of_walk_reject h
  next =>
    obtain ⟨t₁, result, t₂, rfl, walk, hrest⟩ := Program.walk_bind_iff.mp h
    obtain ⟨rfl, rfl⟩ := Program.walk_done_iff.mp hrest
    rw [List.append_nil]
    exact .passed walk
  next =>
    split at h
    next => exact driving_of_walk_block h
    next => exact driving_of_walk_detach h
  next => exact driving_of_walk_block h

theorem Driving.walk (h : p.Driving t (.passed r)) : p.run.Walk t r := by
  generalize hdriven : Driven.passed r = driven at h
  cases h with
  | passed walk =>
    cases hdriven
    exact walk
  | unchanged | reported | detached => cases hdriven

/-- A pass has failed after it stored the mark of its action under a state and
sent the action. -/
def FailedUnder (p : Pass) (t : List PassEvent) (driven : Driven)
    (state : Option LifecycleState) : Prop :=
  (∃ e, driven = .passed (.error e))
    ∧ ∃ (before after : List PassEvent) (marked : Status) (call : RemoteCall)
      (reply : Reply call.Answer) (action : CorrectiveAction),
      t = before ++ .saved marked :: .remote call reply :: after
          ∧ p.sentBy (.remote call reply) = some action
          ∧ marked.inFlight = some (p.pending action.signature)
          ∧ marked.lifecycleState = state

/-- A drive leaves on record the state that its pass reports, the one that it
found, or that of a mark. -/
theorem Driving.state_stored (h : p.Driving t driven) :
    (∃ o, driven = .passed (.ok o)
        ∧ (o.finalized = false →
          (storedAfter p.resource.status t).lifecycleState
            = o.status.lifecycleState))
      ∨ (∀ o, driven ≠ .passed (.ok o))
        ∧ ((storedAfter p.resource.status t).lifecycleState
          = p.resource.status.lifecycleState
          ∨ p.FailedUnder t driven
            (storedAfter p.resource.status t).lifecycleState) := by
  cases h with
  | @passed _ r walk =>
    cases r with
    | ok o =>
      refine .inl ⟨o, rfl, fun stays => ?_⟩
      rw [(accounts_of_walk walk).stored_of_ok stays]
    | error e =>
      have hfailed : ∀ o, Driven.passed (.error e) ≠ .passed (.ok o) := by
        rintro o ⟨⟩
      refine .inr ⟨hfailed, ?_⟩
      rcases (accounts_of_walk walk).stored_of_error with
        hsame | ⟨before, after, marked, call, reply, action, ht, sends,
          mark, hstored⟩
      · rw [hsame]
        exact .inl rfl
      · rw [hstored]
        exact .inr ⟨⟨e, rfl⟩, before, after, marked, call, reply, action, ht,
          sends, mark, rfl⟩
  | unchanged next => exact .inr ⟨fun _ => Driven.noConfusion, .inl rfl⟩
  | @reported s state answer next =>
    refine .inr ⟨fun _ => Driven.noConfusion, .inl ?_⟩
    cases answer with
    | ok _ => exact state
    | error e => rfl
  | detached answer next => exact .inr ⟨fun _ => Driven.noConfusion, .inl rfl⟩

/-! ## Letting go -/

theorem Closes.released_iff (h : Closes g t r) :
    .store .releaseFinalizer (.ok ()) ∈ t
      ↔ ∃ o, r = .ok o ∧ o.finalized = true := by
  cases h with
  | finished ending =>
    rcases walk_finish_iff.mp ending with ⟨-, rfl, rfl⟩ | ⟨-, answer, rfl, rfl⟩
    · simp [Progress.ended]
    · cases answer <;> simp [Except.map, Progress.ended]
  | released ending =>
    obtain ⟨answer, rfl, rfl⟩ := walk_release_iff.mp ending
    cases answer <;> simp [Except.map, Progress.released]

theorem releaseFinalizer_not_mem_of_quiet (h : ∀ e ∈ t, p.Quiet e)
    {answer : Except OperatorError Unit} :
    .store .releaseFinalizer answer ∉ t := by
  intro hmem
  cases h _ hmem

/-- A pass lets the resource go exactly if it succeeds and says so. -/
theorem Accounts.released_iff (h : p.Accounts t r) :
    .store .releaseFinalizer (.ok ()) ∈ t
      ↔ ∃ o, r = .ok o ∧ o.finalized = true := by
  cases h with
  | idle quiet closes =>
    rw [List.mem_append, closes.released_iff]
    simp [releaseFinalizer_not_mem_of_quiet quiet]
  | refused quiet =>
    rw [List.mem_append]
    simp [releaseFinalizer_not_mem_of_quiet quiet]
  | sent quiet mark sends closes =>
    rw [List.mem_append, List.mem_cons, List.mem_cons, closes.released_iff]
    simp [releaseFinalizer_not_mem_of_quiet quiet]

end Pass

/-! ## Drives -/

/-- A drive with its exchanges, what became of the resource, and the seconds it
took. -/
structure Drive where
  pass : Pass
  validation : Except OperatorError Unit
  connection : Except OperatorError Unit
  seconds : Float
  trace : List PassEvent
  driven : Driven
  walk : (pass.drive validation connection).Walk trace driven

namespace Drive

variable {d : Drive} {o : Pass.Outcome} {e : OperatorError}

/-- The status that is stored when a drive is over. -/
def stored (d : Drive) : Status :=
  storedAfter d.pass.resource.status d.trace

/-- The resource has been let go. -/
def Released (d : Drive) : Prop :=
  .store .releaseFinalizer (.ok ()) ∈ d.trace

theorem released_iff_any :
    (d.trace.any fun | ⟨.store .releaseFinalizer, .ok _⟩ => true | _ => false)
      = true ↔ d.Released := by
  rw [List.any_eq_true]
  constructor
  · rintro ⟨event, hmem, hevent⟩
    split at hevent
    next => exact hmem
    next => cases hevent
  · intro h
    exact ⟨_, h, rfl⟩

instance : Decidable d.Released :=
  decidable_of_iff _ released_iff_any

theorem driving (d : Drive) : d.pass.Driving d.trace d.driven :=
  Pass.driving_of_walk d.walk

theorem released_iff_of_passed {r : Except OperatorError Pass.Outcome}
    (h : d.driven = .passed r) :
    d.Released ↔ ∃ o, r = .ok o ∧ o.finalized = true :=
  (Pass.accounts_of_walk (h ▸ d.driving).walk).released_iff

/-- The pass of a drive has failed after it stored the mark of its action under
a state and sent the action. -/
def FailedUnder (d : Drive) (state : Option LifecycleState) : Prop :=
  d.pass.FailedUnder d.trace d.driven state

/-- A drive with what a machine answers to it. -/
def simulated {σ : Type} (answer : σ → (c : PassCall) → c.Answer × σ) (p : Pass)
    (validation connection : Except OperatorError Unit) (state : σ) :
    Drive where
  pass := p
  validation := validation
  connection := connection
  seconds := 1
  trace := (p.drive validation connection).transcript answer state
  driven := ((p.drive validation connection).interpret answer state).1
  walk := Program.walk_transcript answer (p.drive validation connection) state

end Drive

/-- Drives of a resource that begins with a status. Each begins with the status
that was stored last. -/
abbrev Drives (s₀ : Status) : List Drive → Status → Prop :=
  History (fun d => d.pass.resource.status) Drive.stored s₀

end DatabaseOperator
