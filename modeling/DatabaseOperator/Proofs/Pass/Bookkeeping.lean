import DatabaseOperator.Proofs.Pass.Reading

/-!
# What the store holds after a pass

A pass writes only what differs from the status that it takes to be stored. That
is the status it began with, until the pass has stored the mark of an action;
from then on it is the mark. So the store is never left with anything else than
what the pass ended with, what it began with, or its mark.

- `Pass.Closes.stored_of_ok`, `Pass.Closes.stored_of_error`: what an ending
  means for the store.
- `Pass.run_accounts_for_store`: the store after a pass that succeeds and after
  one that fails.
-/

namespace DatabaseOperator.Pass

variable {p : Pass} {g : Progress} {t t₁ t₂ : List PassEvent}
    {r : Except OperatorError Outcome} {o : Outcome}

/-- The store let the resource go whenever it was asked to. -/
def AllReleased (t : List PassEvent) : Prop :=
  ∀ e, .store .releaseFinalizer (.error e) ∉ t

theorem AllStored.of_subset (h : AllStored t) (sub : t₂ ⊆ t) : AllStored t₂ :=
  fun s e he => h s e (sub he)

theorem AllReleased.of_subset (h : AllReleased t) (sub : t₂ ⊆ t) :
    AllReleased t₂ :=
  fun e he => h e (sub he)

/-! ## Endings -/

/-- Only the store can make an ending fail. -/
theorem Closes.ok_of_granted (h : Closes g t r) (stored : AllStored t)
    (released : AllReleased t) : ∃ o, r = .ok o := by
  cases h with
  | finished ending =>
    rcases walk_finish_iff.mp ending with ⟨-, -, rfl⟩ | ⟨-, answer, rfl, rfl⟩
    · exact ⟨_, rfl⟩
    · cases answer with
      | ok _ => exact ⟨_, rfl⟩
      | error e => exact absurd (List.mem_singleton_self _) (stored g.status e)
  | released ending =>
    obtain ⟨answer, rfl, rfl⟩ := walk_release_iff.mp ending
    cases answer with
    | ok _ => exact ⟨_, rfl⟩
    | error e => exact absurd (List.mem_singleton_self _) (released e)

/-- Letting the resource go writes no status. -/
theorem storedAfter_of_walk_release (s : Status) (h : (release g).Walk t r) :
    storedAfter s t = s := by
  obtain ⟨answer, rfl, -⟩ := walk_release_iff.mp h
  rfl

theorem Closes.stored_of_ok (h : Closes g t (.ok o))
    (stays : o.finalized = false) : storedAfter g.persisted t = o.status := by
  cases h with
  | finished ending => exact storedAfter_of_walk_finish ending
  | released ending =>
    obtain ⟨answer, -, hr⟩ := walk_release_iff.mp ending
    cases answer with
    | ok _ =>
      cases hr
      cases stays
    | error e => cases hr

/-- An ending that fails leaves the store as it was. -/
theorem Closes.stored_of_error {e : OperatorError} (h : Closes g t (.error e)) :
    storedAfter g.persisted t = g.persisted := by
  cases h with
  | finished ending =>
    rcases walk_finish_iff.mp ending with ⟨-, -, hr⟩ | ⟨-, answer, rfl, hr⟩
    · cases hr
    · cases answer with
      | ok _ => cases hr
      | error e => rfl
  | released ending => exact storedAfter_of_walk_release _ ending

/-! ## What the shapes say of the store -/

theorem storedAfter_quiet_append (s : Status) (quiet : ∀ e ∈ t₁, p.Quiet e) :
    storedAfter s (t₁ ++ t₂) = storedAfter s t₂ := by
  rw [storedAfter_append, storedAfter_of_quiet s quiet]

theorem Accounts.ok_of_granted (h : p.Accounts t r) (stored : AllStored t)
    (released : AllReleased t) : ∃ o, r = .ok o := by
  cases h with
  | @idle t₁ t₂ _ _ quiet closes =>
    have later : t₂ ⊆ t₁ ++ t₂ := List.subset_append_right t₁ t₂
    exact closes.ok_of_granted (stored.of_subset later)
      (released.of_subset later)
  | @refused _ marked e quiet =>
    exact absurd (List.mem_append_right _ (List.mem_singleton_self _))
      (stored marked e)
  | @sent t₁ t₂ marked _ call reply _ _ quiet mark sends closes =>
    have later : t₂ ⊆ t₁ ++ .saved marked :: .remote call reply :: t₂ :=
      fun e he =>
        List.mem_append_right t₁
          (List.mem_cons_of_mem _ (List.mem_cons_of_mem _ he))
    exact closes.ok_of_granted (stored.of_subset later)
      (released.of_subset later)

theorem Accounts.stored_of_ok (h : p.Accounts t (.ok o))
    (stays : o.finalized = false) :
    storedAfter p.resource.status t = o.status := by
  cases h with
  | idle quiet closes =>
    rw [storedAfter_quiet_append _ quiet]
    exact closes.stored_of_ok stays
  | sent quiet mark sends closes =>
    rw [storedAfter_quiet_append _ quiet]
    exact closes.stored_of_ok stays

theorem Accounts.stored_of_error {e : OperatorError}
    (h : p.Accounts t (.error e)) :
    storedAfter p.resource.status t = p.resource.status
      ∨ ∃ (before after : List PassEvent) (marked : Status) (call : RemoteCall)
        (reply : Reply call.Answer)
          (action : CorrectiveAction),
          t = before ++ .saved marked :: .remote call reply :: after
            ∧ p.sentBy (.remote call reply) = some action
            ∧ marked.inFlight = some (p.pending action.signature)
            ∧ storedAfter p.resource.status t = marked := by
  cases h with
  | idle quiet closes =>
    rw [storedAfter_quiet_append _ quiet]
    exact .inl closes.stored_of_error
  | refused quiet =>
    rw [storedAfter_quiet_append _ quiet]
    exact .inl rfl
  | sent quiet mark sends closes =>
    refine .inr ⟨_, _, _, _, _, _, rfl, sends, mark, ?_⟩
    rw [storedAfter_quiet_append _ quiet]
    exact closes.stored_of_error

/-- **The store after a pass.** Whatever the remote answers, and whatever
becomes of reading and writing Secrets,

1. a pass succeeds if the store takes every status and lets the resource go
   whenever it is asked to;
2. after a pass that succeeds and keeps the resource, the store holds exactly
   the status that the pass reports;
3. after a pass that fails, the store holds the status that the pass began with,
   or the one that it stored right before it sent its action, which marks
   exactly this action as under way since now. -/
theorem run_accounts_for_store (p : Pass) {t : List PassEvent}
    {r : Except OperatorError Outcome} (h : p.run.Walk t r) :
    (AllStored t → AllReleased t → ∃ o, r = .ok o)
      ∧ (∀ o, r = .ok o → o.finalized = false →
        storedAfter p.resource.status t = o.status)
      ∧ ∀ e, r = .error e →
        storedAfter p.resource.status t = p.resource.status
          ∨ ∃ (before after : List PassEvent) (marked : Status)
              (call : RemoteCall) (reply : Reply call.Answer)
              (action : CorrectiveAction),
            t = before ++ .saved marked :: .remote call reply :: after
              ∧ p.sentBy (.remote call reply) = some action
              ∧ marked.inFlight
                = some
                  { signature := action.signature, since := p.now.timestamp }
              ∧ storedAfter p.resource.status t = marked := by
  have haccounts := accounts_of_walk h
  refine ⟨haccounts.ok_of_granted, ?_, ?_⟩
  · rintro o rfl stays
    exact haccounts.stored_of_ok stays
  · rintro e rfl
    exact haccounts.stored_of_error

/-- A store that takes one status and refuses the next one. -/
def refusingSecondStatus : Simulation :=
  { store :=
      { failures :=
          Dict.ofList
            [("save_status", [none, some (.transient "conflict")])] } }

/-- The first pass over a new database sends a create; if the status after the
answer is refused, the mark of the create is what the store holds. -/
theorem firstPass_leaves_mark :
    (firstPass.run.interpret Simulation.answer refusingSecondStatus).1.toOption
      = none
      ∧ (storedAfter firstPass.resource.status
          (firstPass.run.transcript Simulation.answer
            refusingSecondStatus)).inFlight
        = some
          { signature := "Provision",
            since := "2023-11-14T22:13:20+00:00" } := by
  obtain ⟨-, -, hfailed⟩ := run_accounts_for_store firstPass
    (Program.walk_transcript Simulation.answer firstPass.run
      refusingSecondStatus)
  have hnone :
      (firstPass.run.interpret Simulation.answer
        refusingSecondStatus).1.toOption = none := by
    decide +kernel
  refine ⟨hnone, ?_⟩
  have hmoved : storedAfter firstPass.resource.status
      (firstPass.run.transcript Simulation.answer refusingSecondStatus)
        ≠ firstPass.resource.status := by
    decide +kernel
  cases hr : (firstPass.run.interpret Simulation.answer refusingSecondStatus).1
    with
  | ok o =>
    rw [hr] at hnone
    cases hnone
  | error e =>
    obtain ⟨before, after, marked, call, reply, action, ht, hsent, hmark,
        hstored⟩ :=
      (hfailed e hr).resolve_left hmoved
    have hmem : action
        ∈ firstPass.actionsSent
          (firstPass.run.transcript Simulation.answer
            refusingSecondStatus) := by
      rw [ht]
      exact List.mem_filterMap.mpr ⟨.remote call reply, by simp, hsent⟩
    have hactions : firstPass.actionsSent
      (firstPass.run.transcript Simulation.answer refusingSecondStatus)
        = [.provision] := by
      decide +kernel
    rw [hactions, List.mem_singleton] at hmem
    rw [hstored, hmark, hmem]
    decide +kernel

end DatabaseOperator.Pass
