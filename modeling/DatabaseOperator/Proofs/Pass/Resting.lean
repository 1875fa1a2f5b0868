import DatabaseOperator.Proofs.Pass.Inheritance
import DatabaseOperator.Proofs.Pass.Quiet

/-!
# Passes that send nothing

The courses of a pass over a resource that stays differ in what is decided, but
most statements ask only what becomes of the action. A pass comes to its end
without having sent any, cannot store the mark of one, or sends it.

- `Pass.Rests`: the pass comes to its end without having sent anything.
- `Pass.Rests.quiet`, `Pass.Rests.stops_or_inherits`: its exchanges have no
  consequences, and it ends with what it has observed of the object.
- `Pass.Conclusion`, `Pass.Course.conclusion`: the three ways.
-/

namespace DatabaseOperator.Pass

variable {p : Pass} {s s' : Status} {t t₁ t₂ : List PassEvent}
    {r : Except OperatorError Outcome}

theorem lastCompletedAction_forgetFailed (p : Pass) (s : Status) :
    (p.forgetFailed s).lastCompletedAction = s.lastCompletedAction := by
  show (p.forgetFailed s).facts.lastCompletedAction = s.lastCompletedAction
  rw [facts_forgetFailed]
  rfl

theorem lastCompletedAction_waitFor (p : Pass) (s : Status)
    (action : CorrectiveAction) (expected : StateRule) :
    (p.waitFor s action expected).1.lastCompletedAction
      = s.lastCompletedAction := by
  unfold waitFor recordWait
  simp only
  split
  next => split <;> rfl
  next => rfl

/-- The pass comes to its end without having sent anything: the exchanges so
far, the status, and when to look again. -/
inductive Rests (p : Pass) : List PassEvent → Status → Duration → Prop where
  /-- What was observed ends the pass. -/
  | stopped {t : List PassEvent} {s : Status} {d : Duration}
      (observed : (p.observeRemote p.initialStatus).Walk t (.stop s d)) :
      Rests p t s d
  /-- An action that was sent before is given time. -/
  | held {t : List PassEvent} {seen s : Status} {d : Duration}
      (observed : (p.observeRemote p.initialStatus).Walk t (.proceed seen))
      (held : p.trackInFlight seen (p.resource.nextAction? seen) = .stop s d) :
      Rests p t s d
  /-- Nothing is to be done. -/
  | settled {t₁ t₂ : List PassEvent} {s s' : Status} {d : Duration}
      (chosen : p.Chooses t₁ s none) (settling : (p.settle s).Walk t₂ (s', d)) :
      Rests p (t₁ ++ t₂) s' d
  /-- An action is needed, and not sent. -/
  | refrained {t₁ t₂ : List PassEvent} {chosen s : Status}
      {action : CorrectiveAction} {d : Duration}
      (needed : p.Chooses t₁ chosen (some action))
      (reads : ∀ e ∈ t₂, IsSecretRead e) (kept : s.Inherits chosen)
      (completed : s.lastCompletedAction = chosen.lastCompletedAction) :
      Rests p (t₁ ++ t₂) s d

/-- A pass that rests has made exchanges of no consequence. -/
theorem Rests.quiet {d : Duration} (h : p.Rests t s d) :
    ∀ e ∈ t, p.Quiet e := by
  cases h with
  | stopped observed | held observed =>
    exact quiet_of_walk_observeRemote observed
  | settled chosen settling => exact chosen.quiet_settle settling
  | refrained needed reads =>
    refine List.forall_mem_append.mpr ⟨quiet_of_chooses needed, fun e he => ?_⟩
    obtain ⟨name, key, answer, rfl⟩ := reads e he
    exact .readSecret

/-- What a pass that rests ends with is what has ended the observation, or
inherits what was observed. -/
theorem Rests.stops_or_inherits {d : Duration} (h : p.Rests t s d) :
    (p.observeRemote p.initialStatus).Walk t (.stop s d)
      ∨ ∃ t₁ t₂ seen, t = t₁ ++ t₂
        ∧ (p.observeRemote p.initialStatus).Walk t₁ (.proceed seen)
        ∧ s.Inherits seen := by
  cases h with
  | stopped observed => exact .inl observed
  | @held _ seen _ _ observed held =>
    have hkept := inherits_trackInFlight p seen (p.resource.nextAction? seen)
    rw [held] at hkept
    exact .inr ⟨t, [], seen, (List.append_nil t).symm, observed, hkept⟩
  | settled chosen settling =>
    obtain ⟨seen, observed, -, hkept⟩ := chosen.inherits
    exact .inr ⟨_, _, seen, rfl, observed,
      (inherits_of_walk_settle settling).trans hkept⟩
  | refrained needed _ kept =>
    obtain ⟨seen, observed, -, hkept⟩ := needed.inherits
    exact .inr ⟨_, _, seen, rfl, observed, kept.trans hkept⟩

theorem Rests.of_chooses {action : CorrectiveAction} {d : Duration}
    (needed : p.Chooses t s (some action)) (kept : s'.Inherits s)
    (completed : s'.lastCompletedAction = s.lastCompletedAction) :
    p.Rests t s' d := by
  have hrests :
      p.Rests (t ++ []) s' d := .refrained needed (by simp) kept completed
  rwa [List.append_nil] at hrests

/-- What becomes of the action in a pass over a resource that stays. -/
inductive Conclusion (p : Pass) : List PassEvent →
    Except OperatorError Outcome → Prop where
  /-- None was sent. -/
  | rested {t₁ t₂ : List PassEvent} {s : Status} {d : Duration}
      {r : Except OperatorError Outcome} (rests : p.Rests t₁ s d)
      (ending : (p.quits s d).Walk t₂ r) : Conclusion p (t₁ ++ t₂) r
  /-- Its mark could not be stored. -/
  | unmarked {t₁ t₂ : List PassEvent} {s : Status} {action : CorrectiveAction}
      {c : Credentials} {e : OperatorError} (sends : p.Sends t₁ s action)
      (credentials : (p.readCredentials action).Walk t₂ (.ok c)) :
      Conclusion p
        (t₁ ++ t₂
          ++ [.store (.saveStatus (p.markDispatched s action)) (.error e)])
        (.error e)
  /-- It was sent. -/
  | sent {t₁ t₂ t₃ : List PassEvent} {s : Status} {action : CorrectiveAction}
      {c : Credentials} {call : RemoteCall} {reply : Reply call.Answer}
      {r : Except OperatorError Outcome} (sends : p.Sends t₁ s action)
      (credentials : (p.readCredentials action).Walk t₂ (.ok c))
      (target : p.callOf s.identity action c = some call)
      (ending : (p.sentEnding s action call reply).Walk t₃ r) :
      Conclusion p
        (t₁ ++ t₂
          ++ .saved (p.markDispatched s action) :: .remote call reply :: t₃) r

/-- Every course leads to one of the three. -/
theorem Course.conclusion (h : p.Course t r) : p.Conclusion t r := by
  cases h with
  | stopped observed ending => exact .rested (.stopped observed) ending
  | held observed held ending => exact .rested (.held observed held) ending
  | settled chosen settling ending =>
    rw [← List.append_assoc]
    exact .rested (.settled chosen settling) ending
  | declined chosen _ ending =>
    exact .rested (.of_chooses chosen (inherits_declineFailed _) rfl) ending
  | waited chosen _ _ ending =>
    refine .rested (.of_chooses chosen ?_ ?_) ending
    · exact (inherits_waitFor ..).trans (inherits_forgetFailed ..)
    · exact (lastCompletedAction_waitFor ..).trans
        (lastCompletedAction_forgetFailed ..)
  | illegal chosen _ _ ending =>
    refine .rested (.of_chooses chosen ?_ ?_) ending
    · exact (inherits_declineIllegal ..).trans (inherits_forgetFailed ..)
    · exact lastCompletedAction_forgetFailed ..
  | uncredited sends credentials ending =>
    obtain ⟨chosen, hchosen, -, -, rfl⟩ := sends
    rw [← List.append_assoc]
    refine .rested (.refrained hchosen (walk_readCredentials credentials) ?_ ?_)
      ending
    · exact (inherits_afterMissingCredentials ..).trans
        (Status.Inherits.trans ⟨rfl, .inl rfl⟩ (inherits_forgetFailed p chosen))
    · exact lastCompletedAction_forgetFailed p chosen
  | unmarked sends credentials =>
    rw [← List.append_assoc]
    exact .unmarked sends credentials
  | sent sends credentials target ending =>
    rw [← List.append_assoc]
    exact .sent sends credentials target ending

end DatabaseOperator.Pass
