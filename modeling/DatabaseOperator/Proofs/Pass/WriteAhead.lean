import DatabaseOperator.Proofs.History
import DatabaseOperator.Proofs.Pass.Resting

/-!
# One action, marked before it is sent

A pass sends at most one action, and never without having stored that it is
about to. Both code paths that send actions, that of a resource that stays and
that of a deletion, have the same shape: the pass looks around, stores the mark
of the action, sends it, and stores what came of it.

- `Pass.sentBy`, `Pass.actionsSent`: the actions among the exchanges of a pass.
- `Pass.Closes`, `Pass.Ending`: how a pass ends, once it has sent its action or
  knows that it will send none, with the status it has come to and without.
- `Pass.Accounts`, `Pass.accounts_of_walk`: every pass has one of three shapes.
- `Pass.Shape`, `Pass.shape_of_walk`: the shapes without the statuses.
- `Pass.Shape.actionsSent_cases`, `Pass.Shape.marked_before`: what this means
  for the actions sent.
-/

namespace DatabaseOperator.Pass

variable {p : Pass} {t : List PassEvent} {r : Except OperatorError Outcome}

/-! ## Actions among the exchanges -/

/-- The action that an exchange sends, if it sends one. A direct read is a
binding only in a pass that does not look at the object. -/
def sentBy (p : Pass) (e : PassEvent) : Option CorrectiveAction :=
  match e.question with
  | .remote (.get id) => if p.readsObject then none else some (.bind id)
  | .remote call => call.action?
  | .store _ => none

/-- The actions that a pass has sent, in order. -/
def actionsSent (p : Pass) (t : List PassEvent) : List CorrectiveAction :=
  t.filterMap p.sentBy

theorem Quiet.sentBy {e : PassEvent} (h : p.Quiet e) : p.sentBy e = none := by
  cases h with
  | look known => simp [Pass.sentBy, known]
  | list | download | readSecret | secretHasData | writeSecret => rfl

theorem actionsSent_of_quiet (h : ∀ e ∈ t, p.Quiet e) : p.actionsSent t = [] :=
  List.filterMap_eq_nil_iff.mpr fun e he => (h e he).sentBy

theorem actionsSent_append (p : Pass) (t₁ t₂ : List PassEvent) :
    p.actionsSent (t₁ ++ t₂) = p.actionsSent t₁ ++ p.actionsSent t₂ :=
  List.filterMap_append

theorem actionsSent_cons (p : Pass) (e : PassEvent) (t : List PassEvent) :
    p.actionsSent (e :: t) = (p.sentBy e).toList ++ p.actionsSent t := by
  unfold actionsSent
  rw [List.filterMap_cons]
  cases p.sentBy e <;> rfl

/-! ## Endings -/

/-- A pass that has come so far ends: the next one is due after a while, or the
resource is let go. -/
inductive Closes (g : Progress) : List PassEvent →
    Except OperatorError Outcome → Prop where
  | finished {d : Duration} {t : List PassEvent}
      {r : Except OperatorError Outcome} (ending : (finish g d).Walk t r) :
      Closes g t r
  | released {t : List PassEvent} {r : Except OperatorError Outcome}
      (ending : (release g).Walk t r) : Closes g t r

/-- How a pass ends that reports an action as sent or none: with at most one
write of status or finalizer, whose failure is the failure of the pass. -/
inductive Ending (kind : Option ActionKind) : List PassEvent →
    Except OperatorError Outcome → Prop where
  | unchanged {o : Outcome} (dispatched : o.dispatched = kind) :
      Ending kind [] (.ok o)
  | stored {s : Status} {o : Outcome} (dispatched : o.dispatched = kind) :
      Ending kind [.saved s] (.ok o)
  | unstored {s : Status} {e : OperatorError} :
      Ending kind [.store (.saveStatus s) (.error e)] (.error e)
  | released {o : Outcome} (dispatched : o.dispatched = kind) :
      Ending kind [.store .releaseFinalizer (.ok ())] (.ok o)
  | unreleased {e : OperatorError} :
      Ending kind [.store .releaseFinalizer (.error e)] (.error e)

theorem ending_of_walk_finish {g : Progress} {requeue : Duration}
    (h : (finish g requeue).Walk t r) : Ending g.dispatched t r := by
  rcases walk_finish_iff.mp h with ⟨-, rfl, rfl⟩ | ⟨-, answer, rfl, rfl⟩
  · exact .unchanged rfl
  · cases answer with
    | ok _ => exact .stored rfl
    | error e => exact .unstored

theorem ending_of_walk_release {g : Progress} (h : (release g).Walk t r) :
    Ending g.dispatched t r := by
  obtain ⟨answer, rfl, rfl⟩ := walk_release_iff.mp h
  cases answer with
  | ok _ => exact .released rfl
  | error e => exact .unreleased

theorem Closes.ending {g : Progress} (h : Closes g t r) :
    Ending g.dispatched t r := by
  cases h with
  | finished ending => exact ending_of_walk_finish ending
  | released ending => exact ending_of_walk_release ending

variable {kind : Option ActionKind}

theorem Ending.actionsSent (h : Ending kind t r) : p.actionsSent t = [] := by
  cases h <;> rfl

/-- A pass that is quiet until it ends sends nothing. -/
theorem actionsSent_of_idle {t₁ t₂ : List PassEvent}
    (quiet : ∀ e ∈ t₁, p.Quiet e) (ending : Ending kind t₂ r) :
    p.actionsSent (t₁ ++ t₂) = [] := by
  rw [actionsSent_append, actionsSent_of_quiet quiet, ending.actionsSent]
  rfl

theorem Ending.dispatched {o : Outcome} (h : Ending kind t r) (hr : r = .ok o) :
    o.dispatched = kind := by
  cases h with
  | unchanged dispatched | stored dispatched | released dispatched =>
    cases hr
    exact dispatched
  | unstored | unreleased => cases hr

theorem Ending.failed_save (h : Ending kind t r) {before after : List PassEvent}
    {s : Status} {e : OperatorError}
    (ht : t = before ++ .store (.saveStatus s) (.error e) :: after) :
    after = [] ∧ r = .error e := by
  match before, ht with
  | [], ht =>
    cases h <;> cases ht
    exact ⟨rfl, rfl⟩
  | _ :: before, ht =>
    have hlength : t.length ≤ 1 := by cases h <;> simp
    rw [ht] at hlength
    simp at hlength

/-! ## Shapes -/

/-- The three shapes of a pass: it sends nothing, it cannot store the mark of
its action, or it stores the mark and sends the action right after. -/
inductive Shape (p : Pass) : List PassEvent → Except OperatorError Outcome →
    Prop where
  | idle {t₁ t₂ : List PassEvent} {r : Except OperatorError Outcome}
      (quiet : ∀ e ∈ t₁, p.Quiet e) (ending : Ending none t₂ r) :
      Shape p (t₁ ++ t₂) r
  | refused {t₁ : List PassEvent} {marked : Status} {e : OperatorError}
      (quiet : ∀ e ∈ t₁, p.Quiet e) :
      Shape p (t₁ ++ [.store (.saveStatus marked) (.error e)]) (.error e)
  | sent {t₁ t₂ : List PassEvent} {marked : Status} {call : RemoteCall}
      {reply : Reply call.Answer} {action : CorrectiveAction}
      {r : Except OperatorError Outcome} (quiet : ∀ e ∈ t₁, p.Quiet e)
      (mark : marked.inFlight = some (p.pending action.signature))
      (sends : p.sentBy (.remote call reply) = some action)
      (ending : Ending (some action.kind) t₂ r) :
      Shape p (t₁ ++ .saved marked :: .remote call reply :: t₂) r

/-- The call of an action that was chosen is seen as that action: only a pass
that has no object on record binds one. -/
theorem sentBy_of_sends {s : Status} {action : CorrectiveAction}
    {c : Credentials} {call : RemoteCall}
    (hdel : p.resource.deletionRequested = false) (sends : p.Sends t s action)
    (target : p.callOf s.identity action c = some call)
    (reply : Reply call.Answer) :
    ∃ sent, p.sentBy (.remote call reply) = some sent ∧ sent.kind = action.kind
      ∧ sent.signature = action.signature := by
  obtain ⟨chosen, ⟨seen, observed, needed, -⟩, -, -, -⟩ := sends
  have hupkeep := ManagedResource.isUpkeep_of_nextAction? hdel needed
  obtain ⟨sent, hsent, hkind, hsignature⟩ :=
    action?_callOf target hupkeep.ne_delete
  refine ⟨sent, ?_, hkind, hsignature⟩
  cases call with
  | get id =>
    obtain rfl := eq_bind_of_callOf_eq_get target
    -- a binding is chosen without an identity, so that none was on record
    have hreads : p.readsObject = false := by
      obtain ⟨hnone, -⟩ := ManagedResource.nextAction?_eq_bind hdel needed
      cases hid : p.resource.status.identity with
      | none => simp [readsObject, hdel, hid]
      | some id' =>
        have hsome : seen.identity = some id' :=
          (inherits_of_walk_observeRemote hid observed).1.trans hid
        rw [hnone] at hsome
        cases hsome
    simp only [sentBy, hreads, Bool.false_eq_true, ↓reduceIte]
    exact hsent
  | _ => exact hsent

/-- The three shapes, with the status that the pass takes to be stored when it
ends. -/
inductive Accounts (p : Pass) : List PassEvent → Except OperatorError Outcome →
    Prop where
  | idle {t₁ t₂ : List PassEvent} {s : Status}
      {r : Except OperatorError Outcome} (quiet : ∀ e ∈ t₁, p.Quiet e)
      (closes : Closes (p.unsent s) t₂ r) : Accounts p (t₁ ++ t₂) r
  | refused {t₁ : List PassEvent} {marked : Status} {e : OperatorError}
      (quiet : ∀ e ∈ t₁, p.Quiet e) :
      Accounts p (t₁ ++ [.store (.saveStatus marked) (.error e)]) (.error e)
  | sent {t₁ t₂ : List PassEvent} {marked s : Status} {call : RemoteCall}
      {reply : Reply call.Answer} {action : CorrectiveAction}
      {r : Except OperatorError Outcome} (quiet : ∀ e ∈ t₁, p.Quiet e)
      (mark : marked.inFlight = some (p.pending action.signature))
      (sends : p.sentBy (.remote call reply) = some action)
      (closes : Closes
        { status := s, persisted := marked,
          dispatched := some action.kind } t₂ r) :
      Accounts p (t₁ ++ .saved marked :: .remote call reply :: t₂) r

/-- A pass over a resource that stays has one of the three shapes. -/
theorem Course.accounts (hdel : p.resource.deletionRequested = false)
    (h : p.Course t r) : p.Accounts t r := by
  cases h.conclusion with
  | rested rests ending => exact .idle rests.quiet (.finished ending)
  | unmarked sends credentials =>
    exact .refused (sends.quiet_readCredentials credentials)
  | @sent t₁ t₂ t₃ s action c call reply _ sends credentials target ending =>
    obtain ⟨sent, hsent, hkind, hsignature⟩ :=
      sentBy_of_sends hdel sends target reply
    have mark : (p.markDispatched s action).inFlight
        = some (p.pending sent.signature) := by
      rw [hsignature]
      exact inFlight_markDispatched p s action
    unfold sentEnding at ending
    rw [← hkind] at ending
    exact .sent (sends.quiet_readCredentials credentials) mark hsent
      (.finished ending)

/-- So has a deletion that has found its object with exchanges of no
consequence. -/
theorem ObjectTeardown.accounts {t₀ : List PassEvent} {s : Status} {id : String}
    (known : p.readsObject = true) (before : ∀ e ∈ t₀, p.Quiet e)
    (h : p.ObjectTeardown s id t r) : p.Accounts (t₀ ++ t) r := by
  have quiet : ∀ {t₁ : List PassEvent}
      {found : Except RemoteError (Status × Option LifecycleState)},
      (p.locate s id).Walk t₁ found → ∀ e ∈ t₀ ++ t₁, p.Quiet e :=
    fun located => List.forall_mem_append.mpr
      ⟨before, quiet_of_walk_locate known located⟩
  have sends : ∀ reply,
    p.sentBy (.remote (.delete id) reply) = some (.delete true) := fun _ => rfl
  cases h with
  | unread located _ ending | given located _ ending =>
    rw [← List.append_assoc]
    exact .idle (quiet located) (.finished ending)
  | gone located _ ending =>
    rw [← List.append_assoc]
    exact .idle (quiet located) (.released ending)
  | unmarked located _ =>
    rw [← List.append_assoc]
    exact .refused (quiet located)
  | deleted located _ ending | kept located _ _ _ ending =>
    rw [← List.append_assoc]
    exact .sent (quiet located) rfl (sends _) (.finished ending)
  | vanished located _ _ ending =>
    rw [← List.append_assoc]
    exact .sent (quiet located) rfl (sends _) (.released ending)

theorem Teardown.accounts (hdel : p.resource.deletionRequested = true)
    (h : p.Teardown t r) : p.Accounts t r := by
  have known : p.readsObject = true := by simp [readsObject, hdel]
  cases h with
  | detached _ ending =>
    have quiet : ∀ e ∈ ([] : List PassEvent), p.Quiet e := by simp
    exact .idle quiet (.released ending)
  | awaited _ identified ending =>
    exact .idle (quiet_of_walk_identify identified) (.finished ending)
  | objectless _ identified _ ending =>
    exact .idle (quiet_of_walk_identify identified) (.released ending)
  | known _ knows teardown =>
    exact teardown.accounts known (quiet_of_knows knows)

/-- Every pass has one of the three shapes. -/
theorem accounts_of_walk (h : p.run.Walk t r) : p.Accounts t r := by
  cases hdel : p.resource.deletionRequested with
  | false => exact (course_of_walk hdel h).accounts hdel
  | true => exact (teardown_of_walk hdel h).accounts hdel

theorem Accounts.shape (h : p.Accounts t r) : p.Shape t r := by
  cases h with
  | idle quiet closes => exact .idle quiet closes.ending
  | refused quiet => exact .refused quiet
  | sent quiet mark sends closes => exact .sent quiet mark sends closes.ending

theorem shape_of_walk (h : p.run.Walk t r) : p.Shape t r :=
  (accounts_of_walk h).shape

/-! ## What the shapes say of the actions sent -/

/-- An exchange that is not in the first part of a trace splits the second
part. -/
theorem split_of_not_mem {α : Type} {xs ys before after : List α} {e : α}
    (h : xs ++ ys = before ++ e :: after) (he : e ∉ xs) :
    ∃ rest, before = xs ++ rest ∧ ys = rest ++ e :: after := by
  rcases List.append_eq_append_iff.mp h with ⟨rest, hbefore, hys⟩
    | ⟨cs, hxs, hcs⟩
  · exact ⟨rest, hbefore, hys⟩
  · cases cs with
    | nil => exact ⟨[], by simpa using hxs.symm, hcs.symm⟩
    | cons c cs =>
      obtain ⟨rfl, -⟩ := List.cons.inj hcs
      exact absurd (by simp [hxs]) he

theorem sentBy_of_mem {e : PassEvent} {action : CorrectiveAction} (he : e ∈ t)
    (hsent : p.sentBy e = some action) : p.actionsSent t ≠ [] := by
  intro hnil
  rw [List.filterMap_eq_nil_iff.mp hnil e he] at hsent
  cases hsent

/-- What a pass sends, read off its shape: nothing, or the one action of the
pass. -/
theorem Shape.actionsSent_cases (h : p.Shape t r) :
    (p.actionsSent t = [] ∧ ∀ o, r = .ok o → o.dispatched = none)
      ∨ ∃ action, p.actionsSent t = [action] ∧ ∀ o, r = .ok o →
        o.dispatched = some action.kind := by
  cases h with
  | idle quiet ending =>
    exact .inl ⟨actionsSent_of_idle quiet ending, fun o ho =>
      ending.dispatched ho⟩
  | refused quiet =>
    refine .inl ⟨?_, fun o ho => by cases ho⟩
    rw [actionsSent_append, actionsSent_of_quiet quiet]
    rfl
  | @sent _ _ _ _ _ action _ quiet mark sends ending =>
    refine .inr ⟨action, ?_, fun o ho => ending.dispatched ho⟩
    rw [actionsSent_append, actionsSent_of_quiet quiet, List.nil_append,
      actionsSent_cons, actionsSent_cons, ending.actionsSent, sends]
    rfl

/-- Before an action is sent, its mark has been stored. -/
theorem Shape.marked_before (h : p.Shape t r) {before after : List PassEvent}
    {e : PassEvent} {action : CorrectiveAction} (ht : t = before ++ e :: after)
    (hsent : p.sentBy e = some action) :
    ∃ marked, .saved marked ∈ before
      ∧ marked.inFlight = some (p.pending action.signature) := by
  have hmem : e ∈ t := by simp [ht]
  cases h with
  | idle quiet ending =>
    exact absurd (actionsSent_of_idle quiet ending) (sentBy_of_mem hmem hsent)
  | refused quiet =>
    refine absurd ?_ (sentBy_of_mem hmem hsent)
    rw [actionsSent_append, actionsSent_of_quiet quiet]
    rfl
  | @sent t₁ t₂ marked call reply sent r quiet mark sends ending =>
    -- what sends an action is not among the first exchanges, nor at the end,
    -- nor the mark: it is the call
    have hfirst :
        e ∉ t₁ := fun he => by rw [(quiet e he).sentBy] at hsent; cases hsent
    obtain ⟨rest, rfl, hrest⟩ := split_of_not_mem ht hfirst
    refine ⟨marked, ?_, ?_⟩
    · cases rest with
      | nil =>
        obtain ⟨rfl, -⟩ := List.cons.inj hrest
        cases hsent
      | cons x rest =>
        obtain ⟨rfl, -⟩ := List.cons.inj hrest
        simp
    · match rest, hrest with
      | [], hrest =>
        obtain ⟨rfl, -⟩ := List.cons.inj hrest
        cases hsent
      | [_], hrest =>
        obtain ⟨rfl, -⟩ := List.cons.inj (List.cons.inj hrest).2
        rw [sends] at hsent
        cases hsent
        exact mark
      | _ :: _ :: rest, hrest =>
        have he : e ∈ t₂ := by
          have htail := (List.cons.inj (List.cons.inj hrest).2).2
          simp [htail]
        exact absurd ending.actionsSent (sentBy_of_mem he hsent)

/-- A status that cannot be stored ends the pass, with the failure of the
store. -/
theorem Shape.failed_save (h : p.Shape t r) {before after : List PassEvent}
    {s : Status} {e : OperatorError}
    (ht : t = before ++ .store (.saveStatus s) (.error e) :: after) :
    after = [] ∧ r = .error e := by
  cases h with
  | idle quiet ending =>
    obtain ⟨rest, -, hrest⟩ :=
      split_of_not_mem ht (saveStatus_not_mem_of_quiet quiet)
    exact ending.failed_save hrest
  | @refused t₁ marked e' quiet =>
    obtain ⟨rest, -, hrest⟩ :=
      split_of_not_mem ht (saveStatus_not_mem_of_quiet quiet)
    have ending : Ending none [.store (.saveStatus marked) (.error e')]
      (.error e') := .unstored
    exact ending.failed_save hrest
  | @sent t₁ t₂ marked call reply sent r quiet mark sends ending =>
    obtain ⟨rest, -, hrest⟩ :=
      split_of_not_mem ht (saveStatus_not_mem_of_quiet quiet)
    -- neither the mark, which was stored, nor the call can be the one that
    -- failed
    match rest, hrest with
    | [], hrest => cases hrest
    | [_], hrest => cases hrest
    | _ :: _ :: rest, hrest =>
      have htail := (List.cons.inj (List.cons.inj hrest).2).2
      exact ending.failed_save htail

/-- **One action, marked before it is sent.** Whatever the remote and the store
answer, a pass

1. sends at most one action;
2. sends an action only after the store has taken a status, in this pass, that
   marks exactly this action as under way since now;
3. ends with the failure of the store when a status cannot be stored, and sends
   nothing if that is the first one;
4. reports, if it succeeds, an action exactly if it sent one, and then the kind
   of that action. -/
theorem run_sends_one_marked_action (p : Pass) {t : List PassEvent}
    {r : Except OperatorError Outcome} (h : p.run.Walk t r) :
    (p.actionsSent t).length ≤ 1
      ∧ (∀ before e after action, t = before ++ e :: after →
        p.sentBy e = some action →
          ∃ marked, .saved marked ∈ before
            ∧ marked.inFlight
              = some
                { signature := action.signature, since := p.now.timestamp })
      ∧ (∀ before s e after,
        t = before ++ .store (.saveStatus s) (.error e) :: after →
          after = [] ∧ r = .error e
            ∧ ((∀ s', .saved s' ∉ before) → p.actionsSent t = []))
      ∧ ∀ o, r = .ok o →
        o.dispatched = (p.actionsSent t).head?.map CorrectiveAction.kind := by
  have hshape := shape_of_walk h
  refine ⟨?_, ?_, ?_, ?_⟩
  · rcases hshape.actionsSent_cases with ⟨hnil, -⟩ | ⟨action, hone, -⟩
    · simp [hnil]
    · simp [hone]
  · intro before e after action ht hsent
    exact hshape.marked_before ht hsent
  · intro before s e after ht
    obtain ⟨rfl, hr⟩ := hshape.failed_save ht
    refine ⟨rfl, hr, fun hfirst => List.filterMap_eq_nil_iff.mpr fun x hx => ?_⟩
    -- an action in the trace would come after a mark that was stored, and there
    -- is none
    cases hsent : p.sentBy x with
    | none => rfl
    | some action =>
      obtain ⟨xs, zs, hsplit⟩ := List.append_of_mem hx
      obtain ⟨marked, hmarked, -⟩ := hshape.marked_before hsplit hsent
      have hmem :
          .saved marked ∈ before ++ [.store (.saveStatus s) (.error e)] := by
        rw [← ht, hsplit]
        exact List.mem_append_left _ hmarked
      rcases List.mem_append.mp hmem with hmem | hmem
      · exact absurd hmem (hfirst marked)
      · cases List.mem_singleton.mp hmem
  · intro o ho
    rcases hshape.actionsSent_cases with ⟨hnil, hnone⟩ | ⟨action, hone, hsome⟩
    · rw [hnil, hnone o ho]
      rfl
    · rw [hone, hsome o ho]
      rfl

/-- The first pass over a new database. -/
def firstPass : Pass :=
  .ofDatabase (some "sales") {} false ⟨1700000000, 0⟩

/-- On an empty remote the first pass sends a create, and has marked it
before. -/
theorem firstPass_sends_marked_provision :
    firstPass.actionsSent (firstPass.run.transcript Simulation.answer {})
      = [.provision]
      ∧ ∃ marked, .saved marked ∈ firstPass.run.transcript Simulation.answer {}
        ∧ marked.inFlight
          = some
            { signature := "Provision",
              since := "2023-11-14T22:13:20+00:00" } := by
  have hsent : firstPass.actionsSent
      (firstPass.run.transcript Simulation.answer {}) = [.provision] := by
    decide +kernel
  obtain ⟨-, hmarked, -, -⟩ :=
    run_sends_one_marked_action firstPass
      (Program.walk_transcript Simulation.answer firstPass.run {})
  refine ⟨hsent, ?_⟩
  have hmem : CorrectiveAction.provision
      ∈ firstPass.actionsSent
        (firstPass.run.transcript Simulation.answer {}) := by
    rw [hsent]
    exact List.mem_singleton_self _
  obtain ⟨e, he, hprovision⟩ := List.mem_filterMap.mp hmem
  obtain ⟨before, after, hsplit⟩ := List.append_of_mem he
  obtain ⟨marked, hbefore, hpending⟩ :=
    hmarked before e after .provision hsplit hprovision
  refine ⟨marked, ?_, hpending.trans (by decide +kernel)⟩
  rw [hsplit]
  exact List.mem_append_left _ hbefore

end DatabaseOperator.Pass
