import DatabaseOperator.Proofs.Pass.Resting
import DatabaseOperator.Proofs.Pass.WriteAhead

/-!
# What a pass sends and what it stores

The courses of a pass say all that can happen in it. Most statements ask for
less: how a pass came to send an action, or which statuses it may have stored.
Both are read off the courses once.

- `Pass.Sent`, `Pass.sent_of_walk`: how a pass comes to send a call, and that no
  action is sent otherwise.
- `Pass.Course.sends_of_sentBy`, `Pass.Teardown.deletes_of_sentBy`: what comes
  before and after an action.
- `Pass.Stores`, `Pass.stores_of_saved`: the statuses that a pass over a
  resource that stays may store.
- `Pass.identity_of_saved`, `Pass.identity_storedAfter`: an identity on record
  is never lost, nor exchanged for another.
-/

namespace DatabaseOperator.Pass

variable {p : Pass} {t t₁ t₂ : List PassEvent}
    {r : Except OperatorError Outcome} {s : Status} {id : String}

/-! ## Sending -/

/-- How a pass comes to send a call: what was exchanged before, and the status
that was stored with the mark. -/
inductive Sent (p : Pass) : List PassEvent → Status → RemoteCall → Prop where
  /-- The action was chosen by what was observed. -/
  | dispatched {t₁ t₂ : List PassEvent} {s : Status} {action : CorrectiveAction}
      {c : Credentials} {call : RemoteCall}
      (stays : p.resource.deletionRequested = false)
      (sends : p.Sends t₁ s action)
      (credentials : (p.readCredentials action).Walk t₂ (.ok c))
      (target : p.callOf s.identity action c = some call) : Sent p (t₁ ++ t₂)
      (p.markDispatched s action) call
  /-- The resource is being deleted, and its object was seen. -/
  | deleted {t₁ t₂ : List PassEvent} {known s : Status} {id : String}
      {observed : Option LifecycleState}
      (leaves : p.resource.deletionRequested = true)
      (knows : p.Knows t₁ known id)
      (located : (p.locate known id).Walk t₂ (.ok (s, observed)))
      (step : p.deletionStep s id observed = .dispatch) :
      Sent p (t₁ ++ t₂) (p.markDeleted s) (.delete id)

/-- What the answer to the delete call means for a status. -/
def afterDelete (p : Pass) (s : Status) (reply : Reply Unit) : Status :=
  match p.outcomeOf reply with
  | .ok _ => { s with consecutiveFailures := 0 }
  | .error e => (p.afterDeleteFailure s e).1

section Splitting

variable {before after : List PassEvent} {e : PassEvent}
    {action : CorrectiveAction}

/-- A pass that is quiet until it ends sends nothing. -/
theorem sentBy_eq_none_of_idle {kind : Option ActionKind}
    (quiet : ∀ e ∈ t₁, p.Quiet e) (ending : Ending kind t₂ r)
    (he : e ∈ t₁ ++ t₂) : p.sentBy e = none :=
  List.filterMap_eq_nil_iff.mp (actionsSent_of_idle quiet ending) e he

/-- What sends an action in a pass that stores a mark and makes a call is that
call. -/
theorem split_of_sentBy {marked : Status} {call : RemoteCall}
    {reply : Reply call.Answer} {kind : Option ActionKind}
    (quiet : ∀ e ∈ t₁, p.Quiet e) (ending : Ending kind t₂ r)
    (ht : t₁ ++ .saved marked :: .remote call reply :: t₂
      = before ++ e :: after)
    (hsent : p.sentBy e = some action) :
    before = t₁ ++ [.saved marked] ∧ e = .remote call reply ∧ after = t₂ := by
  have hfirst :
      e ∉ t₁ := fun he => by rw [(quiet e he).sentBy] at hsent; cases hsent
  obtain ⟨rest, rfl, hrest⟩ := split_of_not_mem ht hfirst
  match rest, hrest with
  | [], hrest =>
    -- the mark sends nothing
    obtain ⟨rfl, -⟩ := List.cons.inj hrest
    cases hsent
  | [_], hrest =>
    obtain ⟨hmark, htail⟩ := List.cons.inj hrest
    obtain ⟨hcall, hrest⟩ := List.cons.inj htail
    rw [hmark]
    exact ⟨rfl, hcall.symm, hrest.symm⟩
  | _ :: _ :: rest, hrest =>
    -- nor does the ending
    have he : e ∈ t₂ := by
      rw [(List.cons.inj (List.cons.inj hrest).2).2]
      simp
    exact absurd ending.actionsSent (sentBy_of_mem he hsent)

/-- An action of a pass over a resource that stays was chosen, marked and sent,
and the pass ends with its answer. -/
theorem Course.sends_of_sentBy (h : p.Course t r)
    (ht : t = before ++ e :: after) (hsent : p.sentBy e = some action) :
    ∃ (looked read : List PassEvent) (s : Status) (chosen : CorrectiveAction)
      (c : Credentials) (call : RemoteCall)
      (reply : Reply call.Answer),
      before = looked ++ read ++ [.saved (p.markDispatched s chosen)]
        ∧ e = .remote call reply
        ∧ p.Sends looked s chosen ∧ (p.readCredentials chosen).Walk read (.ok c)
        ∧ p.callOf s.identity chosen c = some call
        ∧ (p.sentEnding s chosen call reply).Walk after r := by
  have he : e ∈ t := by rw [ht]; simp
  have hidle : p.sentBy e ≠ none := by rw [hsent]; simp
  -- only the last conclusion comes to a call that sends
  cases h.conclusion with
  | rested rests ending =>
    exact absurd (sentBy_eq_none_of_idle rests.quiet
      (ending_of_walk_finish ending) he) hidle
  | @unmarked t₁ t₂ s chosen _ error sends credentials =>
    have quiet := sends.quiet_readCredentials credentials
    have ending : Ending none
        [.store (.saveStatus (p.markDispatched s chosen)) (.error error)]
        (.error error) :=
      .unstored
    exact absurd (sentBy_eq_none_of_idle quiet ending he) hidle
  | sent sends credentials target ending =>
    have quiet := sends.quiet_readCredentials credentials
    obtain ⟨hbefore, rfl, rfl⟩ :=
      split_of_sentBy quiet (ending_of_walk_finish ending) ht hsent
    exact ⟨_, _, _, _, _, _, _, hbefore, rfl, sends, credentials,
      target, ending⟩

/-- The delete call of a deletion comes after its mark, and only what its answer
means is stored after it. -/
theorem ObjectTeardown.deletes_of_sentBy {known : Status}
    (hdel : p.resource.deletionRequested = true) (knows : p.Knows t₁ known id)
    (h : p.ObjectTeardown known id t₂ r) (ht : t₁ ++ t₂ = before ++ e :: after)
    (hsent : p.sentBy e = some action) :
    ∃ looked s observed reply,
      before = t₁ ++ looked ++ [.saved (p.markDeleted s)]
        ∧ e = .remote (.delete id) reply
        ∧ (p.locate known id).Walk looked (.ok (s, observed))
        ∧ p.deletionStep s id observed = .dispatch
        ∧ ∀ s', .saved s' ∈ after →
          s' = p.afterDelete (p.markDeleted s) reply := by
  have he : e ∈ t₁ ++ t₂ := by rw [ht]; simp
  have hidle : p.sentBy e ≠ none := by rw [hsent]; simp
  have reads : p.readsObject = true := by simp [readsObject, hdel]
  have quiet : ∀ {t₃ : List PassEvent}
      {found : Except RemoteError (Status × Option LifecycleState)},
      (p.locate known id).Walk t₃ found → ∀ e ∈ t₁ ++ t₃, p.Quiet e :=
    fun located => List.forall_mem_append.mpr
      ⟨quiet_of_knows knows, quiet_of_walk_locate reads located⟩
  -- a teardown that comes to no mark sends nothing; the others are split where
  -- the delete call is
  cases h with
  | unread located _ ending | given located _ ending =>
    rw [← List.append_assoc] at he
    exact absurd
      (sentBy_eq_none_of_idle (quiet located) (ending_of_walk_finish ending) he)
      hidle
  | gone located _ ending =>
    rw [← List.append_assoc] at he
    exact absurd
      (sentBy_eq_none_of_idle (quiet located)
        (ending_of_walk_release ending) he) hidle
  | @unmarked _ s _ error located _ =>
    rw [← List.append_assoc] at he
    have ending : Ending none
      [.store (.saveStatus (p.markDeleted s)) (.error error)]
      (.error error) := .unstored
    exact absurd (sentBy_eq_none_of_idle (quiet located) ending he) hidle
  | deleted located step ending =>
    rw [← List.append_assoc] at ht
    obtain ⟨hbefore, rfl, rfl⟩ :=
      split_of_sentBy (quiet located) (ending_of_walk_finish ending) ht hsent
    exact ⟨_, _, _, _, hbefore, rfl, located, step, fun s' hs =>
      eq_of_saved_mem_finish ending hs⟩
  | kept located step failed _ ending =>
    -- the failure of the call is stored
    rw [← List.append_assoc] at ht
    obtain ⟨hbefore, rfl, rfl⟩ :=
      split_of_sentBy (quiet located) (ending_of_walk_finish ending) ht hsent
    refine ⟨_, _, _, _, hbefore, rfl, located, step, fun s' hs => ?_⟩
    unfold afterDelete
    rw [failed]
    exact eq_of_saved_mem_finish ending hs
  | vanished located step _ ending =>
    -- the resource is let go, and nothing stored
    rw [← List.append_assoc] at ht
    obtain ⟨hbefore, rfl, rfl⟩ :=
      split_of_sentBy (quiet located) (ending_of_walk_release ending) ht hsent
    exact ⟨_, _, _, _, hbefore, rfl, located, step, fun s' hs =>
      absurd hs (saved_not_mem_release ending)⟩

/-- So does that of any pass over a resource that is being deleted. -/
theorem Teardown.deletes_of_sentBy (hdel : p.resource.deletionRequested = true)
    (h : p.Teardown t r) (ht : t = before ++ e :: after)
    (hsent : p.sentBy e = some action) :
    ∃ t₁ looked known id s observed reply,
      before = t₁ ++ looked ++ [.saved (p.markDeleted s)]
      ∧ e = .remote (.delete id) reply ∧ p.Knows t₁ known id
      ∧ (p.locate known id).Walk looked (.ok (s, observed))
      ∧ p.deletionStep s id observed = .dispatch
      ∧ ∀ s', .saved s' ∈ after →
        s' = p.afterDelete (p.markDeleted s) reply := by
  have he : e ∈ t := by rw [ht]; simp
  have hidle : p.sentBy e ≠ none := by rw [hsent]; simp
  cases h with
  | detached _ ending =>
    have quiet : ∀ e ∈ ([] : List PassEvent), p.Quiet e := by simp
    exact absurd
      (sentBy_eq_none_of_idle quiet (ending_of_walk_release ending) he) hidle
  | awaited _ identified ending =>
    have quiet := quiet_of_walk_identify identified
    exact absurd
      (sentBy_eq_none_of_idle quiet (ending_of_walk_finish ending) he) hidle
  | objectless _ identified _ ending =>
    have quiet := quiet_of_walk_identify identified
    exact absurd
      (sentBy_eq_none_of_idle quiet (ending_of_walk_release ending) he) hidle
  | known _ knows teardown =>
    obtain ⟨looked, s, observed, reply, hbefore, rfl, located, step, hafter⟩ :=
      teardown.deletes_of_sentBy hdel knows ht hsent
    exact ⟨_, looked, _, _, s, observed, reply, hbefore, rfl, knows, located,
      step, hafter⟩

/-- Every action that a pass sends is sent in one of these ways, right after its
mark was stored. -/
theorem sent_of_walk (h : p.run.Walk t r) (ht : t = before ++ e :: after)
    (hsent : p.sentBy e = some action) :
    ∃ looked marked call reply, before = looked ++ [.saved marked]
      ∧ e = .remote call reply
      ∧ p.Sent looked marked call := by
  cases hdel : p.resource.deletionRequested with
  | false =>
    obtain ⟨looked, read, s, chosen, c, call, reply, hbefore, rfl, sends,
        credentials, target, -⟩ :=
      (course_of_walk hdel h).sends_of_sentBy ht hsent
    exact ⟨_, _, _, _, hbefore, rfl, .dispatched hdel sends credentials target⟩
  | true =>
    obtain ⟨_, _, _, _, _, _, _, hbefore, rfl, knows, located, step, -⟩ :=
      (teardown_of_walk hdel h).deletes_of_sentBy hdel ht hsent
    exact ⟨_, _, _, _, hbefore, rfl, .deleted hdel knows located step⟩

end Splitting

/-- What was exchanged before a call that changes something has no
consequences. -/
theorem Sent.quiet {marked : Status} {call : RemoteCall}
    (h : p.Sent t marked call) : ∀ e ∈ t, p.Quiet e := by
  cases h with
  | dispatched _ sends credentials _ =>
    exact sends.quiet_readCredentials credentials
  | deleted leaves knows located _ =>
    have reads : p.readsObject = true := by simp [readsObject, leaves]
    exact List.forall_mem_append.mpr
      ⟨quiet_of_knows knows, quiet_of_walk_locate reads located⟩

/-! ## Storing -/

/-- The statuses that a pass may store, over a resource that is not being
deleted. -/
inductive Stores (p : Pass) (t : List PassEvent) : Status → Prop where
  /-- What was observed has ended the pass. -/
  | looked {t₁ : List PassEvent} {s : Status} {d : Duration}
      (observed : (p.observeRemote p.initialStatus).Walk t₁ (.stop s d)) :
      Stores p t s
  /-- Nothing was sent. -/
  | kept {t₁ : List PassEvent} {seen s : Status}
      (observed : (p.observeRemote p.initialStatus).Walk t₁ (.proceed seen))
      (kept : s.Inherits seen) : Stores p t s
  /-- An action is about to be sent. -/
  | marked {t₁ : List PassEvent} {s : Status} {action : CorrectiveAction}
      (sends : p.Sends t₁ s action) : Stores p t (p.markDispatched s action)
  /-- An action was sent. -/
  | answered {t₁ : List PassEvent} {s : Status} {action : CorrectiveAction}
      {c : Credentials} {call : RemoteCall} {reply : Reply call.Answer}
      (sends : p.Sends t₁ s action)
      (target : p.callOf s.identity action c = some call)
      (mem : .remote call reply ∈ t) :
      Stores p t
        (p.afterAnswer (p.markDispatched s action) action
          (p.answerOf call reply)).1

/-- A pass that is quiet until it ends stores what it ends with. -/
theorem eq_of_saved_mem_quits {s' : Status} {d : Duration}
    (quiet : ∀ e ∈ t₁, p.Quiet e) (ending : (p.quits s' d).Walk t₂ r)
    (hs : .saved s ∈ t₁ ++ t₂) : s = s' :=
  eq_of_saved_mem_append_finish (saveStatus_not_mem_of_quiet quiet) ending hs

/-- A pass stores no other statuses. -/
theorem Course.stores (h : p.Course t r) (hs : .saved s ∈ t) :
    p.Stores t s := by
  cases h.conclusion with
  | rested rests ending =>
    obtain rfl := eq_of_saved_mem_quits rests.quiet ending hs
    rcases rests.stops_or_inherits with observed
      | ⟨_, _, seen, -, observed, kept⟩
    · exact .looked observed
    · exact .kept observed kept
  | unmarked sends credentials =>
    -- the mark is refused, and nothing else given to the store
    have quiet := sends.quiet_readCredentials credentials
    exact absurd hs
      (saved_not_mem_append_refused (saveStatus_not_mem_of_quiet quiet))
  | sent sends credentials target ending =>
    have quiet := sends.quiet_readCredentials credentials
    -- the mark is stored first
    rcases eq_of_saved_mem_sent (saveStatus_not_mem_of_quiet quiet) ending hs
      with rfl | rfl
    · exact .marked sends
    · exact .answered sends target (by simp)

theorem stores_of_saved (hdel : p.resource.deletionRequested = false)
    (h : p.run.Walk t r) (hs : .saved s ∈ t) : p.Stores t s :=
  (course_of_walk hdel h).stores hs

/-- What a pass stores that is quiet until it ends is what is stored after
it. -/
theorem storedAfter_eq_of_quits {s' : Status} {d : Duration} (s₀ : Status)
    (quiet : ∀ e ∈ t₁, p.Quiet e) (ending : (p.quits s' d).Walk t₂ r)
    (hs : .saved s ∈ t₁ ++ t₂) : storedAfter s₀ (t₁ ++ t₂) = s := by
  have hlast := eq_of_saved_mem_quits quiet ending (saved_storedAfter_mem s₀ hs)
  rw [hlast, eq_of_saved_mem_quits quiet ending hs]

/-- What a pass over a resource that stays has stored is replaced once at most,
by the status after the answer to an action. -/
theorem Course.storedAfter_cases (s₀ : Status) (h : p.Course t r)
    (hs : .saved s ∈ t) :
    storedAfter s₀ t = s ∨ ∃ action answer,
      storedAfter s₀ t = (p.afterAnswer s action answer).1 := by
  cases h.conclusion with
  | rested rests ending =>
    exact .inl (storedAfter_eq_of_quits s₀ rests.quiet ending hs)
  | unmarked sends credentials =>
    have quiet := sends.quiet_readCredentials credentials
    exact absurd hs
      (saved_not_mem_append_refused (saveStatus_not_mem_of_quiet quiet))
  | @sent t₁ t₂ t₃ s' action _ call reply _ sends credentials target ending =>
    have quiet := sends.quiet_readCredentials credentials
    have hstored : storedAfter s₀ (t₁ ++ t₂
        ++ .saved (p.markDispatched s' action) :: .remote call reply :: t₃)
          = storedAfter (p.markDispatched s' action) t₃ := by
      rw [storedAfter_append]
      rfl
    rw [hstored]
    rcases eq_or_mem_of_saved_mem_sent (saveStatus_not_mem_of_quiet quiet) hs
      with rfl | hs
    · -- the mark, which the status after the answer may have replaced
      rcases DatabaseOperator.storedAfter_cases (p.markDispatched s' action) t₃
        with hkept | hlater
      · exact .inl hkept
      · exact .inr ⟨action, _, eq_of_saved_mem_finish ending hlater⟩
    · -- the status after the answer is the last one
      have hlast :=
        eq_of_saved_mem_finish ending
          (saved_storedAfter_mem (p.markDispatched s' action) hs)
      exact .inl (hlast.trans (eq_of_saved_mem_finish ending hs).symm)

/-! ## Identities that stay -/

theorem inherits_afterAnswer (h : s.identity = some id)
    (action : CorrectiveAction)
    (answer : Except RemoteError (Option Snapshot)) :
    (p.afterAnswer s action answer).1.Inherits s := by
  cases answer with
  | ok found => exact inherits_afterSuccess h action found
  | error e => exact inherits_afterFailure p s action e

/-- A status that is stored has the identity that was known after the remote had
been observed, if one was. -/
theorem Stores.identity_cases (h : p.Stores t s) :
    (∃ t₁ d, (p.observeRemote p.initialStatus).Walk t₁ (.stop s d))
      ∨ ∃ t₁ seen, (p.observeRemote p.initialStatus).Walk t₁ (.proceed seen)
        ∧ (seen.identity.isSome = true → s.identity = seen.identity) := by
  cases h with
  | looked observed => exact .inl ⟨_, _, observed⟩
  | kept observed hkept => exact .inr ⟨_, _, observed, fun _ => hkept.1⟩
  | marked sends =>
    obtain ⟨seen, observed, -, hkept⟩ := sends.inherits
    exact .inr ⟨_, seen, observed, fun _ => hkept.1⟩
  | @answered _ s action _ call reply sends =>
    obtain ⟨seen, observed, -, hkept⟩ := sends.inherits
    refine .inr ⟨_, seen, observed, fun hsome => ?_⟩
    -- only a status without an identity takes that of an answer
    obtain ⟨id, hid⟩ := Option.isSome_iff_exists.mp hsome
    have hmarked :
        (p.markDispatched s action).identity = some id := hkept.1.trans hid
    exact (inherits_afterAnswer hmarked action (p.answerOf call reply)).1.trans
      hkept.1

/-- An identity on record is never lost, nor exchanged for another. -/
theorem identity_of_saved (hid : p.resource.status.identity = some id)
    (h : p.run.Walk t r) (hs : .saved s ∈ t) : s.identity = some id := by
  cases hdel : p.resource.deletionRequested with
  | false =>
    rcases (stores_of_saved hdel h hs).identity_cases with ⟨t₁, d, observed⟩
      | ⟨t₁, seen, observed, hsame⟩
    · exact (inherits_of_walk_observeRemote hid observed).1.trans hid
    · have hseen : seen.identity = some id :=
        (inherits_of_walk_observeRemote hid observed).1.trans hid
      rw [hsame (by rw [hseen]; rfl), hseen]
  | true =>
    have hknown : p.deletingStatus.identity = some id := hid
    have hsome : p.deletingStatus.identity.isSome = true := by rw [hknown]; rfl
    cases teardown_of_walk hdel h with
    | detached _ ending => exact absurd hs (saved_not_mem_release ending)
    | awaited _ identified =>
      cases ((walk_identify_of_some hsome).mp identified).2
    | objectless _ identified unknown =>
      cases ((walk_identify_of_some hsome).mp identified).2
      rw [hknown] at unknown
      cases unknown
    | known _ knows teardown =>
      obtain ⟨identified, hobject⟩ := knows
      obtain ⟨rfl, hstep⟩ := (walk_identify_of_some hsome).mp identified
      cases hstep
      rcases teardown.inherits hobject hs with hkept | hkept
      · exact hkept.1.trans hknown
      · exact hkept.1.trans hknown

/-- All that a deletion stores knows the same object, if one is known to any of
it. -/
theorem Teardown.identity_eq {s' : Status} (h : p.Teardown t r)
    (hs : .saved s ∈ t) (hs' : .saved s' ∈ t) : s'.identity = s.identity := by
  cases h with
  | detached _ ending => exact absurd hs (saved_not_mem_release ending)
  | awaited _ identified ending =>
    have quiet := quiet_of_walk_identify identified
    have hone := eq_of_saved_mem_append_finish
      (saveStatus_not_mem_of_quiet quiet) ending hs
    have hother := eq_of_saved_mem_append_finish
      (saveStatus_not_mem_of_quiet quiet) ending hs'
    rw [hone, hother]
  | objectless _ identified _ ending =>
    have quiet := quiet_of_walk_identify identified
    exact absurd hs (saved_not_mem_append_release
      (saveStatus_not_mem_of_quiet quiet) ending)
  | @known t₁ t₂ known id _ _ knows teardown =>
    -- whether the mark of the delete call hides another one or not, the
    -- identity is that of the object
    have hknown : ∀ {s''}, .saved s'' ∈ t₁ ++ t₂ → s''.identity = some id := by
      intro s'' hmem
      have hmem := saved_mem_of_quiet (quiet_of_knows knows) hmem
      rcases teardown.inherits knows.2 hmem with hkept | hkept
      · exact hkept.1.trans knows.2
      · exact hkept.1.trans knows.2
    rw [hknown hs, hknown hs']

/-- An identity that a pass has stored is on record when the pass is over. -/
theorem identity_storedAfter (s₀ : Status) (h : p.run.Walk t r)
    (hs : .saved s ∈ t) (hid : s.identity = some id) :
    (storedAfter s₀ t).identity = some id := by
  cases hdel : p.resource.deletionRequested with
  | false =>
    rcases (course_of_walk hdel h).storedAfter_cases s₀ hs with hlast
      | ⟨action, answer, hlast⟩
    · rw [hlast, hid]
    · rw [hlast]
      exact (inherits_afterAnswer hid action answer).1.trans hid
  | true =>
    rw [← hid]
    exact (teardown_of_walk hdel h).identity_eq hs (saved_storedAfter_mem s₀ hs)

end DatabaseOperator.Pass
