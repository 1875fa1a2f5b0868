import DatabaseOperator.Proofs.Pass.Sent

/-!
# What a pass knows that makes an object

Of all calls, those that make an object are the ones that must not be sent
twice. A pass sends such a call only if it has found no object, and what it
stores around the call is the mark before it and the status after its answer.

- `Pass.createsObject_callOf`: the call of an action makes an object exactly if
  the action does.
- `Pass.Sends.unidentified`: a pass makes an object only if it has found none.
- `Pass.sends_of_creates`: what comes before and after a call that makes an
  object.
- `Pass.unidentified_of_creates`: the status that such a pass begins with knows
  no object.
-/

namespace DatabaseOperator

/-- A call that makes an object stands for an action. -/
theorem RemoteCall.exists_action?_of_createsObject {call : RemoteCall}
    (h : call.createsObject = true) : ∃ action, call.action? = some action := by
  cases call with
  | create | cloneDatabase | createPdb | clonePdb | plugPdb => exact ⟨_, rfl⟩
  | _ => cases h

namespace Pass

variable {p : Pass} {s : Status} {t before after : List PassEvent}
    {r : Except OperatorError Outcome} {call : RemoteCall}
    {reply : Reply call.Answer}

/-- The call of an action makes an object exactly if the action does. -/
theorem createsObject_callOf {identity : Option String}
    {action : CorrectiveAction} {credentials : Credentials}
    (h : p.callOf identity action credentials = some call) :
    call.createsObject = action.createsObject := by
  cases action with
  | provision =>
    cases h
    unfold provisionCall
    split <;> rfl
  | bind _ =>
    cases h
    rfl
  | updateAttributes _ | changeState _ | delete _ =>
    obtain ⟨_, -, rfl⟩ := Option.map_eq_some_iff.mp h
    rfl
  | pdb request =>
    cases h
    obtain ⟨action⟩ := request
    cases action <;> rfl

/-- A call that makes an object sends an action. -/
theorem exists_sentBy_of_createsObject (p : Pass) (reply : Reply call.Answer)
    (h : call.createsObject = true) :
    ∃ action, p.sentBy (.remote call reply) = some action := by
  obtain ⟨action, haction⟩ := RemoteCall.exists_action?_of_createsObject h
  refine ⟨action, ?_⟩
  cases call with
  | get => cases h
  | _ => exact haction

/-- A pass makes an object only if it has found none. -/
theorem Sends.unidentified {action : CorrectiveAction}
    (hdel : p.resource.deletionRequested = false) (h : p.Sends t s action)
    (hcreates : action.createsObject = true) :
    s.identity = none ∧ ∃ seen, (p.observeRemote p.initialStatus).Walk t
      (.proceed seen) ∧ seen.identity = none := by
  obtain ⟨seen, observed, needed, hkept⟩ := h.inherits
  have hnone : seen.identity = none := by
    cases hid : seen.identity with
    | none => rfl
    | some id =>
      -- what is done about an object that is known makes no other
      rcases ManagedResource.nextAction?_of_identified hdel
          (by rw [hid]; rfl) needed with
        ⟨_, rfl⟩ | ⟨_, rfl⟩ | ⟨request, -, rfl, hgives⟩
      · cases hcreates
      · cases hcreates
      · have hmakes : request.action.isProvisioning = true := hcreates
        simp [PdbAction.givesIdentity, hmakes] at hgives
  exact ⟨hkept.1.trans hnone, seen, observed, hnone⟩

/-- A call that makes an object is the call of an action that was chosen and
marked, and what follows is its answer. -/
theorem sends_of_creates (h : p.run.Walk t r)
    (ht : t = before ++ .remote call reply :: after)
    (hcreates : call.createsObject = true) :
    p.resource.deletionRequested = false
      ∧ ∃ (looked read : List PassEvent) (s : Status)
        (action : CorrectiveAction) (c : Credentials),
        before = looked ++ read ++ [.saved (p.markDispatched s action)]
          ∧ p.Sends looked s action
          ∧ (p.readCredentials action).Walk read (.ok c)
          ∧ p.callOf s.identity action c = some call
          ∧ action.createsObject = true
          ∧ (p.sentEnding s action call reply).Walk after r := by
  obtain ⟨sent, hsent⟩ := p.exists_sentBy_of_createsObject reply hcreates
  cases hdel : p.resource.deletionRequested with
  | true =>
    -- a deletion sends nothing but the delete call
    obtain ⟨looked, marked, call', reply', -, hcall, hway⟩ :=
      sent_of_walk h ht hsent
    cases hcall
    cases hway with
    | dispatched stays =>
      rw [hdel] at stays
      cases stays
    | deleted => cases hcreates
  | false =>
    obtain ⟨looked, read, s, action, c, call', reply', hbefore, hcall, sends,
        credentials, target, ending⟩ :=
      (course_of_walk hdel h).sends_of_sentBy ht hsent
    cases hcall
    have haction : action.createsObject = true :=
      (createsObject_callOf target).symm.trans hcreates
    exact ⟨rfl, looked, read, s, action, c, hbefore, sends, credentials, target,
      haction, ending⟩

/-- No object is on record when a pass begins that makes one, and none is stored
before the call. -/
theorem unidentified_of_creates (h : p.run.Walk t r)
    (ht : t = before ++ .remote call reply :: after)
    (hcreates : call.createsObject = true) :
    p.resource.status.identity = none ∧ ∀ s, .saved s ∈ before →
      s.identity = none := by
  obtain ⟨hdel, looked, read, s, action, c, rfl, sends, credentials, -, haction,
    -⟩ := sends_of_creates h ht hcreates
  obtain ⟨hnone, seen, observed, hseen⟩ := sends.unidentified hdel haction
  constructor
  · cases hid : p.resource.status.identity with
    | none => rfl
    | some id =>
      have hkept : seen.identity = some id :=
        (inherits_of_walk_observeRemote hid observed).1.trans hid
      rw [hseen] at hkept
      cases hkept
  · intro s' hs
    have quiet := sends.quiet_readCredentials credentials
    cases List.mem_singleton.mp (saved_mem_of_quiet quiet hs)
    exact hnone

end Pass

end DatabaseOperator
