import DatabaseOperator.Proofs.Pass.Reading

/-!
# What is asked of a pluggable database

The spec of a pluggable database asks for one action and for nothing else. So
what is to be done about one that exists depends on two things only: whether it
has come to an end, and whether the action is the last one that was completed.

- `ManagedResource.Declares`: one request, and nothing else.
- `ManagedResource.Declares.nextAction?_of_identified`: what is to be done about
  one that exists.
- `PdbRequest.SentIn`, `PdbRequest.TakenIn`: the request was sent, and the
  remote accepted it.
- `Pass.sentBy_call`, `Pass.eq_pdb_of_callOf`: the call of a request is made for
  the request and for nothing else.
- `Pass.sends_of_mem_call`: a request that was sent was chosen, and what is
  stored after it.
- `Pass.ofPdb`, `Pass.pdbBinding`, `Pass.pdbRemoval`, `Pass.pdbFollowing`:
  passes that can be carried out.
-/

namespace DatabaseOperator

namespace ManagedResource

variable {r : ManagedResource} {s : Status} {request : PdbRequest}
    {action : CorrectiveAction}

/-- The resource asks for one action on a pluggable database, and for nothing
else. -/
structure Declares (r : ManagedResource) (request : PdbRequest) : Prop where
  requested : r.pdbRequest = some request
  stateless : r.desiredState = none
  plain : r.desiredAttributes = {}

/-- The view of a pluggable database declares what its spec requests. -/
theorem declares_ofPluggable (db : PluggableDatabase) :
    (ofPluggable db).Declares db.spec.request :=
  ⟨rfl, rfl, rfl⟩

theorem Declares.stateAction? (h : r.Declares request) :
    r.stateAction? s = none := by
  simp [ManagedResource.stateAction?, h.stateless]

theorem Declares.attributesAction? (h : r.Declares request) :
    r.attributesAction? s = none := by
  have hnone : RemoteAttributes.changesFrom {} (s.snapshot.getD {})
      = RemoteAttributes.none := by
    simp [RemoteAttributes.changesFrom, RemoteAttributes.changed_none,
      RemoteAttributes.none]
  simp [ManagedResource.attributesAction?, h.plain, hnone,
    RemoteAttributes.isEmpty]

/-- Of a pluggable database that exists, nothing but the declared action can be
needed. -/
theorem Declares.nextAction?_of_identified (h : r.Declares request)
    (hdel : r.deletionRequested = false) (hid : s.identity.isSome = true) :
    r.nextAction? s
      = if s.lifecycleState.any LifecycleState.isTerminal
        || request.action.givesIdentity
          || s.lastCompletedAction == some request.signature then none
        else some (.pdb request) := by
  obtain ⟨id, hid⟩ := Option.isSome_iff_exists.mp hid
  simp only [nextAction?, hdel, hid, h.stateAction?, h.attributesAction?,
    oneShotAction?, h.requested]
  cases s.lifecycleState.any LifecycleState.isTerminal <;> simp

/-- What exists is not made again. -/
theorem Declares.nextAction?_of_givesIdentity (h : r.Declares request)
    (hdel : r.deletionRequested = false) (hid : s.identity.isSome = true)
    (gives : request.action.givesIdentity = true) : r.nextAction? s = none := by
  rw [h.nextAction?_of_identified hdel hid, gives]
  simp

/-- What was completed is not repeated. -/
theorem Declares.nextAction?_of_completed (h : r.Declares request)
    (hdel : r.deletionRequested = false) (hid : s.identity.isSome = true)
    (completed : s.lastCompletedAction = some request.signature) :
    r.nextAction? s = none := by
  rw [h.nextAction?_of_identified hdel hid, completed]
  simp

/-- An action that works on a pluggable database is needed of one that
exists. -/
theorem isSome_identity_of_nextAction? (hdel : r.deletionRequested = false)
    (h : r.nextAction? s = some (.pdb request))
    (works : request.action.givesIdentity = false) :
    s.identity.isSome = true := by
  cases hid : s.identity with
  | some id => rfl
  | none =>
    rw [nextAction?_of_unidentified hdel hid] at h
    rcases firstAction?_cases h with h | ⟨_, -, h⟩ | ⟨_, -, h, gives⟩
    · cases h
    · cases h
    · cases h
      rw [works] at gives
      cases gives

end ManagedResource

/-! ## Requests among the exchanges -/

namespace PdbRequest

variable {request : PdbRequest} {t : List PassEvent}

/-- The request was sent, with some credentials or none. -/
def SentIn (request : PdbRequest) (t : List PassEvent) : Prop :=
  ∃ name password reply,
    .remote (request.withCredentials name password).call reply ∈ t

/-- The remote answered that it took the request. -/
def TakenIn (request : PdbRequest) (t : List PassEvent) : Prop :=
  ∃ name password answer, .remote (request.withCredentials name password).call
    (.answered answer) ∈ t

theorem TakenIn.sentIn (h : request.TakenIn t) : request.SentIn t := by
  obtain ⟨name, password, answer, hmem⟩ := h
  exact ⟨name, password, .answered answer, hmem⟩

/-- The answer to a request that makes or finds a pluggable database reports
it. -/
theorem isSome_reported (request : PdbRequest)
    (gives : request.action.givesIdentity = true)
    (answer : request.call.Answer) :
    ∃ found, request.call.reported answer = some found := by
  obtain ⟨action⟩ := request
  cases action with
  | create | clone | plug | map => exact ⟨_, rfl⟩
  | unplug | delete | modify => cases gives

end PdbRequest

namespace Pass

variable {p : Pass} {s : Status} {t : List PassEvent}
    {r : Except OperatorError Outcome} {request : PdbRequest}
    {action : CorrectiveAction}

/-- The call of a request is seen as sending it. -/
theorem sentBy_call (p : Pass) (request : PdbRequest)
    (reply : Reply request.call.Answer) :
    p.sentBy (.remote request.call reply) = some (.pdb request) := by
  rw [← request.action?_call]
  obtain ⟨action⟩ := request
  cases action <;> rfl

/-- A call that was made for an action is that of a request only if the action
is the request. -/
theorem eq_pdb_of_callOf {identity : Option String} {c : Credentials}
    {name password : Option String}
    (h : p.callOf identity action c
      = some (request.withCredentials name password).call) :
    ∃ sent, action = .pdb sent
      ∧ sent.withCredentials c.adminName c.adminPassword
        = request.withCredentials name password := by
  have hcall := congrArg (Option.bind · RemoteCall.action?) h
  simp only [Option.bind_some, PdbRequest.action?_call] at hcall
  cases action with
  | pdb sent =>
    refine ⟨sent, rfl, ?_⟩
    simp only [callOf, Option.bind_some, PdbRequest.action?_call] at hcall
    exact CorrectiveAction.pdb.inj (Option.some.inj hcall)
  | provision =>
    simp only [callOf, provisionCall, Option.bind_some] at hcall
    split at hcall <;> cases hcall
  | bind id => cases hcall
  | updateAttributes changes | changeState target | delete hard =>
    cases identity <;> cases hcall

/-- A pass that sends the declared request has chosen it. What is stored then is
the status after its answer, or the mark of the request, if the store has
refused a status. -/
theorem sends_of_mem_call {name password : Option String}
    {reply : Reply (request.withCredentials name password).call.Answer}
    (declares : p.resource.Declares request)
    (hdel : p.resource.deletionRequested = false) (h : p.run.Walk t r)
    (hmem : .remote (request.withCredentials name password).call reply ∈ t) :
    ∃ looked s, p.Sends looked s (.pdb request)
      ∧ ((AllStored t ∧ storedAfter p.resource.status t
            = (p.afterAnswer (p.markDispatched s (.pdb request)) (.pdb request)
              (p.answerOf (request.withCredentials name password).call
                reply)).1)
        ∨ (¬ AllStored t ∧ storedAfter p.resource.status t = p.markDispatched s
          (.pdb request))) := by
  obtain ⟨before, after, ht⟩ := List.append_of_mem hmem
  obtain ⟨looked, read, s, chosen, c, call, reply', hbefore, he, sends,
      credentials, target, ending⟩ :=
    (course_of_walk hdel h).sends_of_sentBy ht
      (sentBy_call p (request.withCredentials name password) reply)
  cases he
  obtain ⟨sent, rfl, -⟩ := eq_pdb_of_callOf target
  obtain ⟨seen, -, needed, -⟩ := sends.inherits
  -- what is done about a pluggable database is what is declared
  obtain rfl : sent = request :=
    Option.some.inj
      ((ManagedResource.nextAction?_eq_pdb hdel needed).symm.trans
        declares.requested)
  refine ⟨looked, s, sends,
    storedAfter_sent_cases _ (sends.quiet_readCredentials credentials)
      ending ?_⟩
  rw [ht, hbefore, List.append_assoc]
  rfl

/-! ## Passes that can be carried out -/

/-- A spec that asks for an action on the pluggable database `pdb1`. -/
def pdbSpec (action : PdbAction) : PluggableDatabase.Spec :=
  { cdbRef := "cdb", pdbName := "pdb1", action,
    xmlFileName := some "/tmp/pdb1.xml" }

/-- A pass over it. -/
def ofPdb (action : PdbAction) (status : Status) (now : Instant) : Pass :=
  { settings := {}
    resource := .ofPluggable
      { metadata := { name := some "pdb1", namespaceName := some "default" }
        spec := pdbSpec action
        status := some status }
    now }

/-- A remote on which the pluggable database `pdb1` is open, and that may lose
answers. -/
def openPdbRemote (lost : List String) : Simulation :=
  { remote :=
      { objects := .ofList [("pdb1",
          { id := "pdb1", state := .available,
            attributes := { displayName := some "pdb1" } })]
        lost } }

/-- The pass that binds an open pluggable database which is to be removed. -/
def pdbBinding (removal : PdbAction) (lost : List String := []) : Turn :=
  .simulated Simulation.answer (ofPdb removal {} ⟨1700000000, 0⟩)
    (openPdbRemote lost)

/-- What the remote holds after it. -/
def boundPdbRemote (removal : PdbAction) (lost : List String := []) :
    Simulation :=
  ((openPdbRemote lost).carryOut (pdbBinding removal lost).pass.run).2

/-- The pass that removes the pluggable database. -/
def pdbRemoval (removal : PdbAction) (lost : List String := []) : Turn :=
  .simulated Simulation.answer
    (ofPdb removal (pdbBinding removal lost).stored ⟨1700000010, 0⟩)
    (boundPdbRemote removal lost)

/-- What the remote holds after it. -/
def removedPdbRemote (removal : PdbAction) (lost : List String := []) :
    Simulation :=
  ((boundPdbRemote removal lost).carryOut (pdbRemoval removal lost).pass.run).2

/-- The pass that follows, for a spec that may ask for another action then. -/
def pdbFollowing (removal next : PdbAction) (lost : List String := []) : Turn :=
  .simulated Simulation.answer
    (ofPdb next (pdbRemoval removal lost).stored ⟨1700000020, 0⟩)
    (removedPdbRemote removal lost)

end Pass

end DatabaseOperator
