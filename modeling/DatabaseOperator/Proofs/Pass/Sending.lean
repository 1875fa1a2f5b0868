import DatabaseOperator.Proofs.Pass.Stages

/-!
# How an action is sent

An action is one call, which its kind, its parameters and the identity on record
settle. The other way round, every call that changes something tells which
action it stands for.

- `Pass.callOf`, `Pass.walk_carryOut_iff`: the call of an action is the only one
  its sending makes.
- `RemoteCall.action?`: the action a call stands for, and `Pass.action?_callOf`:
  it is the one that was sent.
- `Pass.walk_readCredentials`: credentials are read from Secrets and from
  nowhere else.
-/

namespace DatabaseOperator

namespace RemoteCall

/-- The action that a call stands for, up to credentials. A direct read stands
for the binding of an object; that it may be a mere look at the object is for
the pass to tell. -/
def action? : RemoteCall → Option CorrectiveAction
  | get id => some (.bind id)
  | create _ | cloneDatabase _ _ => some .provision
  | update _ changes => some (.updateAttributes changes)
  | changeState _ target => some (.changeState target)
  | delete _ => some (.delete true)
  | createPdb r => some (.pdb { r with action := .create })
  | clonePdb r => some (.pdb { r with action := .clone })
  | plugPdb r => some (.pdb { r with action := .plug })
  | unplugPdb r => some (.pdb { r with action := .unplug })
  | modifyPdb r => some (.pdb { r with action := .modify })
  | deletePdb r => some (.pdb { r with action := .delete })
  | mapPdb r => some (.pdb { r with action := .map })
  | list _ | downloadWallet _ _ => none

/-- The object that an answer reports. A binding keeps the identity it went
by. -/
def reported : (c : RemoteCall) → c.Answer → Option Snapshot
  | get id, found => some { found with id }
  | create _, found | cloneDatabase _ _, found | update _ _, found
  | changeState _ _, found => some found
  | createPdb _, found | clonePdb _, found | plugPdb _, found | modifyPdb _,
  found | mapPdb _, found => some found
  | delete _, _ | unplugPdb _, _ | deletePdb _, _ | list _, _
  | downloadWallet _ _, _ => none

end RemoteCall

/-- The call of a request for a pluggable database. -/
def PdbRequest.call (request : PdbRequest) : RemoteCall :=
  match request.action with
  | .create => .createPdb request
  | .clone => .clonePdb request
  | .plug => .plugPdb request
  | .map => .mapPdb request
  | .modify => .modifyPdb request
  | .unplug => .unplugPdb request
  | .delete => .deletePdb request

/-- The call of a request stands for the request. -/
theorem PdbRequest.action?_call (request : PdbRequest) :
    request.call.action? = some (.pdb request) := by
  obtain ⟨action⟩ := request
  cases action <;> rfl

namespace Pass

variable {p : Pass} {t : List PassEvent}

/-- The call that makes the database of a resource. -/
def provisionCall (p : Pass) (credentials : Credentials) : RemoteCall :=
  match p.resource.cloneSource with
  | some source => .cloneDatabase source (p.provisionRequest credentials)
  | none => .create (p.provisionRequest credentials)

/-- The call of an action. One that works on the object on record has none
without it. -/
def callOf (p : Pass) (identity : Option String) (action : CorrectiveAction)
    (credentials : Credentials) : Option RemoteCall :=
  match action with
  | .provision => some (p.provisionCall credentials)
  | .bind id => some (.get id)
  | .updateAttributes changes => identity.map fun id => .update id changes
  | .changeState target => identity.map fun id => .changeState id target
  | .delete _ => identity.map RemoteCall.delete
  | .pdb request =>
    some (request.withCredentials credentials.adminName
      credentials.adminPassword).call

/-- What the answer to the call of an action amounts to. -/
def answerOf (p : Pass) (call : RemoteCall) (reply : Reply call.Answer) :
    Except RemoteError (Option Snapshot) :=
  (p.outcomeOf reply).map call.reported

/-- An action succeeds if its call is answered. -/
theorem answerOf_eq_ok_iff {call : RemoteCall} {reply : Reply call.Answer}
    {found : Option Snapshot} :
    p.answerOf call reply = .ok found
      ↔ ∃ answer, reply = .answered answer ∧ call.reported answer = found := by
  unfold answerOf
  cases reply with
  | answered answer => simp [Except.map]
  | failed e => simp [Except.map]
  | hung => simp [outcomeOf, Reply.settle, Except.map]

/-- The sending of an action is its call, and what comes back is the answer to
it. -/
theorem walk_carryOut_iff {identity : Option String} {action : CorrectiveAction}
    {credentials : Credentials} {call : RemoteCall}
    (h : p.callOf identity action credentials = some call)
    {r : Except RemoteError (Option Snapshot)} :
    (p.carryOut identity action credentials).Walk t r
      ↔ ∃ reply, t = [.remote call reply] ∧ r = p.answerOf call reply := by
  cases action with
  | provision =>
    cases hc : p.resource.cloneSource with
    | none =>
      simp only [callOf, provisionCall, hc, Option.some.injEq] at h
      subst h
      simp only [carryOut, hc]
      exact walk_call_done_iff (fun r => r.map _) fun r => rfl
    | some source =>
      simp only [callOf, provisionCall, hc, Option.some.injEq] at h
      subst h
      simp only [carryOut, hc]
      exact walk_call_done_iff (fun r => r.map _) fun r => rfl
  | bind id =>
    cases h
    refine walk_call_done_iff (fun r => r.map _) fun r => ?_
    cases r <;> rfl
  | updateAttributes changes =>
    obtain ⟨id, rfl, rfl⟩ := Option.map_eq_some_iff.mp h
    exact walk_call_done_iff (fun r => r.map _) fun r => rfl
  | changeState target =>
    obtain ⟨id, rfl, rfl⟩ := Option.map_eq_some_iff.mp h
    exact walk_call_done_iff (fun r => r.map _) fun r => rfl
  | delete hard =>
    obtain ⟨id, rfl, rfl⟩ := Option.map_eq_some_iff.mp h
    exact walk_call_done_iff (fun r => r.map _) fun r => rfl
  | pdb request =>
    cases h
    simp only [carryOut]
    -- the credentials do not bear on which call it is
    generalize request.withCredentials credentials.adminName
      credentials.adminPassword = request
    obtain ⟨action⟩ := request
    cases action <;> exact walk_call_done_iff (fun r => r.map _) fun r => rfl

/-- The call of an action stands for an action of the same kind and the same
signature. -/
theorem action?_callOf {identity : Option String} {action : CorrectiveAction}
    {credentials : Credentials} {call : RemoteCall}
    (h : p.callOf identity action credentials = some call)
    (hdel : action ≠ .delete false) :
    ∃ sent, call.action? = some sent ∧ sent.kind = action.kind
      ∧ sent.signature = action.signature := by
  cases action with
  | provision =>
    cases h
    refine ⟨.provision, ?_, rfl, rfl⟩
    unfold provisionCall
    split <;> rfl
  | bind id =>
    cases h
    exact ⟨.bind id, rfl, rfl, rfl⟩
  | updateAttributes changes =>
    obtain ⟨id, -, rfl⟩ := Option.map_eq_some_iff.mp h
    exact ⟨.updateAttributes changes, rfl, rfl, rfl⟩
  | changeState target =>
    obtain ⟨id, -, rfl⟩ := Option.map_eq_some_iff.mp h
    exact ⟨.changeState target, rfl, rfl, rfl⟩
  | delete hard =>
    obtain ⟨id, -, rfl⟩ := Option.map_eq_some_iff.mp h
    cases hard with
    | true => exact ⟨.delete true, rfl, rfl, rfl⟩
    | false => exact absurd rfl hdel
  | pdb request =>
    cases h
    refine ⟨.pdb
      (request.withCredentials credentials.adminName credentials.adminPassword),
      ?_, rfl, rfl⟩
    obtain ⟨action⟩ := request
    cases action <;> rfl

/-- No action but a binding is sent as a direct read. -/
theorem eq_bind_of_callOf_eq_get {identity : Option String}
    {action : CorrectiveAction} {credentials : Credentials} {id : String}
    (h : p.callOf identity action credentials = some (.get id)) :
    action = .bind id := by
  cases action with
  | provision =>
    simp only [callOf, provisionCall, Option.some.injEq] at h
    split at h <;> cases h
  | bind id =>
    cases h
    rfl
  | updateAttributes changes =>
    obtain ⟨_, -, h⟩ := Option.map_eq_some_iff.mp h
    cases h
  | changeState target =>
    obtain ⟨_, -, h⟩ := Option.map_eq_some_iff.mp h
    cases h
  | delete hard =>
    obtain ⟨_, -, h⟩ := Option.map_eq_some_iff.mp h
    cases h
  | pdb request =>
    obtain ⟨action⟩ := request
    cases action <;> cases h

/-- Only an action on the object on record can lack its call. -/
theorem isSome_callOf {identity : Option String} {action : CorrectiveAction}
    {credentials : Credentials}
    (h : identity.isSome = true ∨ action = .provision
      ∨ (∃ id, action = .bind id) ∨ ∃ r, action = .pdb r) :
    ∃ call, p.callOf identity action credentials = some call := by
  rcases h with h | rfl | ⟨id, rfl⟩ | ⟨r, rfl⟩
  · obtain ⟨id, rfl⟩ := Option.isSome_iff_exists.mp h
    cases action <;> exact ⟨_, rfl⟩
  · exact ⟨_, rfl⟩
  · exact ⟨_, rfl⟩
  · exact ⟨_, rfl⟩

/-! ## Credentials -/

/-- A call that reads a Secret. -/
def IsSecretRead (e : PassEvent) : Prop :=
  ∃ name key answer, e = .store (.readSecret name key) answer

theorem walk_readReference {reference : Option SecretKeyRef}
    {r : Except OperatorError (Option String)}
    (h : (readReference reference).Walk t r) : ∀ e ∈ t, IsSecretRead e := by
  unfold readReference at h
  split at h
  next =>
    obtain ⟨rfl, rfl⟩ := Program.walk_done_iff.mp h
    simp
  next reference =>
    obtain ⟨answer, rest, rfl, hrest⟩ := Program.walk_ask_iff.mp h
    have hnil : rest = [] := by
      cases answer <;> exact (Program.walk_done_iff.mp hrest).1
    subst hnil
    intro e he
    obtain rfl := List.mem_singleton.mp he
    exact ⟨_, _, _, rfl⟩

/-- Credentials are read from Secrets only. -/
theorem walk_readCredentials {action : CorrectiveAction}
    {r : Except OperatorError Credentials}
    (h : (p.readCredentials action).Walk t r) : ∀ e ∈ t, IsSecretRead e := by
  unfold readCredentials at h
  split at h
  next =>
    obtain ⟨t₁, name, t₂, rfl, h₁, h₂⟩ := Program.walk_bind_iff.mp h
    have hname := walk_readReference h₁
    cases name with
    | error e =>
      obtain ⟨rfl, rfl⟩ := Program.walk_pure_iff.mp h₂
      simpa using hname
    | ok name =>
      obtain ⟨t₂, password, t₃, rfl, h₂, h₃⟩ := Program.walk_bind_iff.mp h₂
      have hpassword := walk_readReference h₂
      have hnil : t₃ = [] := by
        cases password <;> exact (Program.walk_pure_iff.mp h₃).1
      subst hnil
      intro e he
      rcases List.mem_append.mp he with he | he
      · exact hname e he
      · exact hpassword e (by simpa using he)
  next =>
    obtain ⟨rfl, rfl⟩ := Program.walk_pure_iff.mp h
    simp

theorem remote_not_mem_of_walk_readCredentials {action : CorrectiveAction}
    {r : Except OperatorError Credentials} {call : RemoteCall}
    {reply : Reply call.Answer} (h : (p.readCredentials action).Walk t r) :
    .remote call reply ∉ t := by
  intro hmem
  obtain ⟨_, _, _, hread⟩ := walk_readCredentials h _ hmem
  cases hread

end Pass

end DatabaseOperator
