import DatabaseOperator.Gateway.Service
import DatabaseOperator.Proofs.Coupling
import DatabaseOperator.Proofs.Identity
import DatabaseOperator.Proofs.Pluggable.Declaration
import DatabaseOperator.Validation

/-!
# How the name of a pluggable database is spelled

A pluggable database is known by its name. A gateway lists those that are called
like the declared one up to the case of ASCII letters, and everything else that
it answers repeats the name it was asked for. An operator that looks for the
outcome of a lost create takes over the name as it is listed, and from then on
the names on record and in the spec are compared letter by letter.

- `Gateway.Service.Replies`: what comes back of a call that a gateway carries
  out.
- `Gateway.Service.capitals_of_list`, `Gateway.Service.id_of_reported`: the
  names in what it answers.
- `PluggableDatabase.validate_of_recorded`: what becomes of a valid spec once an
  identity is on record.
- `unchanged_spec_refused_iff`: when the recorded name makes the unchanged spec
  invalid, and what a list is good for then.
-/

namespace DatabaseOperator

/-! ## Names in the answers of a gateway -/

namespace Gateway.Service

variable {service : Service}
    {u : List (Exchange HttpRequest fun _ => HttpReply)} {found : Snapshot}

/-- What can come back of a call that a gateway carries out: its outcome, or
nothing in time. -/
inductive Replies (service : Service) (call : RemoteCall) : Reply call.Answer →
    Prop where
  | answered {u : List (Exchange HttpRequest fun _ => HttpReply)}
      {answer : call.Answer}
      (walk : (service.perform call).Walk u (.ok answer)) :
      Replies service call (.answered answer)
  | failed {u : List (Exchange HttpRequest fun _ => HttpReply)}
      {e : RemoteError} (walk : (service.perform call).Walk u (.error e)) :
      Replies service call (.failed e)
  | hung : Replies service call .hung

theorem exists_of_map_eq_ok {ε α β : Type} {f : α → β} {x : Except ε α} {b : β}
    (h : .ok b = x.map f) : ∃ a, x = .ok a ∧ f a = b := by
  cases x with
  | ok a => exact ⟨a, rfl, (Except.ok.inj h).symm⟩
  | error e => cases h

/-- A pluggable database that is read goes by the name it was asked for. -/
theorem id_of_get {name : String} (h : (service.get name).Walk u (.ok found)) :
    found.id = name := by
  obtain ⟨_, outcome, _, -, -, hrest⟩ := Program.walk_bind_iff.mp h
  obtain ⟨⟨mode, status⟩, -, rfl⟩ :=
    exists_of_map_eq_ok (Program.walk_pure_iff.mp hrest).2
  rfl

theorem id_of_change {method : HttpMethod} {path name : String} {body : Json}
    (h : (service.change method path body name).Walk u (.ok found)) :
    found.id = name := by
  obtain ⟨_, outcome, _, -, -, hrest⟩ := Program.walk_bind_iff.mp h
  cases outcome with
  | error e => cases (Program.walk_pure_iff.mp hrest).2
  | ok _ =>
    obtain ⟨_, read, _, -, hread, hfound⟩ := Program.walk_bind_iff.mp hrest
    cases read with
    | ok seen =>
      obtain ⟨-, hok⟩ := Program.walk_pure_iff.mp hfound
      cases hok
      exact id_of_get hread
    | error e =>
      obtain ⟨-, hok⟩ := Program.walk_pure_iff.mp hfound
      cases hok
      rfl

theorem id_of_map {request : PdbRequest}
    (h : (service.map request).Walk u (.ok found)) :
    found.id = request.pdbName := by
  obtain ⟨_, outcome, _, -, -, hrest⟩ := Program.walk_bind_iff.mp h
  obtain ⟨⟨mode, status⟩, -, rfl⟩ :=
    exists_of_map_eq_ok (Program.walk_pure_iff.mp hrest).2
  rfl

/-- What a gateway reports of a pluggable database that it made or found goes by
the name in the request. -/
theorem id_of_reported {request : PdbRequest} {answer : request.call.Answer}
    (h : service.Replies request.call (.answered answer))
    (reported : request.call.reported answer = some found) :
    found.id = request.pdbName := by
  obtain ⟨walk⟩ := h
  obtain ⟨action⟩ := request
  cases action with
  | create | plug | modify =>
    cases reported
    exact id_of_change walk
  | clone =>
    cases reported
    unfold PdbRequest.call perform clone at walk
    simp only at walk
    split at walk
    next => exact id_of_change walk
    next => cases (Program.walk_pure_iff.mp walk).2
  | map =>
    cases reported
    exact id_of_map walk
  | unplug | delete => cases reported

/-- The databases that a gateway lists under a name are called so, up to the
case of letters. -/
theorem capitals_of_list {filter : ListFilter} {items : List Snapshot}
    {name : String} (h : service.Replies (.list filter) (.answered items))
    (named : filter.displayName = some name) :
    ∀ item ∈ items, Text.capitals item.id = Text.capitals name := by
  obtain ⟨walk⟩ := h
  obtain ⟨_, outcome, _, -, -, hrest⟩ := Program.walk_bind_iff.mp walk
  obtain ⟨listed, -, rfl⟩ :=
    exists_of_map_eq_ok (Program.walk_pure_iff.mp hrest).2
  intro item hitem
  obtain ⟨⟨id, mode⟩, hlisted, rfl⟩ := List.mem_map.mp hitem
  have hname := (List.mem_filter.mp hlisted).2
  rw [named] at hname
  exact eq_of_beq hname

end Gateway.Service

/-! ## Names that passes record -/

/-- A pass over a pluggable database with a spec, whose calls to the remote a
gateway carries out. -/
structure Turn.OnGateway (turn : Turn) (spec : PluggableDatabase.Spec) :
    Prop where
  declared : ∃ db : PluggableDatabase, db.spec = spec
    ∧ turn.pass.resource = .ofPluggable db
  replies : ∀ (call : RemoteCall) (reply : Reply call.Answer), .remote call
    reply ∈ turn.trace → ∃ service : Gateway.Service, service.Replies call reply

namespace Turn.OnGateway

variable {turn : Turn} {spec : PluggableDatabase.Spec} {id : String}

/-- A gateway makes no databases of the other kind. -/
theorem not_answered_provisionCall {service : Gateway.Service} {p : Pass}
    {c : Pass.Credentials} {answer : (p.provisionCall c).Answer} :
    ¬ service.Replies (p.provisionCall c) (.answered answer) := by
  rintro ⟨walk⟩
  revert answer
  unfold Pass.provisionCall
  split
  all_goals
    intro answer walk
    cases (Program.walk_done_iff.mp walk).2

/-- The object that is answered to a call that makes or maps one goes by the
name in the spec. -/
theorem id_of_answered (h : turn.OnGateway spec) {call : RemoteCall}
    {answer : call.Answer} {found : Snapshot}
    (gives : call.givesIdentity = true)
    (hmem : .remote call (.answered answer) ∈ turn.trace)
    (reported : call.reported answer = some found) :
    found.id = spec.pdbName := by
  obtain ⟨db, rfl, hresource⟩ := h.declared
  obtain ⟨service, replies⟩ := h.replies call _ hmem
  have hsent : ∃ action,
      turn.pass.sentBy (.remote call (.answered answer)) = some action := by
    cases call <;> first | exact ⟨_, rfl⟩ | cases gives
  obtain ⟨action, hsent⟩ := hsent
  obtain ⟨before, after, ht⟩ := List.append_of_mem hmem
  obtain ⟨looked, marked, call', reply', -, he, sent⟩ :=
    Pass.sent_of_walk turn.walk ht hsent
  cases he
  cases sent with
  | deleted => cases gives
  | @dispatched t₁ t₂ s action c _ stays sends credentials target =>
    obtain ⟨seen, -, needed, -⟩ := sends.inherits
    cases action with
    | pdb request =>
      cases target
      have hrequest := ManagedResource.nextAction?_eq_pdb stays needed
      rw [hresource] at hrequest
      obtain rfl : db.spec.request = request := Option.some.inj hrequest
      exact Gateway.Service.id_of_reported replies reported
    | provision =>
      cases target
      exact absurd replies not_answered_provisionCall
    | bind id =>
      cases target
      cases gives
    | updateAttributes | changeState | delete =>
      obtain ⟨_, -, rfl⟩ := Option.map_eq_some_iff.mp target
      cases gives

/-- An identity that a pass learns is the name in the spec, unless it is adopted
from a list; then it is that name up to the case of letters. -/
theorem name_of_learns (h : turn.OnGateway spec)
    (learns : turn.pass.Learns id turn.trace) :
    Text.capitals id = Text.capitals spec.pdbName
      ∧ (id = spec.pdbName ∨ turn.pass.Adopts id turn.trace) := by
  obtain ⟨db, rfl, hresource⟩ := h.declared
  cases learns with
  | answered gives mem reported same =>
    obtain rfl : id = db.spec.pdbName :=
      same ▸ h.id_of_answered gives mem reported
    exact ⟨rfl, .inl rfl⟩
  | bound declared mem =>
    rw [hresource] at declared
    obtain rfl : db.spec.pdbName = id := by
      unfold ManagedResource.ofPluggable at declared
      simp only at declared
      split at declared
      next => cases declared
      next => exact Option.some.inj declared
    exact ⟨rfl, .inl rfl⟩
  | adopted adopts =>
    refine ⟨?_, .inr adopts⟩
    obtain ⟨-, -, -, reply, found, rest, ht, sole, rfl⟩ := adopts
    obtain ⟨service, replies⟩ :=
      h.replies (.list _) reply (by rw [ht]; exact List.mem_cons_self)
    have hlisted := Pass.mem_of_soleLive sole
    cases reply with
    | answered items =>
      exact Gateway.Service.capitals_of_list replies
        (by rw [hresource]; rfl) found hlisted
    | failed | hung => cases hlisted

end Turn.OnGateway

/-! ## Valid specs -/

namespace PluggableDatabase

/-- What is asked of a spec whatever is on record. -/
def Spec.check (spec : Spec) : Except OperatorError Unit := do
  refuseIf (Text.isEmptyOrBlank spec.pdbName)
    (.validation "pdbName must not be empty")
  refuseIf (Text.isEmptyOrBlank spec.cdbRef)
    (.validation "cdbRef must not be empty")
  match spec.missing? with
  | some fields =>
    .error (.validation (spec.action.text ++ " requires " ++ fields))
  | none => .ok ()

theorem validate_eq (db : PluggableDatabase) :
    db.validate
      = db.spec.check >>= fun _ =>
        validateIdentity "pdbName" (db.status.bind Status.identity)
          (some db.spec.pdbName) := by
  unfold validate Spec.check
  cases refuseIf (Text.isEmptyOrBlank db.spec.pdbName) _ with
  | error e => rfl
  | ok _ =>
    cases refuseIf (Text.isEmptyOrBlank db.spec.cdbRef) _ with
    | error e => rfl
    | ok _ => cases db.spec.missing? <;> rfl

/-- A spec that is valid while no identity is on record stays so exactly as long
as the one that is recorded is its own name, letter by letter. -/
theorem validate_of_recorded {db db' : PluggableDatabase} {id : String}
    (unrecorded : db.status.bind Status.identity = none)
    (accepted : db.validate = .ok ()) (same : db'.spec = db.spec)
    (recorded : db'.status.bind Status.identity = some id) :
    db'.validate = if id = db.spec.pdbName then .ok ()
      else
        .error
          (.permanent ("pdbName cannot change from " ++ id ++ " to "
            ++ db.spec.pdbName)) := by
  have hcheck : db.spec.check = .ok () := by
    rw [validate_eq, unrecorded] at accepted
    cases hcheck : db.spec.check with
    | ok _ => rfl
    | error e =>
      rw [hcheck] at accepted
      cases accepted
  rw [validate_eq, same, hcheck, recorded]
  show refuseIf (id != db.spec.pdbName) _ = _
  by_cases hname : id = db.spec.pdbName
  · rw [if_pos hname]
    simp [refuseIf, hname]
  · rw [if_neg hname]
    simp [refuseIf, hname]

end PluggableDatabase

/-! ## Looks into the list -/

/-- An object that is not found directly is gone by as it is listed, letter by
letter, or else as missing. -/
theorem Pass.eq_of_walk_refresh_of_notFound (p : Pass) {known : Status}
    {id : String} {e : RemoteError} {items : List Snapshot} {step : Step}
    (absent : e.isNotFound = true)
    (h : (p.refresh known id).Walk [.remote (.get id) (.failed e),
      .remote (.list p.resource.listFilter) (.answered items)] step) :
    step = match listedAs id items with
      | some item => p.afterMismatch known none item
      | none => p.afterMissing known := by
  obtain ⟨direct, ⟨-, ht, -⟩ | ⟨-, reply, ht, rfl⟩⟩ := walk_refresh_iff.mp h
  · simp at ht
  · obtain ⟨hget, hlist⟩ := List.cons.inj ht
    cases hget
    cases List.singleton_inj.mp hlist
    show p.mergeReads known (.error e) (listedAs id items) = _
    unfold mergeReads
    cases listedAs id items with
    | none => exact if_pos absent
    | some item => exact if_pos absent

/-! ## Whole histories -/

/-- **What a name recorded from a gateway does to the unchanged spec.** A
history of passes over a pluggable database, whose spec was valid when nothing
was on record and does not change, comes to an identity. Then

1. the identity is the name in the spec, up to the case of letters;
2. the spec is refused from then on exactly if the two are spelled differently,
   and that only happens if the first identity was adopted from a list while the
   mark of a create was stored;
3. all that the gateway lists under the name in the spec is called like the
   identity up to the case of letters, but the list shows nothing to a pass that
   does not find the object directly, which then goes on as without it, exactly
   if nothing is listed with the very same letters. -/
theorem unchanged_spec_refused_iff {db : PluggableDatabase} {s₀ s : Status}
    {turns : List Turn} {id : String}
    (unrecorded : db.status.bind Status.identity = none)
    (accepted : db.validate = .ok ()) (hrun : Reaches s₀ turns s)
    (hnone : s₀.identity = none)
    (gateway : ∀ turn ∈ turns, turn.OnGateway db.spec)
    (hid : s.identity = some id) :
    Text.capitals id = Text.capitals db.spec.pdbName
      ∧ (∀ db' : PluggableDatabase, db'.spec = db.spec → db'.status = some s →
        db'.validate
            = (if id = db.spec.pdbName then .ok ()
              else
                .error
                  (.permanent ("pdbName cannot change from " ++ id ++ " to "
                    ++ db.spec.pdbName)))
          ∧ (db'.validate ≠ .ok ()
            ↔ id ≠ db.spec.pdbName
              ∧ ∃ before turn after, turns = before ++ turn :: after
                ∧ (∀ earlier ∈ before, earlier.stored.identity = none)
                ∧ turn.pass.Adopts id turn.trace))
      ∧ ∀ (service : Gateway.Service) (p : Pass) (items : List Snapshot),
        p.resource.listFilter.displayName = some db.spec.pdbName →
          service.Replies (.list p.resource.listFilter) (.answered items) →
            (∀ item ∈ items, Text.capitals item.id = Text.capitals id)
              ∧ (listedAs id items = none ↔ ∀ item ∈ items, item.id ≠ id)
              ∧ ∀ (known : Status) (e : RemoteError) (step : Pass.Step),
                e.isNotFound = true →
                  (p.refresh known id).Walk
                    [.remote (.get id) (.failed e),
                      .remote (.list p.resource.listFilter) (.answered items)]
                    step →
                  step = match listedAs id items with
                    | some item => p.afterMismatch known none item
                    | none => p.afterMissing known := by
  obtain ⟨before, turn, after, hturns, hearlier, -, learns⟩ :=
    learns_of_history hrun hnone hid
  obtain ⟨hcapitals, horigin⟩ :=
    (gateway turn (hturns ▸ by simp)).name_of_learns learns
  refine ⟨hcapitals, fun db' same recorded => ?_,
    fun service p items named replies => ⟨?_, ?_, ?_⟩⟩
  · have hvalidate :=
      PluggableDatabase.validate_of_recorded unrecorded accepted same
        (show db'.status.bind Status.identity
          = some id by rw [recorded]; exact hid)
    refine ⟨hvalidate, ?_⟩
    rw [hvalidate]
    constructor
    · intro refused
      have hname : id ≠ db.spec.pdbName := by
        intro hname
        exact refused (if_pos hname)
      exact ⟨hname, before, turn, after, hturns, hearlier,
        horigin.resolve_left hname⟩
    · rintro ⟨hname, -⟩
      rw [if_neg hname]
      simp
  · intro item hitem
    rw [Gateway.Service.capitals_of_list replies named item hitem, hcapitals]
  · unfold listedAs
    rw [List.find?_eq_none]
    simp
  · intro known e step habsent walk
    exact p.eq_of_walk_refresh_of_notFound habsent walk

/-! ## Gateways that can be tried -/

namespace Gateway.Service

/-- What a gateway answers whose server replies in a certain way. -/
def answering (service : Service) (server : HttpRequest → HttpReply)
    (call : RemoteCall) : Reply call.Answer :=
  match ((service.perform call).interpret
    (fun (_ : Unit) request => (server request, ())) ()).1 with
  | .ok answer => .answered answer
  | .error e => .failed e

theorem replies_answering (service : Service) (server : HttpRequest → HttpReply)
    (call : RemoteCall) :
    service.Replies call (service.answering server call) := by
  have walk :=
    Program.walk_transcript (fun (_ : Unit) request => (server request, ()))
      (service.perform call) ()
  unfold answering
  cases houtcome :
    ((service.perform call).interpret
      (fun (_ : Unit) request => (server request, ())) ()).1 with
  | ok answer => exact .answered (houtcome ▸ walk)
  | error e => exact .failed (houtcome ▸ walk)

end Gateway.Service

/-- Every exchange with a machine holds what the machine answers in some
state. -/
theorem Program.exists_state_of_mem_transcript {σ α : Type}
    {answer : σ → (c : PassCall) → c.Answer × σ} {program : PassProgram α}
    {s : σ} {e : PassEvent} (h : e ∈ program.transcript answer s) :
    ∃ s', e.answer = (answer s' e.question).1 := by
  induction program generalizing s with
  | done => cases h
  | ask question next ih =>
    rcases List.mem_cons.mp h with rfl | h
    · exact ⟨s, rfl⟩
    · exact ih _ h

/-- The gateway of a container database. -/
def containerGateway : Gateway.Service :=
  { base := "http://cdb.local:8888", user := "sql_admin", password := "welcome",
    dropAction := .including }

/-- A pass over `pdb1` that is to be plugged in, on a gateway whose server
replies in a certain way. -/
def pluggingTurn (status : Status) (now : Instant)
    (server : HttpRequest → HttpReply) : Turn :=
  .simulated (answerBeside fun (_ : Unit) c =>
    (containerGateway.answering server c, ()))
    (Pass.ofPdb .plug status now) ((), {})

theorem pluggingTurn_onGateway (status : Status) (now : Instant)
    (server : HttpRequest → HttpReply) :
    (pluggingTurn status now server).OnGateway (Pass.pdbSpec .plug) where
  declared := ⟨_, rfl, rfl⟩
  replies call reply hmem := by
    obtain ⟨s, hreply⟩ := Program.exists_state_of_mem_transcript hmem
    obtain rfl : reply = containerGateway.answering server call := hreply
    exact ⟨containerGateway, containerGateway.replies_answering server call⟩

/-- The declaration of `pdb1`. -/
def pluggedPdb : PluggableDatabase :=
  { metadata := { name := some "pdb1", namespaceName := some "default" },
    spec := Pass.pdbSpec .plug }

/-- The declaration with a status. -/
def pluggedPdbWith (status : Status) : PluggableDatabase :=
  { pluggedPdb with status := some status }

theorem pluggedPdb_valid :
    pluggedPdb.status.bind Status.identity = none
      ∧ pluggedPdb.validate = .ok () := by
  decide +kernel

/-- A server on which `pdb1` is open, and which lists it in capital letters. -/
def capitalServer (request : HttpRequest) : HttpReply :=
  let body :=
    if "/status".toList.isSuffixOf request.url.text.toList
      then "\x7b\"open_mode\":\"READ WRITE\"\x7d"
    else
      "\x7b\"items\":[\x7b\"pdb_name\":\"PDB1\",\"open_mode\":\"READ WRITE\"\x7d]\x7d"
  .response 200 (some body.toUTF8)

/-- What the server lists. -/
def capitalSnapshot : Snapshot :=
  { id := "PDB1", state := .available, attributes := {} }

theorem replies_capitalServer {filter : ListFilter}
    (named : filter = { displayName := some "pdb1" }) :
    containerGateway.Replies (.list filter) (.answered [capitalSnapshot]) := by
  have hitems : (containerGateway.answering capitalServer (.list filter) : Reply
    (List Snapshot)).items
      = [capitalSnapshot] := by
    rw [named]
    decide +kernel
  have replies :=
    containerGateway.replies_answering capitalServer (.list filter)
  generalize containerGateway.answering capitalServer (.list filter)
    = reply at hitems replies
  cases reply with
  | answered items =>
    exact (show items = [capitalSnapshot] from hitems) ▸ replies
  | failed | hung => cases hitems

/-- The pass that plugs `pdb1` in. -/
def pluggedTurn : Turn :=
  pluggingTurn {} ⟨1700000000, 0⟩ capitalServer

/-- `pdb1` is recorded as it is spelled in the spec, which stays valid. But the
gateway lists it as `PDB1`, so that a pass that does not find it directly goes
on as without it. -/
theorem pluggedTurn_missed_in_list :
    pluggedTurn.stored.identity = some "pdb1"
      ∧ (pluggedPdbWith pluggedTurn.stored).validate = .ok ()
      ∧ containerGateway.Replies (.list { displayName := some "pdb1" })
        (.answered [capitalSnapshot])
      ∧ Text.capitals "PDB1" = Text.capitals "pdb1"
      ∧ listedAs "pdb1" [capitalSnapshot] = none
      ∧ ∀ step,
        ((Pass.ofPdb .plug pluggedTurn.stored ⟨1700000010, 0⟩).refresh
            pluggedTurn.stored "pdb1").Walk
          [.remote (.get "pdb1") (.failed (.notFound "pdb1")),
            .remote (.list { displayName := some "pdb1" })
              (.answered [capitalSnapshot])] step →
          step
            = (Pass.ofPdb .plug pluggedTurn.stored ⟨1700000010, 0⟩).afterMissing
              pluggedTurn.stored := by
  have hrun : Reaches {} [pluggedTurn] pluggedTurn.stored := .cons rfl .start
  have gateway : ∀ turn ∈ [pluggedTurn], turn.OnGateway pluggedPdb.spec := by
    intro turn hturn
    rw [List.mem_singleton.mp hturn]
    exact pluggingTurn_onGateway _ _ _
  have hid : pluggedTurn.stored.identity = some "pdb1" := by decide +kernel
  have replies : containerGateway.Replies (.list { displayName := some "pdb1" })
      (.answered [capitalSnapshot]) :=
    replies_capitalServer rfl
  obtain ⟨-, hspec, hlist⟩ :=
    unchanged_spec_refused_iff pluggedPdb_valid.1 pluggedPdb_valid.2 hrun rfl
      gateway hid
  obtain ⟨hcapitals, hmissed, hrefresh⟩ :=
    hlist containerGateway (Pass.ofPdb .plug pluggedTurn.stored ⟨1700000010, 0⟩)
      [capitalSnapshot] rfl replies
  have hnone :
      listedAs "pdb1" [capitalSnapshot] = none := hmissed.mpr (by decide)
  have hvalid := (hspec (pluggedPdbWith pluggedTurn.stored) rfl rfl).1
  refine ⟨hid, hvalid, replies, hcapitals capitalSnapshot (by simp), hnone,
    fun step walk => ?_⟩
  have hstep := hrefresh pluggedTurn.stored (.notFound "pdb1") step rfl walk
  rw [hnone] at hstep
  exact hstep

/-- The pass whose call to plug `pdb1` in gets no reply, though it may have had
its effect. -/
def silencedTurn : Turn :=
  pluggingTurn {} ⟨1700000000, 0⟩ fun _ => .silence

/-- The pass after it, which finds `pdb1` in the list. -/
def adoptingTurn : Turn :=
  pluggingTurn silencedTurn.stored ⟨1700000010, 0⟩ capitalServer

/-- The name that is found in the list is recorded as it is spelled there, and
makes the spec invalid that was valid before and has not changed. -/
theorem adoptingTurn_refuses_spec :
    pluggedPdb.validate = .ok ()
      ∧ Reaches {} [silencedTurn, adoptingTurn] adoptingTurn.stored
      ∧ (∀ turn ∈ [silencedTurn, adoptingTurn], turn.OnGateway pluggedPdb.spec)
      ∧ adoptingTurn.stored.identity = some "PDB1"
      ∧ (pluggedPdbWith adoptingTurn.stored).validate
        = .error (.permanent "pdbName cannot change from PDB1 to pdb1") := by
  have hid : adoptingTurn.stored.identity = some "PDB1" := by decide +kernel
  refine ⟨pluggedPdb_valid.2, .cons rfl (.cons rfl .start), ?_, hid, ?_⟩
  · intro turn hturn
    rcases List.mem_cons.mp hturn with rfl | hturn
    · exact pluggingTurn_onGateway _ _ _
    · rw [List.mem_singleton.mp hturn]
      exact pluggingTurn_onGateway _ _ _
  · have recorded : (pluggedPdbWith adoptingTurn.stored).status.bind
      Status.identity = some "PDB1" := hid
    have same :
        (pluggedPdbWith adoptingTurn.stored).spec = pluggedPdb.spec := rfl
    exact PluggableDatabase.validate_of_recorded pluggedPdb_valid.1
      pluggedPdb_valid.2 same recorded

end DatabaseOperator
