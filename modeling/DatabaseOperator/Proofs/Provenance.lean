import DatabaseOperator.Proofs.History
import DatabaseOperator.Proofs.Pass.Resting
import DatabaseOperator.Proofs.Signature

/-!
# Where an identity comes from

A database resource that declares no object to be bound makes its own. The
identity it then works under was answered to one of its calls, or else, where
the answer to a call was lost, belongs to the object that was found under its
name. Here is what this amounts to over a whole run, and why nothing else is
ever changed.

- `ManagedResource.MakesItsOwn`: the resource declares no object.
- `Made`, `SendsCreate`, `Pass.Adopts`: what exchanges say of an identity.
- `Pass.Grounded`: a status knows and marks only what exchanges account for;
  every status of a pass is one.
- `Own`: a run accounts for an identity.
- `accounted_of_reaches`, `own_of_target`: it does for all that are recorded,
  and for all that it changes.
-/

namespace DatabaseOperator

/-- The resource neither names an object to be bound nor asks for a pluggable
database. -/
structure ManagedResource.MakesItsOwn (r : ManagedResource) : Prop where
  adoptIdentity : r.adoptIdentity = none
  pdbRequest : r.pdbRequest = none

namespace RemoteCall

/-- The call makes a database. -/
def makesDatabase : RemoteCall → Bool
  | create _ | cloneDatabase _ _ => true
  | _ => false

/-- The object that a call changes. -/
def target? : RemoteCall → Option String
  | update id _ | changeState id _ | delete id => some id
  | _ => none

theorem target?_of_isRead {call : RemoteCall} (h : call.isRead = true) :
    call.target? = none := by
  cases call with
  | get | list | downloadWallet => rfl
  | _ => cases h

end RemoteCall

variable {id : String} {t : List PassEvent}

/-- An identity was answered to a call that makes a database. -/
inductive Made (id : String) (t : List PassEvent) : Prop where
  | created {request : ProvisionRequest} {found : Snapshot}
      (answer : .remote (.create request) (.answered found) ∈ t)
      (same : found.id = id)
  | cloned {source : String} {request : ProvisionRequest} {found : Snapshot}
      (answer : .remote (.cloneDatabase source request) (.answered found) ∈ t)
      (same : found.id = id)

/-- A call that makes a database was sent. -/
def SendsCreate (t : List PassEvent) : Prop :=
  ∃ (call : RemoteCall) (reply : Reply call.Answer), call.makesDatabase = true
    ∧ .remote call reply ∈ t

/-- A status marks a call that makes an object, and of which nothing is
known. -/
def Status.MarksCreate (s : Status) : Prop :=
  ∃ pending, s.inFlight = some pending
    ∧ isCreateSignature pending.signature = true

theorem Status.MarksCreate.of_inherits {s s' : Status} (h : s'.MarksCreate)
    (hkept : s'.Inherits s) : s.MarksCreate := by
  obtain ⟨pending, hmark, hcreate⟩ := h
  rcases hkept.2 with hsame | hnone
  · exact ⟨pending, hsame.symm.trans hmark, hcreate⟩
  · rw [hnone] at hmark
    cases hmark

namespace Pass

variable {p : Pass} {s s' : Status} {t₁ t₂ : List PassEvent}
    {r : Except OperatorError Outcome}

/-- A pass begins with the mark of a create and without an identity, and takes
the only live object that is listed under the name of the resource for the one
that was made. -/
def Adopts (p : Pass) (id : String) (t : List PassEvent) : Prop :=
  p.resource.status.identity = none ∧ p.resource.status.MarksCreate
    ∧ p.resource.listFilter.displayName.isSome = true
    ∧ ∃ (reply : Reply (List Snapshot)) (found : Snapshot)
      (rest : List PassEvent),
      t = .remote (.list p.resource.listFilter) reply :: rest
        ∧ soleLive reply.items = some found ∧ found.id = id

/-- A pass accounts for an identity. -/
inductive Origin (p : Pass) (id : String) (t : List PassEvent) : Prop where
  | recorded (recorded : p.resource.status.identity = some id)
  | made (made : Made id t)
  | adopted (adopts : p.Adopts id t)

/-- The exchanges of a pass account for all that a status knows and marks. -/
structure Grounded (p : Pass) (t : List PassEvent) (s : Status) : Prop where
  identity : ∀ id, s.identity = some id → p.Origin id t
  mark : s.MarksCreate → p.resource.status.MarksCreate ∨ SendsCreate t

theorem Grounded.of_inherits (h : p.Grounded t s) (hkept : s'.Inherits s) :
    p.Grounded t s' :=
  ⟨fun id hid => h.identity id (hkept.1.symm.trans hid), fun hmark =>
    h.mark (hmark.of_inherits hkept)⟩

/-- The stored status accounts for itself. -/
theorem grounded_stored (p : Pass) (t : List PassEvent) :
    p.Grounded t p.resource.status :=
  ⟨fun _ hid => .recorded hid, .inl⟩

/-! ## Looking -/

/-- What the search for a lost create finds is adopted. -/
theorem Recovery.grounded {step : Step}
    (hnone : p.resource.status.identity = none)
    (hbegin : s.Inherits p.resource.status) (h : p.Recovery s t₁ step) :
    p.Grounded (t₁ ++ t₂) step.status := by
  have hstored := (grounded_stored p (t₁ ++ t₂)).of_inherits hbegin
  rcases h.inherits_or_adopts with hkept
    | ⟨pending, reply, found, hmark, hcreate, named, rfl, sole, rfl⟩
  · exact hstored.of_inherits hkept
  · have hmarks : p.resource.status.MarksCreate :=
      Status.MarksCreate.of_inherits ⟨pending, hmark, hcreate⟩ hbegin
    refine ⟨fun id hid => .adopted ⟨hnone, hmarks, named, reply, found, t₂, rfl,
      sole, ?_⟩, fun _ => .inl hmarks⟩
    have hadopted := identity_observe_of_none (hbegin.1.trans hnone) found
    exact Option.some.inj (hadopted.symm.trans hid)

theorem grounded_of_walk_observeRemote {step : Step}
    (h : (p.observeRemote p.initialStatus).Walk t₁ step) :
    p.Grounded (t₁ ++ t₂) step.status := by
  cases hid : p.resource.status.identity with
  | some id =>
    exact (grounded_stored p _).of_inherits
      (inherits_of_walk_observeRemote hid h)
  | none =>
    have hbegin : p.initialStatus.Inherits p.resource.status := ⟨rfl, .inl rfl⟩
    have hunknown : p.initialStatus.identity = none := hid
    exact ((walk_observeRemote_of_none hunknown).mp h).grounded hid hbegin

theorem grounded_of_walk_identify {step : Step}
    (h : (p.identify p.deletingStatus).Walk t₁ step) :
    p.Grounded (t₁ ++ t₂) step.status := by
  have hbegin : p.deletingStatus.Inherits p.resource.status := ⟨rfl, .inl rfl⟩
  cases hid : p.resource.status.identity with
  | some id =>
    have hknown : p.deletingStatus.identity.isSome = true := by
      rw [show p.deletingStatus.identity = some id from hid]
      rfl
    obtain ⟨rfl, rfl⟩ := (walk_identify_of_some hknown).mp h
    exact (grounded_stored p _).of_inherits hbegin
  | none =>
    have hunknown : p.deletingStatus.identity = none := hid
    exact ((walk_identify_of_none hunknown).mp h).grounded hid hbegin

theorem grounded_of_sends {action : CorrectiveAction}
    (h : p.Sends t₁ s action) : p.Grounded (t₁ ++ t₂) s := by
  obtain ⟨seen, observed, -, hkept⟩ := h.inherits
  exact (grounded_of_walk_observeRemote observed).of_inherits hkept

/-! ## Sending -/

/-- Without an object the only action is to make one, and an object on record is
never made again. -/
theorem Sends.cases_of_makesItsOwn {action : CorrectiveAction}
    (hdel : p.resource.deletionRequested = false)
    (hown : p.resource.MakesItsOwn) (h : p.Sends t₁ s action) :
    (s.identity = none ∧ action = .provision)
      ∨ (s.identity.isSome = true ∧ action.createsObject = false) := by
  obtain ⟨seen, -, needed, hkept⟩ := h.inherits
  rw [hkept.1]
  cases hid : seen.identity with
  | none =>
    rw [ManagedResource.nextAction?_of_unidentified hdel hid] at needed
    rcases ManagedResource.firstAction?_cases needed with rfl | ⟨id, hadopt, -⟩
      | ⟨request, hpdb, -, -⟩
    · exact .inl ⟨rfl, rfl⟩
    · rw [hown.adoptIdentity] at hadopt
      cases hadopt
    · rw [hown.pdbRequest] at hpdb
      cases hpdb
  | some id =>
    refine .inr ⟨rfl, ?_⟩
    have hsome : seen.identity.isSome = true := by rw [hid]; rfl
    rcases ManagedResource.nextAction?_of_identified hdel hsome needed with
      ⟨target, rfl⟩ | ⟨changes, rfl⟩ | ⟨request, hpdb, -, -⟩
    · rfl
    · rfl
    · rw [hown.pdbRequest] at hpdb
      cases hpdb

theorem makesDatabase_provisionCall (p : Pass) (c : Credentials) :
    (p.provisionCall c).makesDatabase = true := by
  unfold provisionCall
  split <;> rfl

/-- An object is changed only under the identity on record. -/
theorem target?_callOf {action : CorrectiveAction} {identity : Option String}
    {c : Credentials} {call : RemoteCall}
    (h : p.callOf identity action c = some call)
    (htarget : call.target? = some id) : identity = some id := by
  cases action with
  | provision =>
    cases h
    unfold provisionCall at htarget
    split at htarget <;> cases htarget
  | bind _ =>
    cases h
    cases htarget
  | updateAttributes _ | changeState _ | delete _ =>
    obtain ⟨_, rfl, rfl⟩ := Option.map_eq_some_iff.mp h
    exact htarget
  | pdb request =>
    cases h
    obtain ⟨action⟩ := request
    cases action <;> cases htarget

/-- What is answered to a call that makes a database is an object that was
made. -/
theorem made_of_answerOf {c : Credentials}
    {reply : Reply (p.provisionCall c).Answer} {found : Option Snapshot}
    (hmem : .remote (p.provisionCall c) reply ∈ t)
    (h : p.answerOf (p.provisionCall c) reply = .ok found) :
    ∃ made, found = some made ∧ Made made.id t := by
  -- the type of the reply depends on the call, so the reply goes first
  revert reply
  unfold provisionCall
  split
  next source _ =>
    intro reply hmem h
    cases reply with
    | answered made =>
      cases h
      exact ⟨made, rfl, .cloned hmem rfl⟩
    | failed e => cases h
    | hung => cases h
  next =>
    intro reply hmem h
    cases reply with
    | answered made =>
      cases h
      exact ⟨made, rfl, .created hmem rfl⟩
    | failed e => cases h
    | hung => cases h

/-- A pass that sends an action accounts for its mark, and for the status after
its answer. -/
theorem grounded_of_sent {action : CorrectiveAction} {c : Credentials}
    {call : RemoteCall} {reply : Reply call.Answer}
    (hdel : p.resource.deletionRequested = false)
    (hown : p.resource.MakesItsOwn) (sends : p.Sends t₁ s action)
    (target : p.callOf s.identity action c = some call)
    (hmem : .remote call reply ∈ t₁ ++ t₂) :
    p.Grounded (t₁ ++ t₂) (p.markDispatched s action)
      ∧ p.Grounded (t₁ ++ t₂)
        (p.afterAnswer (p.markDispatched s action) action
          (p.answerOf call reply)).1 := by
  have hbegin : p.Grounded (t₁ ++ t₂) s := grounded_of_sends sends
  rcases sends.cases_of_makesItsOwn hdel hown with ⟨hnone, rfl⟩
    | ⟨hsome, hcreates⟩
  · -- a create: its mark is that of a call in the trace, and the identity is
    -- the one answered
    obtain rfl : p.provisionCall c = call := Option.some.inj target
    have hsent : SendsCreate (t₁ ++ t₂) :=
      ⟨_, reply, makesDatabase_provisionCall p c, hmem⟩
    refine ⟨⟨hbegin.identity, fun _ => .inr hsent⟩,
      ⟨fun id hid => ?_, fun _ => .inr hsent⟩⟩
    cases hanswer : p.answerOf (p.provisionCall c) reply with
    | ok found =>
      obtain ⟨made, rfl, hmade⟩ := made_of_answerOf hmem hanswer
      rw [hanswer] at hid
      have hunknown : (p.markDispatched s .provision).identity = none := hnone
      have hreported :
          (p.afterSuccess (p.markDispatched s .provision) .provision
            (some made)).1.identity
            = some made.id := identity_afterSuccess_of_none hunknown made
      obtain rfl := Option.some.inj (hreported.symm.trans hid)
      exact .made hmade
    | error e =>
      rw [hanswer] at hid
      have hkept :=
        inherits_afterFailure p (p.markDispatched s .provision) .provision e
      exact hbegin.identity id (hkept.1.symm.trans hid)
  · -- any other action: its mark is not that of a create, and the identity
    -- stays
    obtain ⟨id, hid⟩ := Option.isSome_iff_exists.mp hsome
    have hmarked : p.Grounded (t₁ ++ t₂) (p.markDispatched s action) := by
      refine ⟨hbegin.identity, ?_⟩
      rintro ⟨pending, hpending, hcreate⟩
      cases hpending
      rw [show isCreateSignature (p.pending action.signature).signature
        = action.createsObject from
        action.isCreateSignature_signature, hcreates] at hcreate
      cases hcreate
    refine ⟨hmarked, hmarked.of_inherits ?_⟩
    cases p.answerOf call reply with
    | ok found =>
      exact inherits_afterSuccess (s := p.markDispatched s action) hid
        action found
    | error e => exact inherits_afterFailure p _ action e

/-! ## Whole passes -/

/-- What a pass ends with that sends nothing is accounted for. -/
theorem Rests.grounded {d : Duration} (h : p.Rests t₁ s d) :
    p.Grounded (t₁ ++ t₂) s := by
  rcases h.stops_or_inherits with observed | ⟨_, _, seen, rfl, observed, kept⟩
  · have hgrounded : p.Grounded (t₁ ++ t₂) (Step.stop s d).status :=
      grounded_of_walk_observeRemote observed
    exact hgrounded
  · rw [List.append_assoc]
    exact (grounded_of_walk_observeRemote observed).of_inherits kept

/-- Every status that a pass stores is accounted for. -/
theorem Course.grounded (hdel : p.resource.deletionRequested = false)
    (hown : p.resource.MakesItsOwn) (h : p.Course t r) (hs : .saved s ∈ t) :
    p.Grounded t s := by
  cases h.conclusion with
  | rested rests ending =>
    obtain rfl := eq_of_saved_mem_append_finish
      (saveStatus_not_mem_of_quiet rests.quiet) ending hs
    exact rests.grounded
  | unmarked sends credentials =>
    -- the mark was refused
    have quiet := sends.quiet_readCredentials credentials
    exact absurd hs
      (saved_not_mem_append_refused (saveStatus_not_mem_of_quiet quiet))
  | @sent t₁ t₂ t₃ s' action _ call reply _ sends credentials target ending =>
    -- the mark and the status after the answer
    have quiet := sends.quiet_readCredentials credentials
    have hmem : .remote call reply
        ∈ t₁
          ++ (t₂
            ++ .saved (p.markDispatched s' action) :: .remote call reply
              :: t₃) := by
      simp
    obtain ⟨hmarked, hafter⟩ := grounded_of_sent hdel hown sends target hmem
    rw [← List.append_assoc] at hmarked hafter
    rcases eq_of_saved_mem_sent (saveStatus_not_mem_of_quiet quiet) ending hs
      with rfl | rfl
    · exact hmarked
    · exact hafter

/-- So is every status that a deletion stores. -/
theorem Teardown.grounded (h : p.Teardown t r) (hs : .saved s ∈ t) :
    p.Grounded t s := by
  cases h with
  | detached _ ending => exact absurd hs (saved_not_mem_release ending)
  | awaited _ identified ending =>
    have quiet := quiet_of_walk_identify identified
    obtain rfl := eq_of_saved_mem_append_finish
      (saveStatus_not_mem_of_quiet quiet) ending hs
    exact Grounded.of_inherits (grounded_of_walk_identify identified)
      ⟨rfl, .inl rfl⟩
  | objectless _ identified _ ending =>
    have quiet := quiet_of_walk_identify identified
    exact absurd hs (saved_not_mem_append_release
      (saveStatus_not_mem_of_quiet quiet) ending)
  | @known t₁ t₂ known _ _ _ knows teardown =>
    have hs := saved_mem_of_quiet (quiet_of_knows knows) hs
    have hknown :
        p.Grounded (t₁ ++ t₂) known := grounded_of_walk_identify knows.1
    rcases teardown.inherits knows.2 hs with hkept | hkept
    · exact Grounded.of_inherits hknown hkept
    · refine ⟨fun id hid => hknown.identity id (hkept.1.symm.trans hid),
        fun hmarks => ?_⟩
      -- the mark of a delete call marks no create
      obtain ⟨pending, hmark, hcreate⟩ := hmarks.of_inherits hkept
      cases hmark
      rw [show isCreateSignature (p.pending deleteSignature).signature
        = false from
        CorrectiveAction.isCreateSignature_signature (.delete true)] at hcreate
      cases hcreate

theorem grounded_of_saved (hown : p.resource.MakesItsOwn) (h : p.run.Walk t r)
    (hs : .saved s ∈ t) : p.Grounded t s := by
  cases hdel : p.resource.deletionRequested with
  | false => exact (course_of_walk hdel h).grounded hdel hown hs
  | true => exact (teardown_of_walk hdel h).grounded hs

/-! ## Calls that change an object -/

theorem Quiet.target? {call : RemoteCall} {reply : Reply call.Answer}
    (h : p.Quiet (.remote call reply)) : call.target? = none := by
  cases h <;> rfl

theorem target_not_mem_of_quiet (quiet : ∀ e ∈ t, p.Quiet e) {call : RemoteCall}
    {reply : Reply call.Answer} (htarget : call.target? = some id) :
    .remote call reply ∉ t := by
  intro hmem
  rw [(quiet _ hmem).target?] at htarget
  cases htarget

/-- An object that a pass changes is accounted for. -/
theorem Course.origin_of_target {call : RemoteCall} {reply : Reply call.Answer}
    (h : p.Course t r) (hmem : .remote call reply ∈ t)
    (htarget : call.target? = some id) : p.Origin id t := by
  cases h.conclusion with
  | rested rests ending =>
    exact (List.mem_append.mp hmem).elim
      (fun hmem =>
        absurd hmem (target_not_mem_of_quiet rests.quiet htarget))
      fun hmem => absurd hmem (remote_not_mem_of_walk_finish ending)
  | unmarked sends credentials =>
    have quiet := sends.quiet_readCredentials credentials
    cases List.mem_singleton.mp
      ((List.mem_append.mp hmem).resolve_left
        (target_not_mem_of_quiet quiet htarget))
  | sent sends credentials target ending =>
    have quiet := sends.quiet_readCredentials credentials
    have hmem :=
      (List.mem_append.mp hmem).resolve_left
        (target_not_mem_of_quiet quiet htarget)
    rcases List.mem_cons.mp (List.mem_of_ne_of_mem (by simp) hmem) with hmem
      | hmem
    · cases hmem
      rw [List.append_assoc]
      exact (grounded_of_sends sends).identity id
        (target?_callOf target htarget)
    · exact absurd hmem (remote_not_mem_of_walk_finish ending)

/-- A deletion changes the object it knows, by deleting it. -/
theorem ObjectTeardown.eq_of_target {known : Status} {object : String}
    {call : RemoteCall} {reply : Reply call.Answer}
    (h : p.ObjectTeardown known object t r) (hmem : .remote call reply ∈ t)
    (htarget : call.target? = some id) : id = object := by
  have hlocate : ∀ {t : List PassEvent}
      {found : Except RemoteError (Status × Option LifecycleState)},
      (p.locate known object).Walk t found → .remote call reply ∉ t := by
    intro t found located hmem
    rw [RemoteCall.target?_of_isRead (isRead_of_mem_locate located hmem)]
      at htarget
    cases htarget
  have hsent : ∀ {t₁ t₂ : List PassEvent}
      {found : Except RemoteError (Status × Option LifecycleState)}
      {marked : Status} {answer : Reply Unit},
      (p.locate known object).Walk t₁ found → .remote call reply ∉ t₂ →
        .remote call reply
          ∈ t₁ ++ .saved marked :: .remote (.delete object) answer :: t₂ →
            id = object := by
    intro t₁ t₂ found marked answer located hending hmem
    have hmem := (List.mem_append.mp hmem).resolve_left (hlocate located)
    rcases List.mem_cons.mp (List.mem_of_ne_of_mem (by simp) hmem) with hmem
      | hmem
    · cases hmem
      exact (Option.some.inj htarget).symm
    · exact absurd hmem hending
  cases h with
  | unread located _ ending | given located _ ending =>
    exact absurd hmem fun hmem =>
      (List.mem_append.mp hmem).elim (hlocate located)
      (remote_not_mem_of_walk_finish ending)
  | gone located _ ending =>
    exact absurd hmem fun hmem =>
      (List.mem_append.mp hmem).elim (hlocate located)
      (remote_not_mem_of_walk_release ending)
  | unmarked located => simp [hlocate located] at hmem
  | deleted located _ ending | kept located _ _ _ ending =>
    exact hsent located (remote_not_mem_of_walk_finish ending) hmem
  | vanished located _ _ ending =>
    exact hsent located (remote_not_mem_of_walk_release ending) hmem

theorem Teardown.origin_of_target {call : RemoteCall}
    {reply : Reply call.Answer} (h : p.Teardown t r)
    (hmem : .remote call reply ∈ t) (htarget : call.target? = some id) :
    p.Origin id t := by
  cases h with
  | detached _ ending =>
    exact absurd hmem (remote_not_mem_of_walk_release ending)
  | awaited _ identified ending =>
    have hmem := (List.mem_append.mp hmem).resolve_left
      (target_not_mem_of_quiet (quiet_of_walk_identify identified) htarget)
    exact absurd hmem (remote_not_mem_of_walk_finish ending)
  | objectless _ identified _ ending =>
    have hmem := (List.mem_append.mp hmem).resolve_left
      (target_not_mem_of_quiet (quiet_of_walk_identify identified) htarget)
    exact absurd hmem (remote_not_mem_of_walk_release ending)
  | @known t₁ t₂ known object _ _ knows teardown =>
    have hmem :=
      (List.mem_append.mp hmem).resolve_left
        (target_not_mem_of_quiet (quiet_of_knows knows) htarget)
    obtain rfl := teardown.eq_of_target hmem htarget
    have hknown :
        p.Grounded (t₁ ++ t₂) known := grounded_of_walk_identify knows.1
    exact hknown.identity _ knows.2

theorem origin_of_target {call : RemoteCall} {reply : Reply call.Answer}
    (h : p.run.Walk t r) (hmem : .remote call reply ∈ t)
    (htarget : call.target? = some id) : p.Origin id t := by
  cases hdel : p.resource.deletionRequested with
  | false => exact (course_of_walk hdel h).origin_of_target hmem htarget
  | true => exact (teardown_of_walk hdel h).origin_of_target hmem htarget

end Pass

/-! ## Whole runs -/

/-- A run accounts for an identity. -/
inductive Own (turns : List Turn) (id : String) : Prop where
  /-- It was answered to a call of the run that makes a database. -/
  | made {turn : Turn} (mem : turn ∈ turns) (made : Made id turn.trace)
  /-- A pass has adopted it that began with the mark of a create, and such a
  call was sent earlier in the run. -/
  | adopted {before after : List Turn} {turn earlier : Turn}
      (split : turns = before ++ turn :: after)
      (adopts : turn.pass.Adopts id turn.trace) (mem : earlier ∈ before)
      (sends : SendsCreate earlier.trace)

theorem Own.append {turns : List Turn} (h : Own turns id) (more : List Turn) :
    Own (turns ++ more) id := by
  cases h with
  | made mem made => exact .made (List.mem_append_left _ mem) made
  | @adopted before after turn earlier split adopts mem sends =>
    have hsplit : turns ++ more = before ++ turn :: (after ++ more) := by
      rw [split, List.append_assoc, List.cons_append]
    exact .adopted hsplit adopts mem sends

/-- Without a name nothing is adopted, so that every identity was answered to a
call. -/
theorem Own.made_of_nameless {turns : List Turn}
    (nameless : ∀ turn ∈ turns,
      turn.pass.resource.listFilter.displayName = none) (h : Own turns id) :
    ∃ turn ∈ turns, Made id turn.trace := by
  cases h with
  | made mem made => exact ⟨_, mem, made⟩
  | @adopted before after turn earlier split adopts mem sends =>
    obtain ⟨-, -, named, -⟩ := adopts
    rw [nameless turn (by simp [split])] at named
    cases named

/-- A run accounts for all that a status knows and marks. -/
structure Accounted (turns : List Turn) (s : Status) : Prop where
  identity : ∀ id, s.identity = some id → Own turns id
  mark : s.MarksCreate → ∃ turn ∈ turns, SendsCreate turn.trace

/-- What a pass accounts for, a run accounts for that ends with the pass. -/
theorem Accounted.own_of_origin {turns : List Turn} {turn : Turn}
    (h : Accounted turns turn.pass.resource.status)
    (origin : turn.pass.Origin id turn.trace) : Own (turns ++ [turn]) id := by
  cases origin with
  | recorded recorded => exact (h.identity id recorded).append _
  | made made => exact .made (by simp) made
  | adopted adopts =>
    obtain ⟨earlier, mem, sends⟩ := h.mark adopts.2.1
    exact .adopted rfl adopts mem sends

variable {s₀ s : Status} {turns : List Turn}

/-- A run that begins without an identity, and without the mark of a create,
accounts for the status it leads to. -/
theorem accounted_of_reaches (hnone : s₀.identity = none)
    (hmark : ¬ s₀.MarksCreate)
    (hown : ∀ turn ∈ turns, turn.pass.resource.MakesItsOwn)
    (hrun : Reaches s₀ turns s) : Accounted turns s := by
  induction hrun with
  | start =>
    refine ⟨fun id hid => ?_, fun hmarks => absurd hmarks hmark⟩
    rw [hnone] at hid
    cases hid
  | @step turns s turn past begins ih =>
    -- what is stored is either the status the pass began with, or one that the
    -- pass accounts for
    have hpast : Accounted turns turn.pass.resource.status := by
      rw [begins]
      exact ih fun turn' hturn' => hown turn' (List.mem_append_left _ hturn')
    have hgrounded : turn.pass.Grounded turn.trace turn.stored :=
      turn.stored_of_saved (Pass.grounded_stored ..) fun s hs =>
        Pass.grounded_of_saved (hown turn (by simp)) turn.walk hs
    refine ⟨fun id hid => hpast.own_of_origin (hgrounded.identity id hid),
      fun hmarks => ?_⟩
    rcases hgrounded.mark hmarks with hbefore | hsends
    · obtain ⟨earlier, mem, sends⟩ := hpast.mark hbefore
      exact ⟨earlier, List.mem_append_left _ mem, sends⟩
    · exact ⟨turn, by simp, hsends⟩

/-- The objects that a run changes are accounted for. -/
theorem own_of_target (hnone : s₀.identity = none) (hmark : ¬ s₀.MarksCreate)
    (hown : ∀ turn ∈ turns, turn.pass.resource.MakesItsOwn)
    (hrun : Reaches s₀ turns s) {turn : Turn} (hturn : turn ∈ turns)
    {call : RemoteCall} {reply : Reply call.Answer}
    (hmem : .remote call reply ∈ turn.trace)
    (htarget : call.target? = some id) : Own turns id := by
  induction hrun with
  | start => cases hturn
  | @step turns s last past begins ih =>
    have hown' : ∀ turn ∈ turns, turn.pass.resource.MakesItsOwn :=
      fun turn' hturn' => hown turn' (List.mem_append_left _ hturn')
    rcases List.mem_append.mp hturn with hturn | hturn
    · exact (ih hown' hturn).append _
    · obtain rfl := List.mem_singleton.mp hturn
      have hpast := accounted_of_reaches hnone hmark hown' past
      rw [← begins] at hpast
      exact hpast.own_of_origin (Pass.origin_of_target turn.walk hmem htarget)

/-- **Where identities come from.** A run begins with a status that holds
neither an identity nor the mark of a create, and never declares an object to be
bound. Then

1. the identity that is recorded was answered to a call of the run that makes a
   database, or a pass adopted it from a list while the mark of such a call was
   stored;
2. so was the identity of every object that the run updates, starts, stops or
   deletes;
3. if the resource never has a display name, none was adopted. -/
theorem identity_is_own (hnone : s₀.identity = none) (hmark : ¬ s₀.MarksCreate)
    (hown : ∀ turn ∈ turns, turn.pass.resource.MakesItsOwn)
    (hrun : Reaches s₀ turns s) :
    (∀ id, s.identity = some id → Own turns id)
      ∧ (∀ turn ∈ turns, ∀ (call : RemoteCall) (reply : Reply call.Answer)
          (id : String),
        .remote call reply ∈ turn.trace → call.target? = some id → Own turns id)
      ∧ ((∀ turn ∈ turns, turn.pass.resource.listFilter.displayName = none) →
        ∀ id, Own turns id → ∃ turn ∈ turns, Made id turn.trace) := by
  refine ⟨(accounted_of_reaches hnone hmark hown hrun).identity, ?_, ?_⟩
  · intro turn hturn call reply id hmem htarget
    exact own_of_target hnone hmark hown hrun hturn hmem htarget
  · intro nameless id hid
    exact hid.made_of_nameless nameless

/-- A remote on which a database stands that someone else has made, and which
refuses one create for now. -/
def sharedRemote : Simulation :=
  { remote :=
      { objects := .ofList [("ocid1.adb.legacy",
          { id := "ocid1.adb.legacy", state := .available,
            attributes := { displayName := some "sales" } })]
        failures := .ofList [("create", [some (.transient "timeout")])] } }

/-- The pass whose create is refused. -/
def refusedCreate : Turn :=
  .simulated Simulation.answer
    (.ofDatabase (some "sales") {} false ⟨1700000000, 0⟩) sharedRemote

/-- The deletion that follows. -/
def deletionAfterRefusedCreate : Turn :=
  .simulated Simulation.answer
    (.ofDatabase (some "sales") refusedCreate.stored true ⟨1700000010, 0⟩)
    (sharedRemote.carryOut refusedCreate.pass.run).2

/-- A database that existed before the run, and that the run has not made, is
adopted under its name and deleted. -/
theorem legacy_database_is_adopted_and_deleted :
    Reaches {} [refusedCreate, deletionAfterRefusedCreate]
      deletionAfterRefusedCreate.stored
      ∧ (∀ turn ∈ [refusedCreate, deletionAfterRefusedCreate],
        turn.pass.resource.MakesItsOwn)
      ∧ (sharedRemote.remote.objects.get? "ocid1.adb.legacy").isSome = true
      ∧ deletionAfterRefusedCreate.stored.identity = some "ocid1.adb.legacy"
      ∧ .remote (.delete "ocid1.adb.legacy") (.answered ())
        ∈ deletionAfterRefusedCreate.trace
      ∧ ∀ turn ∈ [refusedCreate, deletionAfterRefusedCreate],
        ¬ Made "ocid1.adb.legacy" turn.trace := by
  obtain ⟨request, marked, after, hrefused⟩ : ∃ request marked after,
    refusedCreate.trace
      = [.saved marked,
        .remote (.create request) (.failed (.transient "timeout")),
        .saved after] := ⟨_, _, _, rfl⟩
  obtain ⟨filter, legacy, marked', after', hdeletion⟩ :
    ∃ filter legacy marked' after', deletionAfterRefusedCreate.trace
      = [.remote (.list filter) (.answered [legacy]),
        .remote (.get "ocid1.adb.legacy") (.answered legacy), .saved marked',
        .remote (.delete "ocid1.adb.legacy") (.answered ()), .saved after'] :=
          ⟨_, _, _, _, rfl⟩
  refine ⟨.cons rfl (.cons rfl .start), ?_, rfl, rfl, ?_, ?_⟩
  · intro turn hturn
    simp only [List.mem_cons, List.not_mem_nil, or_false] at hturn
    rcases hturn with rfl | rfl <;> exact ⟨rfl, rfl⟩
  · rw [hdeletion]
    simp
  · intro turn hturn
    simp only [List.mem_cons, List.not_mem_nil, or_false] at hturn
    rcases hturn with rfl | rfl
    · rw [hrefused]
      rintro (⟨answer, -⟩ | ⟨answer, -⟩) <;> simp at answer
    · rw [hdeletion]
      rintro (⟨answer, -⟩ | ⟨answer, -⟩) <;> simp at answer

/-- The pass whose create has its effect, but no answer. -/
def unansweredCreate : Turn :=
  .simulated Simulation.answer
    (.ofDatabase (some "sales") {} false ⟨1700000000, 0⟩) losingRemote

/-- The pass that finds the database under its name. -/
def adoption : Turn :=
  .simulated Simulation.answer
    (.ofDatabase (some "sales") unansweredCreate.stored false ⟨1700000010, 0⟩)
    (losingRemote.carryOut unansweredCreate.pass.run).2

/-- A database whose create was not answered is adopted, and is the run's
own. -/
theorem adoption_is_own :
    adoption.stored.identity = some "ocid1.adb.1"
      ∧ Own [unansweredCreate, adoption] "ocid1.adb.1" := by
  have hrun : Reaches {} [unansweredCreate, adoption] adoption.stored :=
    .cons rfl (.cons rfl .start)
  have hrecorded : adoption.stored.identity = some "ocid1.adb.1" := rfl
  refine ⟨hrecorded, (identity_is_own rfl ?_ ?_ hrun).1 _ hrecorded⟩
  · rintro ⟨pending, hmark, -⟩
    cases hmark
  · intro turn hturn
    simp only [List.mem_cons, List.not_mem_nil, or_false] at hturn
    rcases hturn with rfl | rfl <;> exact ⟨rfl, rfl⟩

end DatabaseOperator
