import DatabaseOperator.Proofs.Creation.Making
import DatabaseOperator.Proofs.Deletion.LostCreate
import DatabaseOperator.Proofs.Provenance

/-!
# One object under one token

A create may be sent more than once: its answer may be lost, the object may not
show, and a resource without a name has no other way to find it. What keeps the
copies apart is the retry token, which is the same in all calls for a resource,
and which the remote recognises. Once an identity is on record no such call is
sent at all.

- `ManagedResource.IsDatabase`: the view of one database object, whatever its
  spec says at the time.
- `Pass.retryToken_of_creates`: the token of a call that makes the database.
- `unidentified_before_create`: nothing that is stored before such a call knows
  an object.
- `RemoteHolds`: what a remote that recognises retry tokens holds after some
  exchanges.
- `one_object_under_one_token`: all of it for whole runs.
-/

namespace DatabaseOperator

/-- The request of a call that makes a database. -/
def RemoteCall.provision? : RemoteCall → Option ProvisionRequest
  | create request | cloneDatabase _ request => some request
  | _ => none

theorem RemoteCall.createsObject_of_provision? {call : RemoteCall}
    {request : ProvisionRequest} (h : call.provision? = some request) :
    call.createsObject = true := by
  cases call with
  | create | cloneDatabase => rfl
  | _ => cases h

/-- The resource is the view of a database object with a name and a uid. The
rest of its spec is left open. -/
structure ManagedResource.IsDatabase (r : ManagedResource) (name uid : String) :
    Prop where
  name : r.name = name
  uid : r.uid = some uid
  pdbRequest : r.pdbRequest = none

/-- The view of an autonomous database is one, with or without a compartment to
fall back on. -/
theorem ManagedResource.isDatabase_ofAutonomous {db : AutonomousDatabase}
    {uid : String} (h : db.metadata.uid = some uid) (compartment : String) :
    (ofAutonomous db).IsDatabase db.metadata.anyName uid
      ∧ ((ofAutonomous db).withDefaultCompartment compartment).IsDatabase
        db.metadata.anyName uid :=
  ⟨⟨rfl, h, rfl⟩, ⟨rfl, h, rfl⟩⟩

/-- The retry token of a database object. -/
def databaseToken (name uid : String) : String :=
  name ++ "-" ++ uid

theorem databaseToken_ne_empty (name uid : String) :
    databaseToken name uid ≠ "" := by
  intro h
  have hlength := congrArg String.length h
  simp [databaseToken] at hlength

variable {name uid : String}

/-! ## Calls that make the database -/

namespace Pass

variable {p : Pass} {t before after : List PassEvent}
    {r : Except OperatorError Outcome} {call : RemoteCall}
    {reply : Reply call.Answer} {request : ProvisionRequest}

/-- Every call that makes the database carries the token of the database
object. -/
theorem retryToken_of_creates (hdatabase : p.resource.IsDatabase name uid)
    (h : p.run.Walk t r) (hmem : .remote call reply ∈ t)
    (hrequest : call.provision? = some request) :
    request.retryToken = some (databaseToken name uid) := by
  obtain ⟨before, after, ht⟩ := List.append_of_mem hmem
  have hcreates := RemoteCall.createsObject_of_provision? hrequest
  obtain ⟨hdel, looked, read, s, action, c, -, sends, -, target, haction, -⟩ :=
    sends_of_creates h ht hcreates
  obtain ⟨seen, -, needed, -⟩ := sends.inherits
  -- the only other actions that make an object are requests for a pluggable
  -- database
  have hprovision : action = .provision := by
    cases action with
    | provision => rfl
    | pdb request =>
      have hrequested := ManagedResource.nextAction?_eq_pdb hdel needed
      rw [hdatabase.pdbRequest] at hrequested
      cases hrequested
    | bind _ | updateAttributes _ | changeState _ | delete _ => cases haction
  rw [hprovision] at target
  have hsent : request = p.provisionRequest c := by
    obtain rfl : p.provisionCall c = call := Option.some.inj target
    unfold provisionCall at hrequest
    split at hrequest
    · exact (Option.some.inj hrequest).symm
    · exact (Option.some.inj hrequest).symm
  rw [hsent]
  show p.resource.uid.map (fun uid => p.resource.name ++ "-" ++ uid) = _
  rw [hdatabase.uid, hdatabase.name]
  rfl

end Pass

/-! ## Runs -/

variable {s₀ s : Status} {turns : List Turn}

/-- All that happens in a history, in order. -/
def exchanges (turns : List Turn) : List PassEvent :=
  turns.flatMap Turn.trace

theorem exchanges_concat (turns : List Turn) (turn : Turn) :
    exchanges (turns ++ [turn]) = exchanges turns ++ turn.trace := by
  simp [exchanges]

/-- An identity that a history begins with, or that is stored in it, is on
record at its end. -/
theorem identity_of_reaches {id : String} (hrun : Reaches s₀ turns s)
    (hid : s₀.identity = some id
      ∨ ∃ s', .saved s' ∈ exchanges turns ∧ s'.identity = some id) :
    s.identity = some id := by
  induction hrun with
  | start =>
    rcases hid with hid | ⟨s', hmem, -⟩
    · exact hid
    · cases hmem
  | @step turns s turn past begins ih =>
    have hkept : s.identity = some id → turn.stored.identity = some id := by
      intro hid
      rw [← begins] at hid
      exact turn.stored_of_saved (P := fun s => s.identity = some id) hid
          fun s hs =>
        Pass.identity_of_saved hid turn.walk hs
    rcases hid with hid | ⟨s', hmem, hid⟩
    · exact hkept (ih (.inl hid))
    · rw [exchanges_concat] at hmem
      rcases List.mem_append.mp hmem with hmem | hmem
      · exact hkept (ih (.inr ⟨s', hmem, hid⟩))
      · exact Pass.identity_storedAfter _ turn.walk hmem hid

/-- Where a call makes an object, none is on record, and none was stored
before. -/
theorem unidentified_before_create {before after : List PassEvent}
    {call : RemoteCall} {reply : Reply call.Answer} (hrun : Reaches s₀ turns s)
    (ht : exchanges turns = before ++ .remote call reply :: after)
    (hcreates : call.createsObject = true) :
    s₀.identity = none ∧ ∀ s', .saved s' ∈ before → s'.identity = none := by
  induction hrun generalizing after with
  | start =>
    have hlength := congrArg List.length ht
    simp [exchanges] at hlength
  | @step turns s turn past begins ih =>
    rw [exchanges_concat] at ht
    by_cases hlast : ∃ rest, before = exchanges turns ++ rest
      ∧ turn.trace = rest ++ .remote call reply :: after
    · -- the call is one of the last pass, which begins with the status that the
      -- others lead to
      obtain ⟨rest, rfl, hrest⟩ := hlast
      obtain ⟨hnone, hsaved⟩ :=
        Pass.unidentified_of_creates turn.walk hrest hcreates
      rw [begins] at hnone
      have hearlier : ∀ {s' : Status}, (∀ id, s'.identity = some id →
          s.identity = some id) → s'.identity = none := by
        intro s' hkept
        cases hid : s'.identity with
        | none => rfl
        | some id =>
          rw [hkept id hid] at hnone
          cases hnone
      refine ⟨hearlier fun id hid => identity_of_reaches past (.inl hid),
        fun s' hmem => ?_⟩
      rcases List.mem_append.mp hmem with hmem | hmem
      · exact hearlier fun id hid =>
          identity_of_reaches past (.inr ⟨s', hmem, hid⟩)
      · exact hsaved s' hmem
    · rcases List.append_eq_append_iff.mp ht with ⟨rest, hbefore, hrest⟩
        | ⟨cs, hturns, hcs⟩
      · exact absurd ⟨rest, hbefore, hrest⟩ hlast
      · cases cs with
        | nil => exact absurd ⟨[], by simpa using hturns.symm, hcs.symm⟩ hlast
        | cons c cs =>
          obtain ⟨rfl, -⟩ := List.cons.inj hcs
          exact ih hturns

/-! ## What the remote holds -/

/-- An object that a remote has made, and the token that came with the call. -/
structure MadeObject where
  id : String
  token : Option String

/-- What a remote can hold after some exchanges, of the objects that it has made
for them, if it recognises retry tokens: as long as it holds the object that was
made under a token, a call with this token makes no other, and an answer to it
reports that object. -/
inductive RemoteHolds (held₀ : List MadeObject) : List PassEvent →
    List MadeObject → Prop where
  | start : RemoteHolds held₀ [] held₀
  /-- Objects can go at any time. -/
  | gone {t : List PassEvent} {held held' : List MadeObject}
      (past : RemoteHolds held₀ t held) (fewer : held'.Sublist held) :
      RemoteHolds held₀ t held'
  /-- Other exchanges make nothing. -/
  | other {t : List PassEvent} {held : List MadeObject} {e : PassEvent}
      (past : RemoteHolds held₀ t held)
      (other : ∀ (call : RemoteCall) (reply : Reply call.Answer), e
        = .remote call reply → call.provision? = none) : RemoteHolds held₀
          (t ++ [e]) held
  /-- The call has no effect. -/
  | refused {t : List PassEvent} {held : List MadeObject} {call : RemoteCall}
      {reply : Reply call.Answer} (past : RemoteHolds held₀ t held)
      (refused : ∀ id, ¬ Made id [.remote call reply]) : RemoteHolds held₀
        (t ++ [.remote call reply]) held
  /-- The call repeats one whose object is there. -/
  | repeated {t : List PassEvent} {held : List MadeObject} {call : RemoteCall}
      {reply : Reply call.Answer} {request : ProvisionRequest} {token : String}
      {object : MadeObject} (past : RemoteHolds held₀ t held)
      (requested : call.provision? = some request)
      (carried : request.retryToken = some token) (known : object ∈ held)
      (same : object.token = some token)
      (answer : ∀ id, Made id [.remote call reply] →
        id = object.id) : RemoteHolds held₀ (t ++ [.remote call reply]) held
  /-- The call makes an object, whether this is answered or not. -/
  | made {t : List PassEvent} {held : List MadeObject} {call : RemoteCall}
      {reply : Reply call.Answer} {request : ProvisionRequest}
      {object : MadeObject} (past : RemoteHolds held₀ t held)
      (requested : call.provision? = some request)
      (carried : object.token = request.retryToken)
      (fresh : ∀ token, request.retryToken = some token → ∀ other ∈ held,
        other.token ≠ some token)
      (answer : ∀ id, Made id [.remote call reply] → id = object.id) :
      RemoteHolds held₀ (t ++ [.remote call reply]) (object :: held)

/-- If all calls carry one token, the remote holds one object at most. -/
theorem RemoteHolds.length_le_one {held₀ held : List MadeObject}
    {t : List PassEvent} {token : String} (h : RemoteHolds held₀ t held)
    (hcarried : ∀ (call : RemoteCall) (reply : Reply call.Answer)
      (request : ProvisionRequest), .remote call reply ∈ t →
        call.provision? = some request → request.retryToken = some token)
    (hbegin : ∀ object ∈ held₀, object.token = some token)
    (hone : held₀.length ≤ 1) :
    (∀ object ∈ held, object.token = some token) ∧ held.length ≤ 1 := by
  induction h with
  | start => exact ⟨hbegin, hone⟩
  | gone _ fewer ih =>
    obtain ⟨htoken, hlength⟩ := ih hcarried
    exact ⟨fun object hobject => htoken object (fewer.subset hobject),
      Nat.le_trans fewer.length_le hlength⟩
  | other _ _ ih | refused _ _ ih | repeated _ _ _ _ _ _ ih =>
    exact ih fun call reply request hmem => hcarried call reply request
      (List.mem_append_left _ hmem)
  | @made t held call reply request object _ hrequest carried fresh _ ih =>
    obtain ⟨htoken, -⟩ := ih fun call reply request hmem =>
      hcarried call reply request (List.mem_append_left _ hmem)
    have hsame : request.retryToken = some token :=
      hcarried call reply request (by simp) hrequest
    -- any other object would carry the token of the call
    have hnone : held = [] := by
      refine List.eq_nil_iff_forall_not_mem.mpr fun other hother => ?_
      exact fresh token hsame other hother (htoken other hother)
    rw [hnone]
    refine ⟨fun object' hobject' => ?_, Nat.le_refl _⟩
    obtain rfl := List.mem_singleton.mp hobject'
    exact carried.trans hsame

/-- **One object under one token.** In a run over one database object with a
uid,

1. every call that makes the database carries the same token, which is not
   empty;
2. no such call is sent once an identity is on record, whether the run began
   with it or a pass has stored it;
3. a remote that recognises retry tokens, and that held one object of this token
   at most when the run began, holds one object at most of those made for the
   database, at every time of the run. -/
theorem one_object_under_one_token (hrun : Reaches s₀ turns s)
    (hdatabase : ∀ turn ∈ turns, turn.pass.resource.IsDatabase name uid) :
    databaseToken name uid ≠ ""
      ∧ (∀ (call : RemoteCall) (reply : Reply call.Answer)
          (request : ProvisionRequest),
        .remote call reply ∈ exchanges turns → call.provision? = some request →
          request.retryToken = some (databaseToken name uid))
      ∧ (∀ (before after : List PassEvent) (call : RemoteCall)
          (reply : Reply call.Answer) (request : ProvisionRequest),
        exchanges turns = before ++ .remote call reply :: after →
          call.provision? = some request →
            s₀.identity = none ∧ ∀ s', .saved s' ∈ before → s'.identity = none)
      ∧ ∀ (before after : List PassEvent) (held₀ held : List MadeObject),
        exchanges turns = before ++ after →
          (∀ object ∈ held₀, object.token = some (databaseToken name uid)) →
            held₀.length ≤ 1 → RemoteHolds held₀ before held →
              held.length ≤ 1 := by
  have hcarried : ∀ (call : RemoteCall) (reply : Reply call.Answer)
      (request : ProvisionRequest), .remote call reply ∈ exchanges turns →
        call.provision? = some request →
          request.retryToken = some (databaseToken name uid) := by
    intro call reply request hmem hrequest
    obtain ⟨turn, hturn, hmem⟩ := List.mem_flatMap.mp hmem
    exact Pass.retryToken_of_creates (hdatabase turn hturn) turn.walk
      hmem hrequest
  refine ⟨databaseToken_ne_empty name uid, hcarried, ?_, ?_⟩
  · intro before after call reply request ht hrequest
    exact unidentified_before_create hrun ht
      (RemoteCall.createsObject_of_provision? hrequest)
  · intro before after held₀ held ht hbegin hone hholds
    refine (hholds.length_le_one (fun call reply request hmem => ?_)
      hbegin hone).2
    exact hcarried call reply request
      (by rw [ht]; exact List.mem_append_left _ hmem)

/-- A create whose answer was lost makes an object, and its repetition under the
same token is answered with it. -/
theorem RemoteHolds.lost_then_repeated {request request' : ProvisionRequest}
    {found : Snapshot} {token : String} {e : RemoteError}
    (marked after marked' after' : Status)
    (htoken : request.retryToken = some token)
    (htoken' : request'.retryToken = some token) :
    RemoteHolds []
      ([.saved marked, .remote (.create request) (.failed e), .saved after]
        ++ [.saved marked', .remote (.create request') (.answered found),
          .saved after'])
      [⟨found.id, some token⟩] := by
  have hsaved : ∀ (s : Status) (call : RemoteCall) (reply : Reply call.Answer),
      Exchange.saved s = .remote call reply → call.provision? = none := by
    intro s call reply h
    cases h
  have hlost : ∀ id, ¬ Made id [.remote (.create request) (.failed e)] := by
    rintro id (⟨answer, -⟩ | ⟨answer, -⟩) <;> simp at answer
  have hanswered : ∀ id, Made id [.remote (.create request') (.answered found)]
      → id = found.id := by
    rintro id (⟨answer, rfl⟩ | ⟨answer, -⟩)
    · obtain ⟨-, rfl⟩ := by simpa using answer
      rfl
    · simp at answer
  have hbegin :
      RemoteHolds [] ([] ++ [.saved marked]) [] := .other .start (hsaved marked)
  have hmade : RemoteHolds []
      ([] ++ [.saved marked] ++ [.remote (.create request) (.failed e)])
      [⟨found.id, some token⟩] :=
    .made hbegin rfl htoken.symm (by simp) fun id h => absurd h (hlost id)
  have hwaits := (hmade.other (hsaved after)).other (hsaved marked')
  exact (RemoteHolds.repeated hwaits rfl htoken' (List.mem_singleton_self _) rfl
    hanswered).other (hsaved after')

/-- The pass after a create whose answer was lost, over a database without a
name. -/
def repeatedCreate : Turn :=
  .simulated Simulation.answer
    (.ofDatabase none Pass.lostCreate.stored false ⟨1700000010, 0⟩)
    (losingRemote.carryOut Pass.lostCreate.pass.run).2

/-- A database without a name is created twice, and the remote holds one object
for it. -/
theorem repeatedCreate_makes_no_other :
    SendsCreate Pass.lostCreate.trace ∧ SendsCreate repeatedCreate.trace
      ∧ RemoteHolds [] (exchanges [Pass.lostCreate, repeatedCreate])
        [⟨"ocid1.adb.1", some "sales-7"⟩]
      ∧ ∀ held, RemoteHolds [] (exchanges [Pass.lostCreate, repeatedCreate])
        held → held.length ≤ 1 := by
  obtain ⟨marked, request, after, hlost, htoken⟩ : ∃ marked request after,
    Pass.lostCreate.trace
      = [.saved marked,
        .remote (.create request) (.failed (.transient "connection reset")),
        .saved after]
      ∧ request.retryToken = some "sales-7" := ⟨_, _, _, rfl, rfl⟩
  obtain ⟨marked', request', found, after', hrepeated, htoken', hfound⟩ :
    ∃ marked' request' found after', repeatedCreate.trace
      = [.saved marked', .remote (.create request') (.answered found),
        .saved after']
      ∧ request'.retryToken = some "sales-7" ∧ found.id = "ocid1.adb.1" :=
        ⟨_, _, _, _, rfl, rfl, rfl⟩
  have hdatabase : ∀ turn ∈ [Pass.lostCreate, repeatedCreate],
  turn.pass.resource.IsDatabase "sales" "7" := by
    intro turn hturn
    simp only [List.mem_cons, List.not_mem_nil, or_false] at hturn
    rcases hturn with rfl | rfl <;> exact ⟨rfl, rfl, rfl⟩
  have hrun : Reaches {} [Pass.lostCreate, repeatedCreate]
    repeatedCreate.stored := .cons rfl (.cons rfl .start)
  have hheld := (one_object_under_one_token hrun hdatabase).2.2.2
  refine ⟨⟨.create request, .failed (.transient "connection reset"), rfl,
    by rw [hlost]; simp⟩,
    ⟨.create request', .answered found, rfl, by rw [hrepeated]; simp⟩, ?_, ?_⟩
  · have hexchanges : exchanges [Pass.lostCreate, repeatedCreate]
        = [.saved marked,
          .remote (.create request) (.failed (.transient "connection reset")),
          .saved after]
          ++ [.saved marked', .remote (.create request') (.answered found),
            .saved after'] := by
      rw [← hlost, ← hrepeated]
      exact congrArg (Pass.lostCreate.trace ++ ·)
        (List.append_nil repeatedCreate.trace)
    rw [hexchanges, ← hfound]
    exact .lost_then_repeated marked after marked' after' htoken htoken'
  · intro held hholds
    exact hheld (exchanges [Pass.lostCreate, repeatedCreate]) [] [] held
      (List.append_nil _).symm (by simp) (Nat.zero_le _) hholds

end DatabaseOperator
