import DatabaseOperator.Gateway.Service
import DatabaseOperator.Proofs.Resemblance
import DatabaseOperator.Proofs.Signature

/-!
# What a signature says of what is sent

A signature is a text that joins what a user wrote with separators that the user
may have written as well. For the actions that make nothing this does no harm:
whatever stands in their names, files and options, no two of them are written
alike that are not sent alike.

- `Text.partsAfter_parameter_inj`: a last parameter is told, whatever stands in
  it.
- `PdbRequest.told_eq_iff`: so the requests on one pluggable database are told,
  but for one kind that makes it.
- `RemoteCall.AsksSame`: calls that ask the remote for the same thing.
- `Gateway.Service.outcome_eq`: and that a gateway takes for the same.
- `CorrectiveAction.signatures_tell_calls`: equal signatures, the same call; and
  a signature says whether an object is made.
-/

namespace DatabaseOperator

/-! ## Requests on one pluggable database -/

namespace PdbRequest

variable {request other : PdbRequest}

/-- A parameter that nothing follows is told, commas or not. -/
theorem partsAfter_parameter_inj {name : String} {value value' : Option String}
    (h : Text.partsAfter (parameter name value)
      = Text.partsAfter (parameter name value')) : value = value' := by
  cases value with
  | none =>
    cases value' with
    | none => rfl
    | some v' => cases h
  | some v =>
    cases value' with
    | none => cases h
    | some v' =>
      have hpart : name ++ "=" ++ v = name ++ "=" ++ v' :=
        String.toList_injective (List.cons.inj h).2
      exact parameter_inj (congrArg (fun part => [part]) hpart)

/-- An open state and a last option are told: the state holds no comma, and the
option has another name. -/
theorem partsAfter_modify_inj {state state' : Option PdbState}
    {option option' : Option String}
    (h : Text.partsAfter (parameter "state" (state.map PdbState.text)
      ++ parameter "option" option)
        = Text.partsAfter (parameter "state" (state'.map PdbState.text)
          ++ parameter "option" option')) :
    parameter "state" (state.map PdbState.text) ++ parameter "option" option
      = parameter "state" (state'.map PdbState.text)
        ++ parameter "option" option' := by
  have hplain : ∀ s : PdbState, Text.Plain ("state" ++ "=" ++ s.text) := by
    intro s
    cases s <;> decide
  have hother : ∀ (s : PdbState) (rest : List String) (o : Option String),
      Text.partsAfter (("state" ++ "=" ++ s.text) :: rest)
        ≠ Text.partsAfter (parameter "option" o) := by
    intro s rest o h
    cases o with
    | none => cases h
    | some v =>
      have hparts := (List.cons.inj h).2
      rw [Text.toList_joinWith_cons, Text.toList_joinWith_cons] at hparts
      simp [String.toList_append] at hparts
  cases state with
  | none =>
    cases state' with
    | none => rw [partsAfter_parameter_inj h]
    | some s' => exact absurd h.symm (hother s' _ option)
  | some s =>
    cases state' with
    | none => exact absurd h (hother s _ option')
    | some s' =>
      have hparts := String.toList_injective (List.cons.inj h).2
      obtain ⟨hstate, hoption⟩ :=
        Text.joinWith_comma_cons_inj (hplain s) (hplain s') hparts
      exact congrArg₂ List.cons hstate
        (congrArg (parameter "option") (partsAfter_parameter_inj hoption))

/-- Of one action on one pluggable database, the parameters are told. They are
not if a database is plugged in, where a comma in the name of the file may begin
the next parameter. -/
theorem told_eq_iff (plugs : request.action ≠ .plug)
    (same : request.action = other.action)
    (name : request.pdbName = other.pdbName) :
    request.told = other.told ↔ request.AgreesWith other := by
  rw [← parameters_eq_iff same]
  constructor
  · intro h
    have hlist := congrArg String.toList h
    unfold told at hlist
    rw [Text.toList_joinWith_cons, Text.toList_joinWith_cons, name] at hlist
    have hafter := List.append_cancel_left hlist
    unfold parameters at hafter ⊢
    rw [← same] at hafter ⊢
    cases haction : request.action with
    | plug => exact absurd haction plugs
    | create | map => rfl
    | clone | unplug | delete =>
      rw [haction] at hafter
      exact congrArg (parameter _) (partsAfter_parameter_inj hafter)
    | modify =>
      rw [haction] at hafter
      exact partsAfter_modify_inj hafter
  · intro h
    unfold told
    rw [name, h]

/-- The body of an action that makes nothing says no more than its signature. -/
theorem actionBody_eq_of_agreesWith
    (makes : request.action.isProvisioning = false)
    (same : request.action = other.action) (agrees : request.AgreesWith other) :
    Gateway.actionBody request = Gateway.actionBody other := by
  unfold AgreesWith at agrees
  unfold Gateway.actionBody Gateway.actionFields
  rw [← same]
  cases haction : request.action with
  | create | clone | plug =>
    rw [haction] at makes
    cases makes
  | map => rfl
  | unplug =>
    rw [haction] at agrees
    show Json.ofPresent _ = Json.ofPresent _
    rw [show request.xmlFileName = other.xmlFileName from agrees]
  | modify =>
    rw [haction] at agrees
    obtain ⟨hstate, hoption⟩ := agrees
    show Json.ofPresent _ = Json.ofPresent _
    rw [hstate, hoption]
  | delete =>
    rw [haction] at agrees
    show Json.ofPresent _ = Json.ofPresent _
    rw [show request.dropAction = other.dropAction from agrees]

end PdbRequest

/-! ## Calls -/

/-- Two calls ask the remote for the same: they are one call, or they carry out
one action on one pluggable database with one body. -/
inductive RemoteCall.AsksSame : RemoteCall → RemoteCall → Prop where
  | same {call : RemoteCall} : AsksSame call call
  | requested {request other : PdbRequest}
      (action : request.action = other.action)
      (name : request.pdbName = other.pdbName)
      (body : Gateway.actionBody request = Gateway.actionBody other) :
      AsksSame request.call other.call

/-- What a gateway makes of a call: what is exchanged, and the object that is
reported in the end. -/
def Gateway.Service.outcome (s : Gateway.Service) (call : RemoteCall) :
    HttpProgram (Except RemoteError (Option Snapshot)) :=
  (fun answer => answer.map call.reported) <$> s.perform call

/-- To a gateway, requests that make nothing are the same if they agree in the
action, the name and the body. -/
theorem Gateway.Service.outcome_eq (s : Gateway.Service)
    {request other : PdbRequest} (makes : request.action.isProvisioning = false)
    (action : request.action = other.action)
    (name : request.pdbName = other.pdbName)
    (body : Gateway.actionBody request = Gateway.actionBody other) :
    s.outcome request.call = s.outcome other.call := by
  unfold Gateway.Service.outcome PdbRequest.call
  rw [← action]
  cases haction : request.action with
  | create | clone | plug =>
    rw [haction] at makes
    cases makes
  | map =>
    show _ <$> s.map request = _ <$> s.map other
    unfold Gateway.Service.map
    rw [name]
    rfl
  | unplug | delete =>
    show _ <$> s.remove _ request = _ <$> s.remove _ other
    unfold Gateway.Service.remove
    rw [name, body]
    rfl
  | modify =>
    show _ <$> s.change .post _ _ _ = _ <$> s.change .post _ _ _
    rw [name, body]
    rfl

namespace CorrectiveAction

/-- The action makes nothing: it works on an object that is there, on the
pluggable database of the given name if it is a request for one, and brings it
into a state that may be asked for if it changes that. -/
def WorksOn (name : String) : CorrectiveAction → Prop
  | provision => False
  | changeState target => target.isLegalTarget = true
  | pdb request =>
    request.pdbName = name ∧ request.action.isProvisioning = false
  | bind _ | updateAttributes _ | delete _ => True

/-- Where an action makes nothing, its signature tells the call that carries it
out. -/
theorem asksSame_of_signature_eq {name : String} {a b : CorrectiveAction}
    (works : a.WorksOn name) (works' : b.WorksOn name)
    (h : a.signature = b.signature) (p q : Pass) (identity : Option String)
    (c d : Pass.Credentials) :
    Option.Rel RemoteCall.AsksSame (p.callOf identity a c)
      (q.callOf identity b d) := by
  have hsame : ∀ call : String → RemoteCall,
      Option.Rel RemoteCall.AsksSame (identity.map call)
        (identity.map call) := by
    intro call
    cases identity with
    | none => exact .none
    | some id => exact .some .same
  cases signature_eq_iff.mp h with
  | provision => exact works.elim
  | bind => exact .some .same
  | updateAttributes => exact hsame _
  | changeState written =>
    obtain rfl := LifecycleState.eq_of_text_eq works works' written
    exact hsame _
  | delete => exact hsame _
  | @pdb request other action told =>
    obtain ⟨hname, hmakes⟩ := works
    obtain ⟨hname', -⟩ := works'
    have hplug : request.action ≠ .plug := by
      intro hplug
      rw [hplug] at hmakes
      cases hmakes
    have hpdb : request.pdbName = other.pdbName := hname.trans hname'.symm
    have hagrees := (PdbRequest.told_eq_iff hplug action hpdb).mp told
    have hbody := PdbRequest.actionBody_eq_of_agreesWith hmakes action hagrees
    have hsent :
        Gateway.actionBody (request.withCredentials c.adminName c.adminPassword)
          = Gateway.actionBody
            (other.withCredentials d.adminName d.adminPassword) := by
      rw [Gateway.actionBody_withCredentials,
        Gateway.actionBody_withCredentials]
      exact hbody
    have hasks : RemoteCall.AsksSame
      (request.withCredentials c.adminName c.adminPassword).call
      (other.withCredentials d.adminName d.adminPassword).call :=
        .requested action hpdb hsent
    exact .some hasks

/-- **Signatures tell actions apart.** Two actions that make nothing, on one
pluggable database if they are requests, have the same signature only if they
ask the remote for the same, whatever texts they hold. And any action is known
by its signature to make an object exactly if it does. -/
theorem signatures_tell_calls :
    (∀ name a b, WorksOn name a → WorksOn name b → a.signature = b.signature →
      ∀ (p q : Pass) (identity : Option String) (c d : Pass.Credentials),
        Option.Rel RemoteCall.AsksSame (p.callOf identity a c)
          (q.callOf identity b d))
    ∧ ∀ action : CorrectiveAction,
      isCreateSignature action.signature = true ↔ action.createsObject = true := by
  refine ⟨fun name a b works works' => asksSame_of_signature_eq works works',
    fun action => ?_⟩
  rw [isCreateSignature_signature]

/-- A request with an option that reads like further parameters. -/
def oddRequest : PdbRequest where
  action := .modify
  pdbName := "sales"
  modifyOption := some "IMMEDIATE,state=OPEN,\"option\"=\n"

/-- The same request with a size. -/
def sizedOddRequest : PdbRequest :=
  { oddRequest with totalSize := some "2G" }

/-- Such an option is no obstacle: the two requests ask for the same, though one
names a size that the other does not. -/
theorem signatures_tell_calls_odd_option :
    oddRequest ≠ sizedOddRequest
      ∧ (pdb oddRequest).signature = (pdb sizedOddRequest).signature
      ∧ ∀ (p q : Pass) (c d : Pass.Credentials),
          Option.Rel RemoteCall.AsksSame (p.callOf none (pdb oddRequest) c)
            (q.callOf none (pdb sizedOddRequest) d) := by
  have hsignature : (pdb oddRequest).signature
    = (pdb sizedOddRequest).signature := by decide +kernel
  have hworks : WorksOn "sales" (pdb oddRequest) := ⟨rfl, rfl⟩
  have hworks' : WorksOn "sales" (pdb sizedOddRequest) := ⟨rfl, rfl⟩
  exact ⟨by decide, hsignature, fun p q =>
    signatures_tell_calls.1 "sales" _ _ hworks hworks' hsignature p q none⟩

end CorrectiveAction

end DatabaseOperator
