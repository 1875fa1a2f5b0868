import DatabaseOperator.Proofs.Attributes
import DatabaseOperator.Proofs.Json.Unambiguity
import DatabaseOperator.Proofs.NextAction
import DatabaseOperator.Proofs.Pass.Sending

/-!
# Actions that look the same

Across passes an action is known by its signature, and not everything that is
sent for an action goes into that. An update is known by all of its changes, a
change of state by the state. But the creation of a database is known as nothing
more, whatever the attributes are, and a request for a pluggable database by its
name and a few of its parameters.

- `CorrectiveAction.Resembles`: the actions that one signature stands for.
- `CorrectiveAction.signature_eq_iff`: they are those, and no others.
- `RemoteCall.Alike`: calls that are the same for all that a signature tells,
  though they need not be the same.
- `PdbRequest.alike_call_iff`: what that leaves open in a request for a
  pluggable database.
- `Pass.alike_iff_of_callOf`: calls on one object are alike exactly if the
  signatures agree.
-/

namespace DatabaseOperator

/-! ## Requests for pluggable databases -/

namespace PdbRequest

/-- What the signature of a request tells beside the action: the pluggable
database, and some of the parameters. -/
def told (request : PdbRequest) : String :=
  Text.joinWith "," (request.pdbName :: request.parameters)

theorem signature_eq_told (request : PdbRequest) :
    request.signature = request.action.text ++ ":" ++ request.told := by
  unfold signature told
  cases request.parameters with
  | nil => rfl
  | cons parameter rest => simp [Text.joinWith, String.append_assoc]

/-- The parameters of two requests that go into their signatures agree, if both
are for the first one's action. -/
def AgreesWith (request other : PdbRequest) : Prop :=
  match request.action with
  | .create | .map => True
  | .clone => request.srcPdbName = other.srcPdbName
  | .plug =>
    request.xmlFileName = other.xmlFileName
      ∧ request.copyAction = other.copyAction
  | .unplug => request.xmlFileName = other.xmlFileName
  | .modify =>
    request.pdbState = other.pdbState
      ∧ request.modifyOption = other.modifyOption
  | .delete => request.dropAction = other.dropAction

/-- The texts that go into the signature hold no comma, which is what separates
them. -/
def IsPlain (request : PdbRequest) : Prop :=
  ∀ part ∈ request.pdbName :: request.parameters, Text.Plain part

theorem parameter_inj {name : String} {value value' : Option String}
    (h : parameter name value = parameter name value') : value = value' := by
  cases value with
  | none =>
    cases value' with
    | none => rfl
    | some => cases h
  | some v =>
    cases value' with
    | none => cases h
    | some v' =>
      have hlist := congrArg String.toList (List.cons.inj h).1
      simp only [String.toList_append] at hlist
      rw [String.toList_injective (List.append_cancel_left hlist)]

/-- Two parameters are told from each other by their names. -/
theorem parameter_append_inj {name other : String}
    (differ : ∀ v w, name ++ "=" ++ v ≠ other ++ "=" ++ w)
    {x x' y y' : Option String}
    (h : parameter name x ++ parameter other y
      = parameter name x' ++ parameter other y') : x = x' ∧ y = y' := by
  have hdiffer :
      ∀ v w rest, (name ++ "=" ++ v) :: rest ≠ parameter other w := by
    intro v w rest h
    cases w with
    | none => cases h
    | some w => exact differ v w (List.cons.inj h).1
  cases x with
  | none =>
    cases x' with
    | none => exact ⟨rfl, parameter_inj h⟩
    | some v' => exact absurd h.symm (hdiffer v' y _)
  | some v =>
    cases x' with
    | none => exact absurd h (hdiffer v y' _)
    | some v' =>
      obtain ⟨hfirst, hrest⟩ := List.cons.inj h
      have hvalue : parameter name (some v) = parameter name (some v') :=
        congrArg (fun part => [part]) hfirst
      exact ⟨parameter_inj hvalue, parameter_inj hrest⟩

theorem parameters_eq_iff {request other : PdbRequest}
    (same : request.action = other.action) :
    request.parameters = other.parameters ↔ request.AgreesWith other := by
  -- two parameters that are both left out at will have different names, so that
  -- one is not taken for the other
  have hxml : ∀ v w : String, "xml" ++ "=" ++ v ≠ "copy" ++ "=" ++ w := by
    intro v w h
    simpa using congrArg String.toList h
  have hstate : ∀ v w : String, "state" ++ "=" ++ v ≠ "option" ++ "=" ++ w := by
    intro v w h
    simpa using congrArg String.toList h
  -- states and kinds of removal are told by their words
  have hopen : Function.Injective PdbState.text := by
    intro a b h
    cases a <;> cases b <;> first | rfl | exact absurd h (by decide)
  have hdrop : Function.Injective DropAction.text := by
    intro a b h
    cases a <;> cases b <;> first | rfl | exact absurd h (by decide)
  unfold parameters AgreesWith
  rw [← same]
  cases request.action with
  | create | map => simp
  | clone | unplug =>
    constructor
    · exact parameter_inj
    · intro h
      simp only [h]
  | plug =>
    constructor
    · exact parameter_append_inj hxml
    · rintro ⟨hfile, hcopy⟩
      simp only [hfile, hcopy]
  | modify =>
    constructor
    · intro h
      obtain ⟨hvalue, hoption⟩ := parameter_append_inj hstate h
      exact ⟨Option.map_injective hopen hvalue, hoption⟩
    · rintro ⟨hvalue, hoption⟩
      simp only [hvalue, hoption]
  | delete =>
    constructor
    · intro h
      exact hdrop (Option.some.inj (parameter_inj h))
    · intro h
      simp only [h]

/-- The signatures of two requests agree if the action, the pluggable database
and the parameters that go into them agree, provided that no commas get in the
way. -/
theorem told_eq_iff_of_plain {request other : PdbRequest}
    (plain : request.IsPlain) (plain' : other.IsPlain)
    (same : request.action = other.action) :
    request.told = other.told
      ↔ request.pdbName = other.pdbName ∧ request.AgreesWith other := by
  rw [← parameters_eq_iff same]
  constructor
  · exact Text.joinWith_comma_inj plain plain'
  · rintro ⟨hname, hparameters⟩
    unfold told
    rw [hname, hparameters]

end PdbRequest

/-! ## Actions -/

namespace CorrectiveAction

/-- Two actions look the same. -/
inductive Resembles : CorrectiveAction → CorrectiveAction → Prop where
  | provision : Resembles .provision .provision
  | bind {identity : String} : Resembles (.bind identity) (.bind identity)
  | updateAttributes {changes : RemoteAttributes} :
      Resembles (.updateAttributes changes) (.updateAttributes changes)
  | changeState {target other : LifecycleState}
      (written : target.text = other.text) :
      Resembles (.changeState target) (.changeState other)
  | delete {hard : Bool} : Resembles (.delete hard) (.delete hard)
  | pdb {request other : PdbRequest} (action : request.action = other.action)
      (told : request.told = other.told) : Resembles (.pdb request) (.pdb other)

/-- What a signature begins with. -/
def label : CorrectiveAction → String
  | provision => "Provision"
  | bind _ => "Bind"
  | updateAttributes _ => "UpdateAttributes"
  | changeState _ => "ChangeState"
  | delete _ => "Delete"
  | pdb request => request.action.text

/-- What follows the colon of a signature. The creation of a database has
none. -/
def detail? : CorrectiveAction → Option String
  | provision => none
  | bind identity => some identity
  | updateAttributes changes => some changes.toJson.render
  | changeState target => some target.text
  | delete true => some "hard"
  | delete false => some "soft"
  | pdb request => some request.told

/-- The colon of a signature and what follows it, if there is one. -/
def afterColon : Option String → List Char
  | none => []
  | some detail => ':' :: detail.toList

theorem afterColon_injective : Function.Injective afterColon := by
  intro x y h
  cases x with
  | none =>
    cases y with
    | none => rfl
    | some => cases h
  | some detail =>
    cases y with
    | none => cases h
    | some detail' => rw [String.toList_injective (List.cons.inj h).2]

theorem toList_signature (action : CorrectiveAction) :
    action.signature.toList
      = action.label.toList ++ afterColon action.detail? := by
  have hcolon : ∀ start detail : String,
      (start ++ ":" ++ detail).toList
        = start.toList ++ ':' :: detail.toList := by
    intro start detail
    rw [String.append_assoc, String.toList_append, String.toList_append]
    rfl
  cases action with
  | provision => rfl
  | bind identity => exact hcolon "Bind" identity
  | updateAttributes changes =>
    exact hcolon "UpdateAttributes" changes.toJson.render
  | changeState target => exact hcolon "ChangeState" target.text
  | delete hard => cases hard <;> rfl
  | pdb request =>
    show request.signature.toList
      = request.action.text.toList ++ ':' :: request.told.toList
    rw [request.signature_eq_told]
    exact hcolon request.action.text request.told

/-- A signature falls into two at its first colon. -/
theorem signature_eq_iff_parts {a b : CorrectiveAction} :
    a.signature = b.signature ↔ a.label = b.label ∧ a.detail? = b.detail? := by
  -- no label has a colon in it
  have htext :
      ∀ kind : PdbAction, ∀ c ∈ kind.text.toList, (c != ':') = true := by
    intro kind
    refine List.all_eq_true.mp ?_
    cases kind <;> decide
  have hrun : ∀ action : CorrectiveAction, ∀ c ∈ action.label.toList,
      (c != ':') = true := by
    intro action
    cases action with
    | pdb request => exact htext request.action
    | provision | bind _ | updateAttributes _ | changeState _ | delete _ =>
      simp [label]
  -- what follows a label begins with one
  have hstops : ∀ detail, Text.Stops (· != ':') (afterColon detail) := by
    intro detail
    cases detail with
    | none => exact Text.stops_nil _
    | some detail => exact Text.stops_cons (by decide) _
  constructor
  · intro h
    have hlist := congrArg String.toList h
    rw [toList_signature, toList_signature] at hlist
    obtain ⟨hlabel, hdetail⟩ :=
      Text.append_inj_of_run (hrun a) (hrun b) (hstops _) (hstops _) hlist
    exact ⟨String.toList_injective hlabel, afterColon_injective hdetail⟩
  · rintro ⟨hlabel, hdetail⟩
    apply String.toList_injective
    rw [toList_signature, toList_signature, hlabel, hdetail]

/-- A request is called like no other action, but for a removal, which is called
like a deletion. -/
theorem label_pdb_eq {request : PdbRequest} {action : CorrectiveAction}
    (h : (pdb request).label = action.label) :
    (∃ other, action = .pdb other ∧ request.action = other.action)
      ∨ request.action = .delete ∧ ∃ hard, action = .delete hard := by
  have htext : Function.Injective PdbAction.text := by
    intro kind kind' h
    cases kind <;> cases kind' <;> first | rfl | exact absurd h (by decide)
  -- the labels of the other actions are no words for requests
  have hother : ∀ kind : PdbAction,
      kind.text ∉ ["Provision", "Bind", "UpdateAttributes", "ChangeState"] := by
    intro kind
    cases kind <;> decide
  cases action with
  | pdb other => exact .inl ⟨other, rfl, htext h⟩
  | delete hard =>
    have hname : request.action.text = PdbAction.delete.text := h
    exact .inr ⟨htext hname, hard, rfl⟩
  | provision | bind _ | updateAttributes _ | changeState _ =>
    refine absurd ?_ (hother request.action)
    rw [show request.action.text = _ from h]
    simp [label]

/-- The removal of a pluggable database looks different from the deletion of a
database: its parameter is set off by a comma. -/
theorem detail?_pdb_ne_delete {request : PdbRequest}
    (h : request.action = .delete) (hard : Bool) :
    (CorrectiveAction.pdb request).detail?
      ≠ (CorrectiveAction.delete hard).detail? := by
  have hcomma : ',' ∈ request.told.toList := by
    unfold PdbRequest.told PdbRequest.parameters
    rw [h]
    simp [PdbRequest.parameter, Text.joinWith, String.toList_append]
  intro hdetail
  cases hard <;> rw [Option.some.inj hdetail] at hcomma
    <;> exact absurd hcomma (by decide)

/-- **What a signature tells.** Two actions have the same signature exactly if
they look the same. -/
theorem signature_eq_iff {a b : CorrectiveAction} :
    a.signature = b.signature ↔ a.Resembles b := by
  rw [signature_eq_iff_parts]
  constructor
  · rintro ⟨hlabel, hdetail⟩
    -- most pairs differ in their labels; a request shares its label with
    -- requests of its kind, and the removal with a deletion, which then differs
    -- in what follows
    cases a with
    | provision =>
      cases b with
      | provision => exact .provision
      | pdb request =>
        obtain ⟨_, h, -⟩ | ⟨-, _, h⟩ := label_pdb_eq hlabel.symm <;> cases h
      | _ => simp [label] at hlabel
    | bind identity =>
      cases b with
      | bind identity' =>
        obtain rfl : identity = identity' := Option.some.inj hdetail
        exact .bind
      | pdb request =>
        obtain ⟨_, h, -⟩ | ⟨-, _, h⟩ := label_pdb_eq hlabel.symm <;> cases h
      | _ => simp [label] at hlabel
    | updateAttributes changes =>
      cases b with
      | updateAttributes changes' =>
        obtain rfl : changes = changes' :=
          RemoteAttributes.toJson_injective
            (Json.render_injective (Option.some.inj hdetail))
        exact .updateAttributes
      | pdb request =>
        obtain ⟨_, h, -⟩ | ⟨-, _, h⟩ := label_pdb_eq hlabel.symm <;> cases h
      | _ => simp [label] at hlabel
    | changeState target =>
      cases b with
      | changeState target' => exact .changeState (Option.some.inj hdetail)
      | pdb request =>
        obtain ⟨_, h, -⟩ | ⟨-, _, h⟩ := label_pdb_eq hlabel.symm <;> cases h
      | _ => simp [label] at hlabel
    | delete hard =>
      cases b with
      | delete hard' =>
        cases hard <;> cases hard' <;> first | exact .delete | simp [detail?]
          at hdetail
      | pdb request =>
        obtain ⟨_, h, -⟩ | ⟨hremoval, -⟩ := label_pdb_eq hlabel.symm
        · cases h
        · exact absurd hdetail.symm (detail?_pdb_ne_delete hremoval hard)
      | _ => simp [label] at hlabel
    | pdb request =>
      obtain ⟨other, rfl, hsame⟩ | ⟨hremoval, hard, rfl⟩ := label_pdb_eq hlabel
      · exact .pdb hsame (Option.some.inj hdetail)
      · exact absurd hdetail (detail?_pdb_ne_delete hremoval hard)
  · intro h
    cases h with
    | provision | bind | updateAttributes | delete => exact ⟨rfl, rfl⟩
    | changeState written => exact ⟨rfl, congrArg some written⟩
    | pdb action told =>
      exact ⟨congrArg PdbAction.text action, congrArg some told⟩

end CorrectiveAction

/-! ## Calls -/

/-- Two calls are alike: they are the same, or make a database both, or are
requests for a pluggable database that look the same. -/
inductive RemoteCall.Alike : RemoteCall → RemoteCall → Prop where
  | same {call : RemoteCall} : Alike call call
  | made {call other : RemoteCall} (makes : call.action? = some .provision)
      (makes' : other.action? = some .provision) : Alike call other
  | requested {request other : PdbRequest}
      (action : request.action = other.action)
      (told : request.told = other.told) : Alike request.call other.call

variable {a b : CorrectiveAction} {call other : RemoteCall}

/-- The actions that alike calls stand for look the same. -/
theorem RemoteCall.Alike.resembles (h : call.Alike other)
    (ha : call.action? = some a) (hb : other.action? = some b) :
    a.Resembles b := by
  cases h with
  | same =>
    rw [ha] at hb
    cases hb
    exact CorrectiveAction.signature_eq_iff.mp rfl
  | made makes makes' =>
    rw [makes] at ha
    rw [makes'] at hb
    cases ha
    cases hb
    exact .provision
  | @requested request request' action told =>
    rw [request.action?_call] at ha
    rw [request'.action?_call] at hb
    cases ha
    cases hb
    exact .pdb action told

/-- Updates are alike only if they make the same changes. -/
theorem RemoteCall.Alike.changes_eq {id id' : String}
    {changes changes' : RemoteAttributes}
    (h : (RemoteCall.update id changes).Alike (.update id' changes')) :
    changes = changes' := by
  cases h.resembles rfl rfl
  rfl

/-- Requests for pluggable databases are alike if they agree in the action, the
name and the few parameters that count, provided that no commas get in the
way. -/
theorem PdbRequest.alike_call_iff {request other : PdbRequest}
    (plain : request.IsPlain) (plain' : other.IsPlain) :
    request.call.Alike other.call
      ↔ request.action = other.action ∧ request.pdbName = other.pdbName
      ∧ request.AgreesWith other := by
  constructor
  · intro h
    cases h.resembles request.action?_call other.action?_call with
    | pdb action told =>
      exact ⟨action, (told_eq_iff_of_plain plain plain' action).mp told⟩
  · rintro ⟨action, agrees⟩
    exact .requested action
      ((told_eq_iff_of_plain plain plain' action).mpr agrees)

/-- A state that may be asked for is told by its text. -/
theorem LifecycleState.eq_of_text_eq {target other : LifecycleState}
    (legal : target.isLegalTarget = true) (legal' : other.isLegalTarget = true)
    (h : target.text = other.text) : target = other := by
  rw [isLegalTarget_iff] at legal legal'
  rcases legal with rfl | rfl <;> rcases legal' with rfl | rfl <;> first
    | rfl | exact absurd h (by decide)

namespace Pass

variable {p q : Pass} {identity identity' : Option String} {c d : Credentials}

theorem action?_provisionCall (p : Pass) (c : Credentials) :
    (p.provisionCall c).action? = some .provision := by
  unfold provisionCall
  split <;> rfl

/-- The calls for two actions, where the second knows the object of the first,
are alike exactly if the actions have the same signature. -/
theorem alike_iff_of_callOf (upkeep : a.IsUpkeep) (upkeep' : b.IsUpkeep)
    (target : p.callOf identity a c = some call)
    (target' : q.callOf identity' b d = some other)
    (known : ∀ id, identity = some id → identity' = some id) :
    call.Alike other ↔ a.signature = b.signature := by
  constructor
  · intro h
    obtain ⟨sent, hsent, -, hsignature⟩ :=
      action?_callOf target upkeep.ne_delete
    obtain ⟨sent', hsent', -, hsignature'⟩ :=
      action?_callOf target' upkeep'.ne_delete
    rw [← hsignature, ← hsignature', CorrectiveAction.signature_eq_iff]
    exact h.resembles hsent hsent'
  · intro h
    cases CorrectiveAction.signature_eq_iff.mp h with
    | provision =>
      cases target
      cases target'
      exact .made (action?_provisionCall p c) (action?_provisionCall q d)
    | bind =>
      cases target
      cases target'
      exact .same
    | updateAttributes =>
      obtain ⟨id, hid, rfl⟩ := Option.map_eq_some_iff.mp target
      obtain ⟨id', hid', rfl⟩ := Option.map_eq_some_iff.mp target'
      rw [known id hid] at hid'
      cases hid'
      exact .same
    | changeState written =>
      obtain rfl := LifecycleState.eq_of_text_eq upkeep upkeep' written
      obtain ⟨id, hid, rfl⟩ := Option.map_eq_some_iff.mp target
      obtain ⟨id', hid', rfl⟩ := Option.map_eq_some_iff.mp target'
      rw [known id hid] at hid'
      cases hid'
      exact .same
    | delete => exact absurd rfl upkeep.ne_delete
    | pdb action told =>
      cases target
      cases target'
      exact .requested action told

end Pass

end DatabaseOperator
