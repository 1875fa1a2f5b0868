import DatabaseOperator.Lifecycle.Precondition
import DatabaseOperator.Resource

/-!
# Drift

What a resource declares against what was observed, and the one thing to do next
about the difference.

- `CorrectiveAction`: one unit of work on the remote.
- `CorrectiveAction.kind`: its row in the table of preconditions.
- `CorrectiveAction.signature`: the text by which the same action is recognised
  in a later pass.
- `ManagedResource.nextAction?`: the action for a resource and the status of
  this pass. Deletion comes before making or binding an object, that before its
  state, its attributes and at last the one-shot actions.
-/

namespace DatabaseOperator

/-- One unit of work on the remote. -/
inductive CorrectiveAction where
  | provision
  | bind (identity : String)
  | updateAttributes (changes : RemoteAttributes)
  | changeState (target : LifecycleState)
  | delete (hard : Bool)
  | pdb (request : PdbRequest)
deriving DecidableEq

namespace CorrectiveAction

/-- The kind of an action. -/
def kind : CorrectiveAction → ActionKind
  | provision => .provision
  | bind _ => .bind
  | updateAttributes _ => .updateAttributes
  | changeState target => .changeState target
  | delete _ => .delete
  | pdb request => .pdb request.action

/-- The text by which an action is recognised again. -/
def signature : CorrectiveAction → String
  | provision => "Provision"
  | bind identity => "Bind:" ++ identity
  | updateAttributes changes => "UpdateAttributes:" ++ changes.toJson.render
  | changeState target => "ChangeState:" ++ target.text
  | delete true => "Delete:hard"
  | delete false => "Delete:soft"
  | pdb request => request.signature

/-- A lost answer to the action could leave an object that nobody keeps track
of. -/
def createsObject : CorrectiveAction → Bool
  | provision => true
  | pdb request => request.action.isProvisioning
  | _ => false

/-- The phase while an action is under way. -/
def phase : CorrectiveAction → Phase
  | provision | bind _ => .provisioning
  | pdb request =>
    if request.action.givesIdentity then .provisioning else .updating
  | delete _ => .deleting
  | updateAttributes _ | changeState _ => .updating

end CorrectiveAction

/-- A signature belongs to an action that makes an object. -/
def isCreateSignature (signature : String) : Bool :=
  signature == "Provision" || Text.hasStart "Create:" signature
    || Text.hasStart "Clone:" signature
    || Text.hasStart "Plug:" signature

/-- A signature belongs to the adoption of an object. -/
def isBindSignature (signature : String) : Bool :=
  Text.hasStart "Bind:" signature

/-- A signature belongs to a pluggable database being taken out of its
container. -/
def isUnplugSignature (signature : String) : Bool :=
  Text.hasStart "Unplug:" signature

/-- A signature belongs to the removal of an object. -/
def isDeleteSignature (signature : String) : Bool :=
  Text.hasStart "Delete:" signature

namespace ManagedResource

/-- The action for a resource that has no remote object yet. -/
def firstAction? (r : ManagedResource) : Option CorrectiveAction :=
  match r.pdbRequest.filter fun request => request.action.givesIdentity with
  | some request => some (.pdb request)
  | none =>
    match r.adoptIdentity with
    | some identity => some (.bind identity)
    | none => if r.canProvision then some .provision else none

/-- The wanted state, if it may be asked for and the object is neither in it nor
on its way there. A state that has not been observed gives no cause to act. -/
def stateAction? (r : ManagedResource) (s : Status) : Option CorrectiveAction :=
  match r.desiredState, s.lifecycleState with
  | some desired, some current =>
    if desired.isLegalTarget
      && (current != desired && !current.convergesTo desired) then
      some (.changeState desired)
    else none
  | _, _ => none

/-- The declared attributes that differ from the last confirmed ones. -/
def attributesAction? (r : ManagedResource) (s : Status) :
    Option CorrectiveAction :=
  let changes := r.desiredAttributes.changesFrom (s.snapshot.getD {})
  if changes.isEmpty then none else some (.updateAttributes changes)

/-- The requested one-shot action on a pluggable database that exists, unless it
is the last that was completed. -/
def oneShotAction? (r : ManagedResource) (s : Status) :
    Option CorrectiveAction :=
  match r.pdbRequest with
  | some request =>
    if request.action.givesIdentity
      || s.lastCompletedAction == some request.signature then none
    else some (.pdb request)
  | none => none

/-- The one action to take next, if any. An object that has come to an end is
left alone. -/
def nextAction? (r : ManagedResource) (s : Status) : Option CorrectiveAction :=
  if r.deletionRequested then some (.delete r.hardLink)
  else if s.identity.isNone then r.firstAction?
  else if s.lifecycleState.any LifecycleState.isTerminal then none
  else r.stateAction? s <|> r.attributesAction? s <|> r.oneShotAction? s

end ManagedResource

end DatabaseOperator
