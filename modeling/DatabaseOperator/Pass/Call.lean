import DatabaseOperator.OperatorError
import DatabaseOperator.Program
import DatabaseOperator.Remote.Call
import DatabaseOperator.Status.Basic

/-!
# The calls of a pass

A pass talks to a remote control plane and to the store that keeps the resource
and its Secrets.

- `StoreCall`: the calls to the store.
- `PassCall`: the calls to either.
- `PassProgram`: a computation that makes such calls. A remote call is answered,
  fails or hangs; a store call is answered or fails.
-/

namespace DatabaseOperator

/-- The calls to the store of a resource. -/
inductive StoreCall where
  | saveStatus (status : Status)
  | releaseFinalizer
  | readSecret (name key : String)
  | secretHasData (name : String)
  | writeSecret (name : String) (data : Dict ByteArray)

namespace StoreCall

/-- What a call answers when it succeeds. -/
@[reducible] def Answer : StoreCall → Type
  | saveStatus _ | releaseFinalizer | writeSecret _ _ => Unit
  | readSecret _ _ => String
  | secretHasData _ => Bool

/-- The name of a call. -/
def name : StoreCall → String
  | saveStatus _ => "save_status"
  | releaseFinalizer => "release_finalizer"
  | readSecret _ _ => "read_secret"
  | secretHasData _ => "secret_has_data"
  | writeSecret _ _ => "write_secret"

/-- What a call carries. -/
def arguments : StoreCall → Json
  | saveStatus status => status.toJson
  | releaseFinalizer => .null
  | readSecret name key => .array [.string name, .string key]
  | secretHasData name => .string name
  | writeSecret name data =>
    .array
      [.string name,
        .ofTexts (data.map fun bytes => (String.fromUTF8? bytes).getD "")]

/-- A call by its name and what it carries, as logs show it. -/
def toJson (c : StoreCall) : Json :=
  .array [.string c.name, c.arguments]

end StoreCall

/-- The calls that a pass makes. -/
inductive PassCall where
  | remote (call : RemoteCall)
  | store (call : StoreCall)

/-- What becomes of a call. -/
@[reducible] def PassCall.Answer : PassCall → Type
  | remote call => Reply call.Answer
  | store call => Except OperatorError call.Answer

/-- A computation that calls the remote and the store. -/
abbrev PassProgram (α : Type) : Type :=
  Program PassCall PassCall.Answer α

/-- A call to the store. -/
def askStore (call : StoreCall) :
    PassProgram (Except OperatorError call.Answer) :=
  Program.query (PassCall.store call)

/-- A call to the remote. One that hangs counts as a transient failure with a
message. -/
def askRemote (timeout : String) (call : RemoteCall) :
    PassProgram (Except RemoteError call.Answer) :=
  .ask (.remote call) fun reply => .done (Reply.settle timeout reply)

end DatabaseOperator
