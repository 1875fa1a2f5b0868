import DatabaseOperator.Lifecycle.Rule
import DatabaseOperator.Pluggable.Request

/-!
# Preconditions of actions

The remote owns its states; this table only says, for each action that changes
something, on which observations it may be sent. An action whose precondition
does not hold waits, instead of provoking a conflict on the remote.

- `ActionKind`: the kinds of action, the keys of the table.
- `Precondition`: a row of the table; `Precondition.table` is the whole of it.
- `Precondition.check`: an action against what is known.
- `Precondition.allowedActions`: every action that may be sent.
-/

namespace DatabaseOperator

/-- The kinds of action that change something on the remote. -/
inductive ActionKind where
  | provision
  | bind
  | updateAttributes
  | changeState (target : LifecycleState)
  | delete
  | pdb (action : PdbAction)
deriving DecidableEq, Repr

/-- The name of a kind of action. -/
def ActionKind.text : ActionKind → String
  | provision => "Provision"
  | bind => "Bind"
  | updateAttributes => "UpdateAttributes"
  | changeState target => "ChangeState(" ++ target.text ++ ")"
  | delete => "Delete"
  | pdb action => "Pdb(" ++ action.text ++ ")"

/-- A row of the table: an action, when it may be sent, and what it does. -/
structure Precondition where
  action : ActionKind
  rule : StateRule
  description : String
deriving DecidableEq, Repr

/-- An action against what is known: its rule holds, its rule does not hold, or
it can never be sent. -/
inductive PreconditionCheck where
  | met
  | unmet (expected : StateRule)
  | noRule
deriving DecidableEq, Repr

namespace Precondition

/-- The states in which a pluggable database takes actions. -/
def openStates : StateRule :=
  .anyOf [.available, .mounted]

/-- Every state but those of an object that is going or gone. -/
def notTerminating : StateRule :=
  .anyExcept [.terminating, .terminated]

/-- The table: first what creates or adopts an object, then what changes a live
one, then what removes it. -/
def table : List Precondition :=
  [⟨.provision, .absent,
    "Create a remote database for an unidentified resource"⟩,
    ⟨.bind, .absent, "Adopt an existing remote object by identifier"⟩,
    ⟨.pdb .create, .absent, "Create a new PDB in the CDB"⟩,
    ⟨.pdb .clone, .absent, "Clone a PDB from a source PDB"⟩,
    ⟨.pdb .plug, .absent, "Plug a PDB from its manifest"⟩,
    ⟨.pdb .map, .absent, "Map an existing PDB onto this resource"⟩,
    ⟨.updateAttributes, .anyOf [.available],
      "Attributes can only be updated on an available database"⟩,
    ⟨.changeState .available, .anyOf [.stopped], "Start a stopped database"⟩,
    ⟨.changeState .stopped, .anyOf [.available], "Stop an available database"⟩,
    ⟨.pdb .modify, openStates, "Open or close a PDB"⟩,
    ⟨.pdb .unplug, openStates, "Unplug a PDB to its manifest"⟩,
    ⟨.pdb .delete, notTerminating, "Drop a PDB"⟩,
    ⟨.delete, notTerminating,
      "Terminate the remote object unless it is already going away"⟩]

/-- The row of an action. -/
def find? (action : ActionKind) : Option Precondition :=
  table.find? fun row => row.action == action

/-- An action checked against what is known of the remote object. -/
def check (action : ActionKind) (identity : Option String)
    (observed : Option LifecycleState) : PreconditionCheck :=
  match find? action with
  | none => .noRule
  | some row =>
    if row.rule.holds identity observed then .met else .unmet row.rule

/-- The actions that may be sent, in the order of the table. -/
def allowedActions (identity : Option String)
    (observed : Option LifecycleState) : List ActionKind :=
  (table.filter fun row => row.rule.holds identity observed).map
    Precondition.action

/-! ## Small facts -/

theorem check_eq_met_iff {action : ActionKind} {identity : Option String}
    {observed : Option LifecycleState} :
    check action identity observed = .met
      ↔ ∃ row, find? action = some row ∧ row.rule.holds identity observed := by
  unfold check
  cases find? action with
  | none => simp
  | some row => by_cases h : row.rule.holds identity observed <;> simp [h]

theorem mem_table_of_find? {action : ActionKind} {row : Precondition}
    (h : find? action = some row) : row ∈ table ∧ row.action = action :=
  ⟨List.mem_of_find?_eq_some h, by simpa using List.find?_some h⟩

end Precondition

end DatabaseOperator
