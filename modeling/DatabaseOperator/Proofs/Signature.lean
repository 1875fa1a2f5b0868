import DatabaseOperator.Drift

/-!
# Signatures of actions that make or remove an object

The mark of an action under way is a text, and what is known of the action later
is what can be read from that text.

- `isCreateSignature_append`: no text with another head passes for the signature
  of an action that makes an object.
- `CorrectiveAction.isCreateSignature_signature`: the signatures that pass are
  those of the actions that make one.
- `removedState?`, `PdbRequest.removedState?_signature`: what a signature says
  of an object that is gone.
-/

namespace DatabaseOperator

/-- Two texts that differ in the part they share do not start alike. -/
theorem hasStart_append_eq_false {start head tail : String}
    (h :
      (start.toList.take head.toList.length).isPrefixOf head.toList = false) :
    Text.hasStart start (head ++ tail) = false := by
  rw [Bool.eq_false_iff] at h ⊢
  intro hstart
  apply h
  unfold Text.hasStart at hstart
  rw [String.toList_append, List.isPrefixOf_iff_prefix] at hstart
  rw [List.isPrefixOf_iff_prefix]
  obtain ⟨rest, hrest⟩ := hstart
  -- either `start` ends within the head, or the head ends within `start`
  rcases List.append_eq_append_iff.mp hrest with ⟨more, hhead, -⟩
    | ⟨more, hstart, -⟩
  · rw [hhead, List.take_of_length_le (by simp)]
    exact List.prefix_append _ _
  · have htake : start.toList.take head.toList.length = head.toList := by
      rw [hstart, List.take_left]
    exact ⟨[], by rw [htake, List.append_nil]⟩

theorem hasStart_append_self (start tail : String) :
    Text.hasStart start (start ++ tail) = true := by
  unfold Text.hasStart
  rw [String.toList_append, List.isPrefixOf_iff_prefix]
  exact List.prefix_append _ _

/-- A text is not the signature of an action that makes an object if its head is
none of theirs. -/
theorem isCreateSignature_append {head tail : String}
    (hprovision : head.toList.isPrefixOf "Provision".toList = false)
    (hothers : ∀ start ∈ ["Create:", "Clone:", "Plug:"],
      (start.toList.take head.toList.length).isPrefixOf head.toList = false) :
    isCreateSignature (head ++ tail) = false := by
  have hne : (head ++ tail == "Provision") = false := by
    rw [beq_eq_false_iff_ne]
    intro heq
    rw [← heq, String.toList_append, Bool.eq_false_iff] at hprovision
    exact hprovision (List.isPrefixOf_iff_prefix.mpr (List.prefix_append _ _))
  unfold isCreateSignature
  rw [hne, hasStart_append_eq_false (hothers "Create:" (by simp)),
    hasStart_append_eq_false (hothers "Clone:" (by simp)),
    hasStart_append_eq_false (hothers "Plug:" (by simp))]
  rfl

/-- The first part of a joined text stands at its beginning. -/
theorem joinWith_cons (separator head : String) (rest : List String) :
    ∃ tail, Text.joinWith separator (head :: rest) = head ++ tail := by
  cases rest with
  | nil => exact ⟨"", (String.append_empty).symm⟩
  | cons next rest =>
    exact ⟨separator ++ Text.joinWith separator (next :: rest),
      String.append_assoc ..⟩

/-- The signature of a request on a pluggable database begins with the name of
the action. -/
theorem PdbRequest.signature_eq (request : PdbRequest) :
    ∃ tail, request.signature = (request.action.text ++ ":") ++ tail := by
  obtain ⟨tail, h⟩ :=
    joinWith_cons "," (request.action.text ++ ":" ++ request.pdbName)
      request.parameters
  exact ⟨request.pdbName ++ tail, h.trans (String.append_assoc ..)⟩

namespace CorrectiveAction

/-- By its signature an action is known to make an object exactly if it does. -/
theorem isCreateSignature_signature (action : CorrectiveAction) :
    isCreateSignature action.signature = action.createsObject := by
  cases action with
  | provision => rfl
  | bind identity => exact isCreateSignature_append (by decide) (by decide)
  | updateAttributes changes =>
    exact isCreateSignature_append (by decide) (by decide)
  | changeState target => exact isCreateSignature_append (by decide) (by decide)
  | delete hard => cases hard <;> decide
  | pdb request =>
    obtain ⟨tail, h⟩ := request.signature_eq
    show isCreateSignature request.signature = request.action.isProvisioning
    -- the name of the action decides, whatever the tail is
    rw [h]
    cases request.action with
    | create | clone | plug =>
      unfold isCreateSignature
      simp [PdbAction.text, PdbAction.isProvisioning, hasStart_append_self]
    | unplug | delete | modify | map =>
      exact isCreateSignature_append (by decide) (by decide)

end CorrectiveAction

/-! ## Objects that were removed -/

/-- The state of an object that was removed by the action with a signature, if
such actions remove objects. -/
def removedState? (signature : String) : Option LifecycleState :=
  if isUnplugSignature signature then some .unplugged
  else if isDeleteSignature signature then some .terminated
  else none

theorem removedState?_cases {signature : String} {state : LifecycleState}
    (h : removedState? signature = some state) :
    state = .unplugged ∨ state = .terminated := by
  unfold removedState? at h
  split at h
  next =>
    cases h
    exact .inl rfl
  next =>
    split at h
    next =>
      cases h
      exact .inr rfl
    next => cases h

theorem isSome_removedState? (signature : String) :
    (removedState? signature).isSome
      = (isDeleteSignature signature || isUnplugSignature signature) := by
  unfold removedState?
  cases isUnplugSignature signature <;> cases isDeleteSignature signature
    <;> rfl

/-- The state in which an action leaves a pluggable database, if it removes
it. -/
def PdbAction.removedState? : PdbAction → Option LifecycleState
  | unplug => some .unplugged
  | delete => some .terminated
  | create | clone | plug | modify | map => none

namespace PdbRequest

/-- By its signature a request is known to remove a pluggable database exactly
if it does. -/
theorem removedState?_signature (request : PdbRequest) :
    DatabaseOperator.removedState? request.signature
      = request.action.removedState? := by
  obtain ⟨tail, h⟩ := request.signature_eq
  rw [h]
  unfold DatabaseOperator.removedState? isUnplugSignature isDeleteSignature
  cases request.action with
  | unplug =>
    simp [PdbAction.text, PdbAction.removedState?, hasStart_append_self]
  | delete =>
    have hother : Text.hasStart "Unplug:" (PdbAction.delete.text ++ ":" ++ tail)
        = false :=
      hasStart_append_eq_false (by decide)
    simp only [hother]
    simp [PdbAction.text, PdbAction.removedState?, hasStart_append_self]
  | create | clone | plug | modify | map =>
    rw [hasStart_append_eq_false (by decide),
      hasStart_append_eq_false (by decide)]
    rfl

/-- No request for a pluggable database passes for the adoption of an object. -/
theorem isBindSignature_signature (request : PdbRequest) :
    isBindSignature request.signature = false := by
  obtain ⟨tail, h⟩ := request.signature_eq
  rw [h]
  unfold isBindSignature
  cases request.action <;> exact hasStart_append_eq_false (by decide)

end PdbRequest

end DatabaseOperator
