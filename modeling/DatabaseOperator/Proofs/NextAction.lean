import DatabaseOperator.Drift

/-!
# The action that comes next

Which actions can be next depends on whether the remote object is known. Without
it the action leads to an identity, with it the action works on the object.

- `ManagedResource.firstAction?_cases`: the actions of a resource whose object
  is not known.
- `ManagedResource.nextAction?_of_identified`: those of a resource whose object
  is.
- `Status.grounds`: what the next action is chosen by.
- `ManagedResource.AsksAs`: resources that declare the same, and
  `ManagedResource.AsksAs.nextAction?_eq`.
-/

namespace DatabaseOperator

/-- What the next action is chosen by: the object, its state and its attributes
as they are on record, and the action that was completed last. -/
def Status.grounds (s : Status) : Status :=
  { identity := s.identity
    lifecycleState := s.lifecycleState
    snapshot := s.snapshot
    lastCompletedAction := s.lastCompletedAction }

namespace CorrectiveAction

/-- The action may come next for a resource that stays: nothing is deleted, and
no state is asked for that a spec may not ask for. -/
def IsUpkeep : CorrectiveAction → Prop
  | changeState target => target.isLegalTarget = true
  | delete _ => False
  | provision | bind _ | updateAttributes _ | pdb _ => True

theorem IsUpkeep.ne_delete {action : CorrectiveAction} {hard : Bool}
    (h : action.IsUpkeep) : action ≠ .delete hard := by
  rintro rfl
  exact h

end CorrectiveAction

namespace ManagedResource

variable {r : ManagedResource} {s : Status} {action : CorrectiveAction}

theorem stateAction?_cases (h : r.stateAction? s = some action) :
    ∃ target, action = .changeState target := by
  unfold stateAction? at h
  split at h
  next =>
    split at h
    next =>
      cases h
      exact ⟨_, rfl⟩
    next => cases h
  next => cases h

theorem stateAction?_isLegalTarget {target : LifecycleState}
    (h : r.stateAction? s = some (.changeState target)) :
    target.isLegalTarget = true := by
  unfold stateAction? at h
  split at h
  next =>
    split at h
    next hwanted =>
      cases h
      simp only [Bool.and_eq_true] at hwanted
      exact hwanted.1
    next => cases h
  next => cases h

theorem attributesAction?_cases (h : r.attributesAction? s = some action) :
    ∃ changes, action = .updateAttributes changes := by
  unfold attributesAction? at h
  simp only at h
  split at h
  next => cases h
  next =>
    cases h
    exact ⟨_, rfl⟩

theorem oneShotAction?_cases (h : r.oneShotAction? s = some action) :
    ∃ request, r.pdbRequest = some request ∧ action = .pdb request
      ∧ request.action.givesIdentity = false := by
  unfold oneShotAction? at h
  split at h
  next request hrequest =>
    split at h
    next => cases h
    next hone =>
      cases h
      simp only [Bool.or_eq_true, not_or, Bool.not_eq_true] at hone
      exact ⟨request, hrequest, rfl, hone.1⟩
  next => cases h

/-- Without an identity the next action makes, finds or binds an object. -/
theorem nextAction?_of_unidentified (hdel : r.deletionRequested = false)
    (hid : s.identity = none) : r.nextAction? s = r.firstAction? := by
  simp [nextAction?, hdel, hid]

/-- What is done about an object on record: its state comes first, then its
attributes, then the requested action. -/
theorem nextAction?_eq_some_cases (hdel : r.deletionRequested = false)
    (hid : s.identity.isSome = true) (h : r.nextAction? s = some action) :
    r.stateAction? s = some action
      ∨ r.stateAction? s = none ∧ (r.attributesAction? s = some action
        ∨ r.attributesAction? s = none ∧ r.oneShotAction? s = some action) := by
  obtain ⟨id, hid⟩ := Option.isSome_iff_exists.mp hid
  simp only [nextAction?, hdel, hid, Option.isNone_some, Bool.false_eq_true,
    ↓reduceIte] at h
  split at h
  next => cases h
  next =>
    simpa only [Option.orElse_eq_orElse, Option.orElse_eq_or,
      Option.or_eq_some_iff] using h

/-- An object on record is never made or bound. -/
theorem nextAction?_of_identified (hdel : r.deletionRequested = false)
    (hid : s.identity.isSome = true) (h : r.nextAction? s = some action) :
    (∃ target, action = .changeState target)
      ∨ (∃ changes, action = .updateAttributes changes)
      ∨ ∃ request, r.pdbRequest = some request ∧ action = .pdb request
        ∧ request.action.givesIdentity = false := by
  rcases nextAction?_eq_some_cases hdel hid h with h | ⟨-, h | ⟨-, h⟩⟩
  · exact .inl (stateAction?_cases h)
  · exact .inr (.inl (attributesAction?_cases h))
  · exact .inr (.inr (oneShotAction?_cases h))

/-- An object that has come to an end is left alone. -/
theorem nextAction?_of_terminal (hdel : r.deletionRequested = false)
    (hid : s.identity.isSome = true)
    (hend : s.lifecycleState.any LifecycleState.isTerminal = true) :
    r.nextAction? s = none := by
  obtain ⟨id, hid⟩ := Option.isSome_iff_exists.mp hid
  simp [nextAction?, hdel, hid, hend]

/-- The first action of a resource is one that leads to an identity. -/
theorem firstAction?_cases (h : r.firstAction? = some action) :
    action = .provision ∨ (∃ id, r.adoptIdentity = some id ∧ action = .bind id)
      ∨ ∃ request, r.pdbRequest = some request ∧ action = .pdb request
        ∧ request.action.givesIdentity = true := by
  unfold firstAction? at h
  split at h
  next request hrequest =>
    cases h
    obtain ⟨hr, hg⟩ := Option.filter_eq_some_iff.mp hrequest
    exact .inr (.inr ⟨request, hr, rfl, hg⟩)
  next =>
    split at h
    next id hid =>
      cases h
      exact .inr (.inl ⟨id, hid, rfl⟩)
    next =>
      split at h
      next =>
        cases h
        exact .inl rfl
      next => cases h

/-- Deletion is left to deletions. -/
theorem nextAction?_ne_delete {hard : Bool}
    (hdel : r.deletionRequested = false) :
    r.nextAction? s ≠ some (.delete hard) := by
  intro h
  cases hid : s.identity with
  | none =>
    rw [nextAction?_of_unidentified hdel hid] at h
    rcases firstAction?_cases h with h | ⟨_, -, h⟩ | ⟨_, -, h, -⟩ <;> cases h
  | some id =>
    rcases nextAction?_of_identified hdel (by simp [hid]) h with ⟨_, h⟩ | ⟨_, h⟩
      | ⟨_, -, h, -⟩ <;> cases h

/-- No state is asked for that a spec may not ask for. -/
theorem isLegalTarget_of_nextAction? {target : LifecycleState}
    (hdel : r.deletionRequested = false)
    (h : r.nextAction? s = some (.changeState target)) :
    target.isLegalTarget = true := by
  cases hid : s.identity with
  | none =>
    rw [nextAction?_of_unidentified hdel hid] at h
    rcases firstAction?_cases h with h | ⟨_, -, h⟩ | ⟨_, -, h, -⟩ <;> cases h
  | some id =>
    rcases nextAction?_eq_some_cases hdel (by simp [hid]) h with h
      | ⟨-, h | ⟨-, h⟩⟩
    · exact stateAction?_isLegalTarget h
    · obtain ⟨_, h⟩ := attributesAction?_cases h
      cases h
    · obtain ⟨_, -, h, -⟩ := oneShotAction?_cases h
      cases h

theorem isUpkeep_of_nextAction? (hdel : r.deletionRequested = false)
    (h : r.nextAction? s = some action) : action.IsUpkeep := by
  cases action with
  | changeState target => exact isLegalTarget_of_nextAction? hdel h
  | delete hard => exact absurd h (nextAction?_ne_delete hdel)
  | provision | bind | updateAttributes | pdb => trivial

/-- An object is bound only for want of an identity, and under the one that is
declared. -/
theorem nextAction?_eq_bind {id : String} (hdel : r.deletionRequested = false)
    (h : r.nextAction? s = some (.bind id)) :
    s.identity = none ∧ r.adoptIdentity = some id := by
  cases hid : s.identity with
  | none =>
    rw [nextAction?_of_unidentified hdel hid] at h
    rcases firstAction?_cases h with h | ⟨_, hadopt, h⟩ | ⟨_, -, h, -⟩
    · cases h
    · cases h
      exact ⟨rfl, hadopt⟩
    · cases h
  | some _ =>
    rcases nextAction?_of_identified hdel (by simp [hid]) h with ⟨_, h⟩ | ⟨_, h⟩
      | ⟨_, -, h, -⟩ <;> cases h

/-- What is done about a pluggable database is what is requested. -/
theorem nextAction?_eq_pdb {request : PdbRequest}
    (hdel : r.deletionRequested = false)
    (h : r.nextAction? s = some (.pdb request)) :
    r.pdbRequest = some request := by
  cases hid : s.identity with
  | none =>
    rw [nextAction?_of_unidentified hdel hid] at h
    rcases firstAction?_cases h with h | ⟨_, -, h⟩ | ⟨_, hrequest, h, -⟩
    · cases h
    · cases h
    · cases h
      exact hrequest
  | some _ =>
    rcases nextAction?_of_identified hdel (by simp [hid]) h with ⟨_, h⟩ | ⟨_, h⟩
      | ⟨_, hrequest, h, -⟩
    · cases h
    · cases h
    · cases h
      exact hrequest

/-- Nothing is done once more about a pluggable database that exists: a request
is met if its action was the last to be completed. -/
theorem lastCompletedAction_ne_of_nextAction? {request : PdbRequest}
    (hdel : r.deletionRequested = false) (hid : s.identity.isSome = true)
    (h : r.nextAction? s = some (.pdb request)) :
    s.lastCompletedAction ≠ some request.signature := by
  rcases nextAction?_eq_some_cases hdel hid h with h | ⟨-, h | ⟨-, h⟩⟩
  · obtain ⟨_, h⟩ := stateAction?_cases h
    cases h
  · obtain ⟨_, h⟩ := attributesAction?_cases h
    cases h
  · unfold oneShotAction? at h
    split at h
    next =>
      split at h
      next => cases h
      next hone =>
        cases h
        simp only [Bool.or_eq_true, beq_iff_eq, not_or] at hone
        exact hone.2
    next => cases h

/-- Attributes are changed only if the state is as it is wanted. -/
theorem stateAction?_eq_none_of_update {changes : RemoteAttributes}
    (hdel : r.deletionRequested = false) (hid : s.identity.isSome = true)
    (h : r.nextAction? s = some (.updateAttributes changes)) :
    r.stateAction? s = none := by
  rcases nextAction?_eq_some_cases hdel hid h with h | ⟨hnone, -⟩
  · obtain ⟨_, h⟩ := stateAction?_cases h
    cases h
  · exact hnone

/-! ## What the choice goes by -/

theorem nextAction?_grounds (r : ManagedResource) (s : Status) :
    r.nextAction? s.grounds = r.nextAction? s :=
  rfl

theorem nextAction?_eq_of_grounds {s' : Status} (h : s.grounds = s'.grounds) :
    r.nextAction? s = r.nextAction? s' := by
  rw [← nextAction?_grounds, h, nextAction?_grounds]

/-- Two resources declare the same, as far as the next action is chosen by
it. -/
structure AsksAs (r r' : ManagedResource) : Prop where
  kind : r.kind = r'.kind
  adoptIdentity : r.adoptIdentity = r'.adoptIdentity
  desiredAttributes : r.desiredAttributes = r'.desiredAttributes
  desiredState : r.desiredState = r'.desiredState
  pdbRequest : r.pdbRequest = r'.pdbRequest

/-- Resources that declare the same have the same next action, unless they are
being deleted. -/
theorem AsksAs.nextAction?_eq {r' : ManagedResource} (h : r.AsksAs r')
    (hdel : r.deletionRequested = false) (hdel' : r'.deletionRequested = false)
    (s : Status) : r.nextAction? s = r'.nextAction? s := by
  have hcan : r.canProvision = r'.canProvision := by
    unfold canProvision
    rw [h.kind, h.pdbRequest]
  have hfirst : r.firstAction? = r'.firstAction? := by
    unfold firstAction?
    rw [h.pdbRequest, h.adoptIdentity, hcan]
  have hstate : r.stateAction? s = r'.stateAction? s := by
    simp only [stateAction?, h.desiredState]
  have hattributes : r.attributesAction? s = r'.attributesAction? s := by
    simp only [attributesAction?, h.desiredAttributes]
  have honeShot : r.oneShotAction? s = r'.oneShotAction? s := by
    simp only [oneShotAction?, h.pdbRequest]
  simp only [nextAction?, hdel, hdel', Bool.false_eq_true, ↓reduceIte, hfirst,
    hstate, hattributes, honeShot]

/-- Two databases with the same spec declare the same, whatever has become of
them. -/
theorem asksAs_ofAutonomous {db db' : AutonomousDatabase}
    (h : db.spec = db'.spec) : (ofAutonomous db).AsksAs (ofAutonomous db') := by
  constructor <;> simp only [ofAutonomous, h]

theorem asksAs_ofPluggable {db db' : PluggableDatabase}
    (h : db.spec = db'.spec) : (ofPluggable db).AsksAs (ofPluggable db') := by
  constructor <;> simp only [ofPluggable, h]

end ManagedResource

end DatabaseOperator
