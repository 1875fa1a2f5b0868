import DatabaseOperator.Pass.Drive
import DatabaseOperator.Proofs.Deletion.Evidence
import DatabaseOperator.Proofs.Pass.Inheritance

/-!
# What a deletion keeps its hands off

A resource that is being deleted may be in any condition: its spec may be
invalid, its control plane out of reach, an action may be marked, failed or
waiting, and a create may be lost. None of this leads a deletion back to the
actions of other passes.

- `Harmless`: an exchange that changes nothing on the remote and touches no
  Secret.
- `Pass.Restrained`: all exchanges are harmless, but perhaps for one delete
  call.
- `Pass.ObjectTeardown.restrained`, `Pass.Teardown.restrained`: those of a
  deletion are.
- `Pass.deletion_restrained`: so are those of whatever is done instead of one,
  and an object that is to stay is left alone.
-/

namespace DatabaseOperator

variable {t t₁ t₂ : List PassEvent} {s : Status} {id : String}

/-- An exchange that changes nothing on the remote and touches no Secret: a look
at the objects, or a word with the store about the resource itself. -/
inductive Harmless : PassEvent → Prop where
  | looks {e : PassEvent} (looks : Looks e) : Harmless e
  | saveStatus {status : Status} {answer : Except OperatorError Unit} :
      Harmless (.store (.saveStatus status) answer)
  | releaseFinalizer {answer : Except OperatorError Unit} :
      Harmless (.store .releaseFinalizer answer)

namespace Pass

variable {p : Pass} {r : Except OperatorError Outcome}

/-- All that a pass does is harmless, but perhaps for one delete call. That goes
to the object on record of a resource with a hard link, and the status that
names the object was stored right before it. -/
inductive Restrained (p : Pass) : List PassEvent → Prop where
  | looks {t : List PassEvent} (harmless : ∀ e ∈ t, Harmless e) : Restrained p t
  | deletes {before after : List PassEvent} {marked : Status} {id : String}
      {reply : Reply Unit} (hard : p.resource.hardLink = true)
      (recorded : marked.identity = some id)
      (same : ∀ known, p.resource.status.identity = some known → known = id)
      (looked : ∀ e ∈ before, Looks e) (ended : ∀ e ∈ after, Harmless e) :
      Restrained p
        (before ++ .saved marked :: .remote (.delete id) reply :: after)

/-- Looks may come first. -/
theorem Restrained.prepend (h : p.Restrained t₂) (first : ∀ e ∈ t₁, Looks e) :
    p.Restrained (t₁ ++ t₂) := by
  cases h with
  | looks harmless =>
    exact .looks
      (List.forall_mem_append.mpr ⟨fun e he => .looks (first e he), harmless⟩)
  | deletes hard recorded same looked ended =>
    rw [← List.append_assoc]
    exact .deletes hard recorded same
      (List.forall_mem_append.mpr ⟨first, looked⟩) ended

/-! ## The ends of a deletion -/

theorem harmless_of_walk_finish {g : Progress} {d : Duration}
    (h : (finish g d).Walk t r) : ∀ e ∈ t, Harmless e := by
  rcases walk_finish_iff.mp h with ⟨-, rfl, -⟩ | ⟨-, answer, rfl, -⟩
  · simp
  · simpa using .saveStatus

theorem harmless_of_walk_release {g : Progress} (h : (release g).Walk t r) :
    ∀ e ∈ t, Harmless e := by
  obtain ⟨answer, rfl, -⟩ := walk_release_iff.mp h
  simpa using .releaseFinalizer

/-! ## Whole passes -/

/-- The teardown of an object that is known deletes that object at most, and
once. -/
theorem ObjectTeardown.restrained {known : Status}
    (hard : p.resource.hardLink = true) (hknown : known.identity = some id)
    (same : ∀ recorded, p.resource.status.identity = some recorded →
      recorded = id) (h : p.ObjectTeardown known id t r) : p.Restrained t := by
  have hunsent : ∀ {t₁ t₂ : List PassEvent}
      {found : Except RemoteError (Status × Option LifecycleState)},
      (p.locate known id).Walk t₁ found → (∀ e ∈ t₂, Harmless e) →
        p.Restrained (t₁ ++ t₂) :=
    fun located ended => (Restrained.looks ended).prepend
      (looks_of_walk_locate located)
  have hsent : ∀ {t₁ t₂ : List PassEvent} {s : Status}
      {observed : Option LifecycleState} {reply : Reply Unit},
      (p.locate known id).Walk t₁ (.ok (s, observed)) → (∀ e ∈ t₂, Harmless e) →
        p.Restrained
          (t₁
            ++ .saved (p.markDeleted s) :: .remote (.delete id) reply
              :: t₂) := by
    intro t₁ t₂ s observed reply located ended
    -- the mark of the call leaves the identity on record
    have hrecorded : (p.markDeleted s).identity = some id :=
      (inherits_of_walk_locate hknown located).1.trans hknown
    exact .deletes hard hrecorded same (looks_of_walk_locate located) ended
  cases h with
  | unread located _ ending | given located _ ending =>
    exact hunsent located (harmless_of_walk_finish ending)
  | gone located _ ending =>
    exact hunsent located (harmless_of_walk_release ending)
  | unmarked located => exact hunsent located (by simpa using .saveStatus)
  | deleted located _ ending | kept located _ _ _ ending =>
    exact hsent located (harmless_of_walk_finish ending)
  | vanished located _ _ ending =>
    exact hsent located (harmless_of_walk_release ending)

/-- A deletion deletes the object on record, if there is one, and otherwise one
that it has found and recorded. -/
theorem Teardown.restrained (h : p.Teardown t r) : p.Restrained t := by
  cases h with
  | detached _ ending => exact .looks (harmless_of_walk_release ending)
  | awaited _ identified ending =>
    exact (Restrained.looks (harmless_of_walk_finish ending)).prepend
      (looks_of_walk_identify identified)
  | objectless _ identified _ ending =>
    exact (Restrained.looks (harmless_of_walk_release ending)).prepend
      (looks_of_walk_identify identified)
  | @known t₁ t₂ known id _ hard knows teardown =>
    refine (teardown.restrained hard knows.2 fun recorded hrecorded =>
      ?_).prepend (looks_of_walk_identify knows.1)
    -- an object on record is not looked for
    have hdeleting : p.deletingStatus.identity = some recorded := hrecorded
    obtain ⟨-, hstep⟩ :=
      (walk_identify_of_some (by rw [hdeleting]; rfl)).mp knows.1
    cases hstep
    exact Option.some.inj (hdeleting.symm.trans knows.2)

/-- A pass over a resource without a hard link lets it go, and does nothing
else. -/
theorem Teardown.of_soft (soft : p.resource.hardLink = false)
    (h : p.Teardown t r) :
    ∃ answer, t = [.store .releaseFinalizer answer] ∧ r = answer.map fun _ =>
      (p.unsent p.initialStatus).released := by
  cases h with
  | detached _ ending => exact walk_release_iff.mp ending
  | awaited hard | objectless hard | known hard =>
    rw [soft] at hard
    cases hard

/-- **The restraint of deletions.** Whatever is on record of a resource that is
being deleted, whether its spec is valid, and whether its control plane can be
called:

1. all exchanges are harmless, but perhaps for one delete call, which names the
   object on record of a resource with a hard link;
2. without a hard link the only exchange is the release of the finalizer. -/
theorem deletion_restrained {validation connection : Except OperatorError Unit}
    {driven : Driven} (hdel : p.resource.deletionRequested = true)
    (h : (p.drive validation connection).Walk t driven) :
    p.Restrained t
      ∧ (p.resource.hardLink = false →
        ∃ answer, t = [.store .releaseFinalizer answer]
          ∧ driven.next = answer.map fun _ => none) := by
  unfold drive at h
  rw [hdel] at h
  cases connection with
  | ok _ =>
    obtain ⟨t₁, result, t₂, rfl, walk, hrest⟩ := Program.walk_bind_iff.mp h
    obtain ⟨rfl, rfl⟩ := Program.walk_done_iff.mp hrest
    rw [List.append_nil]
    have hteardown := teardown_of_walk hdel walk
    refine ⟨hteardown.restrained, fun soft => ?_⟩
    obtain ⟨answer, rfl, rfl⟩ := hteardown.of_soft soft
    refine ⟨answer, rfl, ?_⟩
    cases answer <;> rfl
  | error fault =>
    simp only at h
    split at h
    next hard =>
      -- without its control plane the resource is kept, and only its status is
      -- written
      obtain ⟨answer, t₁, rfl, hrest⟩ := Program.walk_ask_iff.mp h
      obtain ⟨rfl, -⟩ := Program.walk_done_iff.mp hrest
      refine ⟨.looks (by simpa using .saveStatus), fun soft => ?_⟩
      rw [soft] at hard
      cases hard
    next =>
      obtain ⟨answer, t₁, rfl, hrest⟩ := Program.walk_ask_iff.mp h
      obtain ⟨rfl, rfl⟩ := Program.walk_done_iff.mp hrest
      exact ⟨.looks (by simpa using .releaseFinalizer), fun _ =>
        ⟨answer, rfl, rfl⟩⟩

/-- The deletion of the same database when its object is to stay. -/
def detachedDeletion : Pass :=
  { boundDeletion with
    resource := { boundDeletion.resource with hardLink := false } }

/-- A spec that is not valid. -/
def invalidSpec : Except OperatorError Unit :=
  .error (.validation "cpuCoreCount must be positive")

/-- A control plane that cannot be called. -/
def unreachable : Except OperatorError Unit :=
  .error (.notFound "secret oci-key")

/-- A database that runs is deleted if its resource has a hard link, though its
spec is not valid. Without one it is left alone, though its control plane cannot
be called. -/
theorem running_database_deleted_or_let_go :
    (∃ t driven, (boundDeletion.drive invalidSpec (.ok ())).Walk t driven
      ∧ boundDeletion.Restrained t
      ∧ .remote (.delete "ocid1.adb.1") (.answered ()) ∈ t)
      ∧ ∃ t driven answer,
        (detachedDeletion.drive (.ok ()) unreachable).Walk t driven
          ∧ t = [.store .releaseFinalizer answer] := by
  have hdeleted :=
    Program.walk_transcript Simulation.answer
      (boundDeletion.drive invalidSpec (.ok ())) runningRemote
  have hreleased :=
    Program.walk_transcript Simulation.answer
      (detachedDeletion.drive (.ok ()) unreachable) runningRemote
  obtain ⟨answer, htrace, -⟩ := (deletion_restrained rfl hreleased).2 rfl
  refine ⟨⟨_, _, hdeleted, (deletion_restrained rfl hdeleted).1, ?_⟩,
    ⟨_, _, answer, hreleased, htrace⟩⟩
  obtain ⟨seen, marked, hcalls⟩ : ∃ seen marked,
      (boundDeletion.drive invalidSpec (.ok ())).transcript Simulation.answer
        runningRemote
        = [.remote (.get "ocid1.adb.1") (.answered seen), .saved marked,
          .remote (.delete "ocid1.adb.1") (.answered ())] := ⟨_, _, rfl⟩
  rw [hcalls]
  simp

end Pass

end DatabaseOperator
