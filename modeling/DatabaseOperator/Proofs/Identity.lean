import DatabaseOperator.Proofs.Deletion.Evidence
import DatabaseOperator.Proofs.Pass.Naming

/-!
# An identity for life

Spec, settings, clock and remote may change between the passes over a resource,
and the remote may answer under other identities than it was asked for. The
identity on record stays.

- `Pass.identity_of_later`: what a pass has recorded it does not take back.
- `Pass.learns_of_saved`: what it is the first to record it has learned.
- `Pass.adopts_or_recorded_of_subject`: what it names is on record, or was
  adopted.
- `identity_lasts`: the same over whole histories.
-/

namespace DatabaseOperator

variable {id : String} {t t₁ t₂ : List PassEvent} {s s₀ : Status}

namespace Pass

variable {p : Pass} {r : Except OperatorError Outcome}

/-- An identity that is stored at some time of a pass is the identity of all
that the pass stores later. -/
theorem identity_of_later (h : p.run.Walk t r) (ht : t = t₁ ++ t₂)
    (hid : (storedAfter p.resource.status t₁).identity = some id)
    (hs : .saved s ∈ t₂) : s.identity = some id := by
  rcases storedAfter_cases p.resource.status t₁ with hsame | hsaved
  · rw [hsame] at hid
    exact identity_of_saved hid h (ht ▸ List.mem_append_right _ hs)
  · obtain ⟨known, keeps, -⟩ := keepsTo_of_walk h
    cases known with
    | some k =>
      -- all that is stored knows the same object
      have hk := keeps.kept rfl (ht ▸ List.mem_append_left _ hsaved)
      rw [keeps.kept rfl (ht ▸ List.mem_append_right _ hs), ← hk, hid]
    | none =>
      -- nothing is stored after an identity that was learned
      obtain ⟨u₁, u₂, hu⟩ := List.append_of_mem hsaved
      rw [hu, List.append_assoc, List.cons_append] at ht
      obtain ⟨-, hnil⟩ := keeps.learned rfl ht hid
      rw [(List.append_eq_nil_iff.mp hnil).2] at hs
      cases hs

/-- A pass that is the first to record an identity has learned it. -/
theorem learns_of_saved (hnone : p.resource.status.identity = none)
    (h : p.run.Walk t r) (hs : .saved s ∈ t) (hid : s.identity = some id) :
    p.Learns id t := by
  obtain ⟨known, keeps, rfl | ⟨adopted, rfl, hadopts⟩⟩ := keepsTo_of_walk h
  · obtain ⟨u₁, u₂, hu⟩ := List.append_of_mem hs
    exact (keeps.learned hnone hu hid).1
  · obtain rfl := Option.some.inj (hid.symm.trans (keeps.kept rfl hs))
    exact .adopted hadopts

/-- The object that a pass changes, or whose wallet it fetches, is on record or
was adopted. -/
theorem adopts_or_recorded_of_subject (h : p.run.Walk t r) {call : RemoteCall}
    {reply : Reply call.Answer} (hmem : .remote call reply ∈ t)
    (hsubject : call.subject? = some id) :
    p.resource.status.identity = some id ∨ p.Adopts id t := by
  obtain ⟨known, keeps, rfl | ⟨adopted, rfl, hadopts⟩⟩ := keepsTo_of_walk h
  · exact .inl (keeps.subject hmem hsubject)
  · obtain rfl := Option.some.inj (keeps.subject hmem hsubject)
    exact .inr hadopts

end Pass

/-! ## Whole histories -/

variable {turns : List Turn}

/-- An identity that a history begins with is the one that it leads to, and the
only one that it stores. -/
theorem identity_of_history (hrun : Reaches s₀ turns s)
    (hid : s₀.identity = some id) :
    s.identity = some id ∧ ∀ turn ∈ turns, ∀ s', .saved s' ∈ turn.trace →
      s'.identity = some id := by
  obtain ⟨hlast, hbegin⟩ :=
      hrun.invariant (P := fun s => s.identity = some id) hid
        fun turn _ hturn s' hs =>
    Pass.identity_of_saved hturn turn.walk hs
  exact ⟨hlast, fun turn hturn s' hs =>
    Pass.identity_of_saved (hbegin turn hturn) turn.walk hs⟩

/-- A history that comes to an identity has learned it in one of its passes,
before which there was none. -/
theorem learns_of_history (hrun : Reaches s₀ turns s)
    (hnone : s₀.identity = none) (hid : s.identity = some id) :
    ∃ before turn after, turns = before ++ turn :: after
      ∧ (∀ earlier ∈ before, earlier.stored.identity = none)
      ∧ turn.pass.resource.status.identity = none
      ∧ turn.pass.Learns id turn.trace := by
  induction hrun with
  | start =>
    rw [hnone] at hid
    cases hid
  | @step turns s turn past begins ih =>
    cases hbefore : s.identity with
    | none =>
      have hbegin :
          turn.pass.resource.status.identity = none := begins ▸ hbefore
      refine ⟨turns, turn, [], rfl, fun earlier hearlier => ?_, hbegin, ?_⟩
      · -- an identity would have stayed
        cases hearly : earlier.stored.identity with
        | none => rfl
        | some k =>
          obtain ⟨u₁, u₂, rfl⟩ := List.append_of_mem hearlier
          obtain ⟨s₁, -, hrest⟩ := past.split
          rw [(identity_of_history hrest.tail hearly).1] at hbefore
          cases hbefore
      · rcases storedAfter_cases turn.pass.resource.status turn.trace with hsame
          | hsaved
        · rw [Turn.stored, hsame, hbegin] at hid
          cases hid
        · exact Pass.learns_of_saved hbegin turn.walk hsaved hid
    | some k =>
      have hbegin :
          turn.pass.resource.status.identity = some k := begins ▸ hbefore
      have hstored : turn.stored.identity = some k :=
        turn.stored_of_saved (P := fun s => s.identity = some k) hbegin
          fun s' hs =>
          Pass.identity_of_saved hbegin turn.walk hs
      obtain rfl := Option.some.inj (hid.symm.trans hstored)
      obtain ⟨before, first, after, rfl, hearlier, hfirst, hlearns⟩ :=
        ih hbefore
      exact ⟨before, first, after ++ [turn], by simp, hearlier, hfirst, hlearns⟩

/-- **Identities are for life.** In a history of passes over one resource

1. once an identity is stored, all that is stored from then on has it, in the
   same pass and in all later ones;
2. the first identity that is stored was answered to a call that makes or maps
   an object, or is declared and was found, or was adopted from a list while the
   mark of a create was stored;
3. a call that changes an object or fetches its wallet names the identity that
   the pass began with, or the one that it has adopted; and a call that changes
   an object names the one that is stored at that time. -/
theorem identity_lasts (hrun : Reaches s₀ turns s) :
    (∀ before turn after t₁ t₂ id, turns = before ++ turn :: after →
      turn.trace = t₁ ++ t₂ →
        (storedAfter turn.pass.resource.status t₁).identity = some id →
          (∀ s', .saved s' ∈ t₂ → s'.identity = some id)
            ∧ (∀ later ∈ after, ∀ s', .saved s' ∈ later.trace →
              s'.identity = some id)
            ∧ s.identity = some id)
      ∧ (∀ id, s₀.identity = none → s.identity = some id →
        ∃ before turn after, turns = before ++ turn :: after
          ∧ (∀ earlier ∈ before, earlier.stored.identity = none)
          ∧ turn.pass.resource.status.identity = none
          ∧ turn.pass.Learns id turn.trace)
      ∧ ∀ turn ∈ turns, ∀ (before : List PassEvent) (call : RemoteCall)
          (reply : Reply call.Answer) (after : List PassEvent) (id : String),
        turn.trace = before ++ .remote call reply :: after →
          call.subject? = some id →
            (turn.pass.resource.status.identity = some id
              ∨ turn.pass.Adopts id turn.trace)
            ∧ (call.target? = some id →
              (storedAfter turn.pass.resource.status before).identity
                = some id) := by
  refine ⟨?_, fun id hnone hid => learns_of_history hrun hnone hid, ?_⟩
  · rintro before turn after t₁ t₂ id rfl ht hid
    have hsame : ∀ s', .saved s' ∈ t₂ → s'.identity = some id :=
      fun s' hs => Pass.identity_of_later turn.walk ht hid hs
    have hstored : turn.stored.identity = some id := by
      rw [Turn.stored, ht, storedAfter_append]
      rcases storedAfter_cases (storedAfter turn.pass.resource.status t₁) t₂
        with hkept | hsaved
      · rw [hkept, hid]
      · exact hsame _ hsaved
    obtain ⟨s₁, -, hrest⟩ := hrun.split
    obtain ⟨hlast, hlater⟩ := identity_of_history hrest.tail hstored
    exact ⟨hsame, hlater, hlast⟩
  · intro turn _ before call reply after id ht hsubject
    have hmem : .remote call reply ∈ turn.trace := by rw [ht]; simp
    exact ⟨Pass.adopts_or_recorded_of_subject turn.walk hmem hsubject,
      fun htarget => Pass.identity_of_target _ turn.walk ht htarget⟩

/-- A pass that makes a database. -/
def answeredCreate : Turn :=
  .simulated Simulation.answer
    (.ofDatabase (some "sales") {} false ⟨1700000000, 0⟩) {}

/-- A remote that knows the database, but answers under another identity than it
was asked for. -/
def misnamingRemote : Simulation :=
  { remote :=
      { objects :=
          .ofList
            [("ocid1.adb.1",
              { Pass.liveDatabase "sales" with id := "ocid1.adb.other" })] } }

/-- The deletion of the database on such a remote. -/
def misnamedDeletion : Turn :=
  .simulated Simulation.answer
    (.ofDatabase (some "sales") answeredCreate.stored true ⟨1700000010, 0⟩)
    misnamingRemote

/-- The identity that was answered to the create stays on record, and is the one
that is deleted, though the read that comes before answers with another. -/
theorem misnamed_database_keeps_identity :
    Reaches {} [answeredCreate, misnamedDeletion] misnamedDeletion.stored
      ∧ (∃ found : Snapshot, found.id = "ocid1.adb.other"
        ∧ .remote (.get "ocid1.adb.1") (.answered found)
          ∈ misnamedDeletion.trace)
      ∧ .remote (.delete "ocid1.adb.1") (.answered ()) ∈ misnamedDeletion.trace
      ∧ answeredCreate.pass.Learns "ocid1.adb.1" answeredCreate.trace
      ∧ misnamedDeletion.stored.identity = some "ocid1.adb.1" := by
  have hfirst : Reaches {} [answeredCreate] answeredCreate.stored :=
    .cons rfl .start
  have hrun : Reaches {} [answeredCreate, misnamedDeletion]
    misnamedDeletion.stored := .cons rfl (.cons rfl .start)
  have hrecorded : answeredCreate.stored.identity = some "ocid1.adb.1" := rfl
  obtain ⟨found, marked, hcalls, hfound⟩ : ∃ found marked,
    misnamedDeletion.trace
      = [.remote (.get "ocid1.adb.1") (.answered found), .saved marked,
        .remote (.delete "ocid1.adb.1") (.answered ())]
          ∧ found.id = "ocid1.adb.other" := ⟨_, _, rfl, rfl⟩
  obtain ⟨before, turn, after, hturns, -, -, hlearns⟩ :=
    (identity_lasts hfirst).2.1 _ rfl hrecorded
  obtain ⟨rfl, rfl, -⟩ : before = [] ∧ turn = answeredCreate ∧ after = [] := by
    cases before with
    | nil =>
      obtain ⟨rfl, rfl⟩ := List.cons.inj hturns
      exact ⟨rfl, rfl, rfl⟩
    | cons _ _ => simp at hturns
  refine ⟨hrun, ⟨found, hfound, ?_⟩, ?_, hlearns, ?_⟩
  · rw [hcalls]
    simp
  · rw [hcalls]
    simp
  · exact ((identity_lasts hrun).1 [answeredCreate] misnamedDeletion []
      [] _ _ rfl rfl hrecorded).2.2

end DatabaseOperator
