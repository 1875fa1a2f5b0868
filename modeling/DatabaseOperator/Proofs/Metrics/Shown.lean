import Mathlib.Data.List.Induction
import DatabaseOperator.Proofs.Pass.Driving
import DatabaseOperator.Reconciliation

/-!
# The state that a resource is shown in

A resource is shown in one state at a time by moving its series: the series of
the state before is dropped, and that of the new one is set. Which state was
before is read off the status with which the pass began, not off the series. So
the two have to agree whenever a state is to go, and they do not agree after a
pass that failed under another state than the one shown. Nor is anything dropped
where a resource is let go without a pass.

- `Metrics.shown`, `Metrics.shown_moveState`: the states that a resource is
  shown in, and a move among them.
- `lastShown`: the state that was to be shown last.
- `Drive.Leaves`: a drive that leaves a series behind.
- `Tells.shownRight_iff`: what one drive does to series that were right before
  it.
- `allShownRight_iff_noneLeft`: over every run, the series are right exactly if
  no drive leaves one behind.
- `Drives.recorded_or_failed`: how another state than the one shown comes to be
  on record.
-/

namespace DatabaseOperator

/-! ## Moving -/

namespace Metrics

variable {kind : String} {resource : ResourceLabels}
    {previous current : Option String} {state : String} {states : List String}
    {series : List StateLabels}

/-- The states of a resource among some series. -/
def statesOf (kind : String) (resource : ResourceLabels)
    (series : List StateLabels) : List String :=
  (series.filter fun s => s.kind == kind && s.resource == resource).map
    StateLabels.state

/-- The states that a resource is shown in. -/
def shown (m : Metrics) (kind : String) (resource : ResourceLabels) :
    List String :=
  statesOf kind resource m.states

/-- The states that stay when one goes for another. -/
def staying (previous current : Option String) (states : List String) :
    List String :=
  states.filter fun state => previous == current || some state != previous

/-- The states after a move from one to another. -/
def moved (previous current : Option String) (states : List String) :
    List String :=
  match current with
  | some state =>
    let others := staying previous current states
    if state ∈ others then others else others ++ [state]
  | none => staying previous current states

theorem mem_statesOf :
    state ∈ statesOf kind resource series
      ↔ { kind, resource, state } ∈ series := by
  unfold statesOf
  rw [List.mem_map]
  constructor
  · rintro ⟨⟨k, r, t⟩, hmem, rfl⟩
    simp only [List.mem_filter, Bool.and_eq_true, beq_iff_eq] at hmem
    obtain ⟨hmem, rfl, rfl⟩ := hmem
    exact hmem
  · intro h
    exact ⟨_, List.mem_filter.mpr ⟨h, by simp⟩, rfl⟩

theorem statesOf_dropState (kind : String) (resource : ResourceLabels)
    (previous current : Option String) (series : List StateLabels) :
    statesOf kind resource (dropState kind resource previous current series)
      = staying previous current (statesOf kind resource series) := by
  unfold dropState staying
  cases previous with
  | none =>
    refine (List.filter_eq_self.mpr fun state _ => ?_).symm
    simp
  | some state =>
    simp only
    split
    next h =>
      refine (List.filter_eq_self.mpr fun state _ => ?_).symm
      simp [h]
    next h =>
      unfold statesOf
      rw [List.filter_map, List.filter_filter, List.filter_filter]
      refine congrArg (List.map StateLabels.state)
        (List.filter_congr fun s _ => ?_)
      obtain ⟨k, r, t⟩ := s
      -- series of the same resource differ by their states
      grind

theorem shown_moveState (m : Metrics) (kind : String)
    (resource : ResourceLabels) (previous current : Option String) :
    (m.moveState kind resource previous current).shown kind resource
      = moved previous current (m.shown kind resource) := by
  have hstaying := statesOf_dropState kind resource previous current m.states
  cases current with
  | none => exact hstaying
  | some state =>
    unfold moveState moved shown
    simp only [← hstaying, mem_statesOf]
    split
    next => rfl
    next =>
      unfold statesOf
      rw [List.filter_append, List.map_append]
      simp

/-! ### Moves of a resource that is shown in one state -/

theorem moved_nil (previous current : Option String) :
    moved previous current [] = current.toList := by
  unfold moved staying
  cases current <;> simp

/-- A state that is shown already is kept. -/
theorem moved_to_shown (previous : Option String) (state : String) :
    moved previous (some state) [state] = [state] := by
  have hstays : staying previous (some state) [state] = [state] := by
    unfold staying
    grind
  simp [moved, hstays]

/-- The state that a move begins with goes. -/
theorem moved_from_shown (h : current ≠ some state) :
    moved (some state) current [state] = current.toList := by
  have hgoes : staying (some state) current [state] = [] := by
    simp [staying, Ne.symm h]
  unfold moved
  cases current with
  | none => exact hgoes
  | some other => simp [hgoes]

/-- A state that a move does not begin with stays. -/
theorem mem_moved (h : previous ≠ some state) (hmem : state ∈ states) :
    state ∈ moved previous current states := by
  have hstays : state ∈ staying previous current states :=
    List.mem_filter.mpr ⟨hmem, by simp [Ne.symm h]⟩
  unfold moved
  cases current with
  | none => exact hstays
  | some other =>
    simp only
    split
    next => exact hstays
    next => exact List.mem_append_left _ hstays

end Metrics

/-! ## Drives -/

variable {kind : String} {resource : ResourceLabels} {previous : Option String}
    {state : String} {states : List String} {drives : List Drive} {d : Drive}
    {o : Pass.Outcome}

/-- The state in which a resource is to be shown after a pass that came to its
end; none, if it was let go. -/
def Pass.Outcome.shown (o : Outcome) : Option String :=
  (if o.finalized then none
    else o.status.lifecycleState).map LifecycleState.text

/-- A pass that came to its end moves the series from the state on record to the
one it reports. -/
theorem Metrics.shown_countOutcome (m : Metrics) (r : ManagedResource)
    (seconds : Float) (o : Pass.Outcome) :
    (m.countOutcome r seconds o).shown r.kind.text r.labels
      = moved (r.status.lifecycleState.map LifecycleState.text) o.shown
        (m.shown r.kind.text r.labels) := by
  unfold countOutcome
  simp only
  rw [shown_moveState]
  cases o.dispatched <;> rfl

/-- The metrics after some drives, from the start of the operator. -/
def metricsAfter (drives : List Drive) : Metrics :=
  drives.foldl (fun m d => m.countDriven d.pass.resource d.seconds d.driven) {}

/-- The state that was to be shown last. -/
def lastShown (drives : List Drive) : Option String :=
  drives.foldl (fun shown d => match d.driven with
    | .passed (.ok o) => o.shown
    | _ => shown) none

namespace Drive

/-- The drive is one of a resource. -/
structure Concerns (d : Drive) (kind : String) (resource : ResourceLabels) :
    Prop where
  kind_eq : d.pass.resource.kind.text = kind
  labels_eq : d.pass.resource.labels = resource

/-- The state on record when the drive begins. -/
def recorded (d : Drive) : Option String :=
  d.pass.resource.status.lifecycleState.map LifecycleState.text

/-- The series of a resource are right after a drive: there is at most one;
after a pass that came to its end and kept the resource it is that of the state
the pass reports; and there is none once the resource has been let go. -/
structure ShownRight (d : Drive) (states : List String) : Prop where
  one : states.length ≤ 1
  reported : ∀ o, d.driven = .passed (.ok o) → o.finalized = false →
    states = (o.status.lifecycleState.map LifecycleState.text).toList
  released : d.Released → states = []

/-- A drive leaves the series of a state behind: it lets the resource go without
a pass, or its pass comes to its end in another state and did not find that one
on record. -/
inductive Leaves (d : Drive) (state : String) : Prop where
  | detached {next : Except OperatorError (Option Duration)}
      (skipped : d.driven = .skipped next) (released : d.Released) :
      Leaves d state
  | moved {o : Pass.Outcome} (passed : d.driven = .passed (.ok o))
      (other : o.shown ≠ some state) (unrecorded : d.recorded ≠ some state) :
      Leaves d state

end Drive

theorem lastShown_concat_of_ok (h : d.driven = .passed (.ok o)) :
    lastShown (drives ++ [d]) = o.shown := by
  unfold lastShown
  rw [List.foldl_append, List.foldl_cons, List.foldl_nil, h]

theorem lastShown_concat_of_not_ok (h : ∀ o, d.driven ≠ .passed (.ok o)) :
    lastShown (drives ++ [d]) = lastShown drives := by
  unfold lastShown
  rw [List.foldl_append, List.foldl_cons, List.foldl_nil]
  split
  next o ho => exact absurd ho (h o)
  next => rfl

theorem shown_concat_of_ok (concerns : d.Concerns kind resource)
    (h : d.driven = .passed (.ok o)) :
    (metricsAfter (drives ++ [d])).shown kind resource
      = Metrics.moved d.recorded o.shown
        ((metricsAfter drives).shown kind resource) := by
  unfold metricsAfter
  rw [List.foldl_append, List.foldl_cons, List.foldl_nil, h, ← concerns.kind_eq,
    ← concerns.labels_eq]
  exact Metrics.shown_countOutcome _ _ _ o

theorem Metrics.shown_countDriven_of_not_ok {driven : Driven} (m : Metrics)
    (r : ManagedResource) (seconds : Float)
    (h : ∀ o, driven ≠ .passed (.ok o)) :
    (m.countDriven r seconds driven).shown kind resource
      = m.shown kind resource := by
  cases driven with
  | passed result =>
    cases result with
    | ok o => exact absurd rfl (h o)
    | error e => rfl
  | skipped next => rfl

theorem shown_concat_of_not_ok (h : ∀ o, d.driven ≠ .passed (.ok o)) :
    (metricsAfter (drives ++ [d])).shown kind resource
      = (metricsAfter drives).shown kind resource := by
  unfold metricsAfter
  rw [List.foldl_append, List.foldl_cons, List.foldl_nil]
  exact Metrics.shown_countDriven_of_not_ok _ _ _ h

/-! ## One drive -/

/-- After a pass that came to its end the series are right exactly if they tell
what the pass comes to. -/
theorem Drive.shownRight_iff_of_ok (h : d.driven = .passed (.ok o)) :
    d.ShownRight states ↔ states = o.shown.toList := by
  have hreleased : d.Released ↔ o.finalized = true := by
    rw [Drive.released_iff_of_passed h]
    simp
  unfold Pass.Outcome.shown
  constructor
  · intro right
    cases hfinal : o.finalized with
    | false => exact right.reported o h hfinal
    | true => exact right.released (hreleased.mpr hfinal)
  · rintro rfl
    constructor
    · exact Option.length_toList_le
    · rintro o' ho' hstays
      cases h.symm.trans ho'
      rw [hstays]
      rfl
    · intro hgone
      rw [hreleased.mp hgone]
      rfl

/-- Without a pass that came to its end there is one series at most, and none if
the resource has been let go. -/
theorem Drive.shownRight_iff_of_not_ok (h : ∀ o, d.driven ≠ .passed (.ok o))
    {last : Option String} :
    d.ShownRight last.toList ↔ (d.Released → last = none) := by
  constructor
  · intro right hgone
    exact Option.toList_eq_nil_iff.mp (right.released hgone)
  · intro hgone
    constructor
    · exact Option.length_toList_le
    · intro o ho
      exact absurd ho (h o)
    · intro hreleased
      rw [hgone hreleased]
      rfl

/-- Without a pass that came to its end, a resource is let go only without any
pass. -/
theorem Drive.skipped_of_released (h : ∀ o, d.driven ≠ .passed (.ok o))
    (released : d.Released) : ∃ next, d.driven = .skipped next := by
  cases hdriven : d.driven with
  | passed r =>
    obtain ⟨o, rfl, -⟩ := (Drive.released_iff_of_passed hdriven).mp released
    exact absurd hdriven (h o)
  | skipped next => exact ⟨next, rfl⟩

/-- The series of a resource tell the state that was to be shown last. -/
def Tells (kind : String) (resource : ResourceLabels) (drives : List Drive) :
    Prop :=
  (metricsAfter drives).shown kind resource = (lastShown drives).toList

/-- If the series were right before a drive, they are so after it exactly if it
leaves none behind. -/
theorem Tells.shownRight_iff (tells : Tells kind resource drives)
    (concerns : d.Concerns kind resource) :
    d.ShownRight ((metricsAfter (drives ++ [d])).shown kind resource)
      ↔ ∀ state, lastShown drives = some state → ¬ d.Leaves state := by
  unfold Tells at tells
  by_cases hok : ∃ o, d.driven = .passed (.ok o)
  · obtain ⟨o, ho⟩ := hok
    rw [Drive.shownRight_iff_of_ok ho, shown_concat_of_ok concerns ho, tells]
    cases lastShown drives with
    | none => simp [Metrics.moved_nil]
    | some state =>
      rw [Option.toList_some]
      constructor
      · rintro hmoved _ ⟨⟩ (⟨hskipped, -⟩ | ⟨hpassed, other, unrecorded⟩)
        · cases ho.symm.trans hskipped
        · cases ho.symm.trans hpassed
          -- what the pass has not found on record is still shown
          have hmem : state ∈ Metrics.moved d.recorded o.shown [state] :=
            Metrics.mem_moved unrecorded (List.mem_singleton_self state)
          rw [hmoved, Option.mem_toList] at hmem
          exact other hmem
      · intro hnone
        by_cases hsame : o.shown = some state
        · rw [hsame]
          exact Metrics.moved_to_shown _ _
        · have hrecorded : d.recorded = some state := by
            by_contra hother
            exact hnone state rfl (.moved ho hsame hother)
          rw [hrecorded]
          exact Metrics.moved_from_shown hsame
  · have hnot : ∀ o, d.driven ≠ .passed (.ok o) := not_exists.mp hok
    rw [shown_concat_of_not_ok hnot, tells, Drive.shownRight_iff_of_not_ok hnot]
    constructor
    · rintro hgone state hlast (⟨-, released⟩ | ⟨hpassed, -, -⟩)
      · rw [hgone released] at hlast
        cases hlast
      · exact hnot _ hpassed
    · intro hnone released
      -- a deletion that could not be gone about was let go without a pass
      obtain ⟨next, hskipped⟩ := Drive.skipped_of_released hnot released
      cases hlast : lastShown drives with
      | none => rfl
      | some state =>
        exact absurd (.detached hskipped released) (hnone state hlast)

/-- Series that are right after a drive tell the state that was to be shown
last. -/
theorem Tells.concat (tells : Tells kind resource drives)
    (right :
      d.ShownRight ((metricsAfter (drives ++ [d])).shown kind resource)) :
    Tells kind resource (drives ++ [d]) := by
  unfold Tells
  by_cases hok : ∃ o, d.driven = .passed (.ok o)
  · obtain ⟨o, ho⟩ := hok
    rw [lastShown_concat_of_ok ho]
    exact (Drive.shownRight_iff_of_ok ho).mp right
  · have hnot : ∀ o, d.driven ≠ .passed (.ok o) := not_exists.mp hok
    rw [shown_concat_of_not_ok hnot, lastShown_concat_of_not_ok hnot]
    exact tells

/-! ## Whole runs -/

/-- The series of a resource are right after each drive. -/
def AllShownRight (kind : String) (resource : ResourceLabels)
    (drives : List Drive) : Prop :=
  ∀ before d after, drives = before ++ d :: after →
    d.ShownRight ((metricsAfter (before ++ [d])).shown kind resource)

/-- No drive leaves the state behind that was to be shown before it. -/
def NoneLeft (drives : List Drive) : Prop :=
  ∀ before d after, drives = before ++ d :: after → ∀ state,
    lastShown before = some state → ¬ d.Leaves state

theorem allShownRight_nil : AllShownRight kind resource [] := by
  simp [AllShownRight]

theorem allShownRight_concat_iff :
    AllShownRight kind resource (drives ++ [d])
      ↔ AllShownRight kind resource drives
      ∧ d.ShownRight ((metricsAfter (drives ++ [d])).shown kind resource) :=
  forall_split_concat_iff

theorem noneLeft_nil : NoneLeft [] := by
  simp [NoneLeft]

theorem noneLeft_concat_iff :
    NoneLeft (drives ++ [d]) ↔ NoneLeft drives ∧ ∀ state,
      lastShown drives = some state → ¬ d.Leaves state :=
  forall_split_concat_iff

/-- Series that are right all along tell the state that was to be shown last. -/
theorem AllShownRight.tells (right : AllShownRight kind resource drives) :
    Tells kind resource drives := by
  induction drives using List.reverseRecOn with
  | nil => rfl
  | append_singleton drives d ih =>
    obtain ⟨hearlier, hlast⟩ := allShownRight_concat_iff.mp right
    exact (ih hearlier).concat hlast

theorem allShownRight_iff_noneLeft
    (concerns : ∀ d ∈ drives, d.Concerns kind resource) :
    AllShownRight kind resource drives ↔ NoneLeft drives := by
  induction drives using List.reverseRecOn with
  | nil => exact iff_of_true allShownRight_nil noneLeft_nil
  | append_singleton drives d ih =>
    have hearlier := ih fun e he => concerns e (List.mem_append_left _ he)
    have hlast := fun right : AllShownRight kind resource drives =>
      right.tells.shownRight_iff (concerns d (by simp))
    rw [allShownRight_concat_iff, noneLeft_concat_iff, ← hearlier]
    exact and_congr_right hlast

/-- In a run of which each drive begins with the status that was stored last,
the state on record is the one that was to be shown last, unless it is that of a
mark: its pass failed, and none has come to its end since. -/
theorem Drives.recorded_or_failed {s₀ s : Status} (h : Drives s₀ drives s)
    (hlast : lastShown drives = some state) :
    s.lifecycleState.map LifecycleState.text = some state
      ∨ ∃ before failed after, drives = before ++ failed :: after
        ∧ failed.FailedUnder s.lifecycleState
        ∧ ∀ e ∈ after, ∀ o, e.driven ≠ .passed (.ok o) := by
  induction h with
  | start => cases hlast
  | @step drives s d past begins ih =>
    rcases d.driving.state_stored with ⟨o, ho, hstored⟩
      | ⟨hnot, hsame | hfailed⟩
    · left
      rw [lastShown_concat_of_ok ho] at hlast
      unfold Pass.Outcome.shown at hlast
      split at hlast
      next => cases hlast
      next hstays =>
        have hstate : d.stored.lifecycleState = o.status.lifecycleState :=
          hstored (by simpa using hstays)
        rw [hstate, hlast]
    · have hstate : d.stored.lifecycleState = s.lifecycleState := begins ▸ hsame
      rw [lastShown_concat_of_not_ok hnot] at hlast
      rw [hstate]
      refine (ih hlast).imp_right ?_
      rintro ⟨before, failed, after, rfl, hfailed, hsince⟩
      refine ⟨before, failed, after ++ [d], by simp, hfailed, ?_⟩
      intro e he
      rcases List.mem_append.mp he with he | he
      · exact hsince e he
      · rwa [List.mem_singleton.mp he]
    · exact .inr ⟨drives, d, [], rfl, hfailed, by simp⟩

/-- **The state that a resource is shown in.** From the start of the operator a
resource is driven, with passes that come to their end or fail, and without
passes.

1. The series of the resource are right after each drive (one at most, that of
   the state which a pass has come to, none once the resource has been let go)
   exactly if no drive leaves the state behind that was to be shown before it:
   none lets the resource go without a pass, and none has a pass that comes to
   another state and began with another one on record.
2. If each drive begins with the status that was stored last, another state is
   on record only if a pass has failed after it stored a mark under that state,
   and no pass has come to its end since. -/
theorem resource_shown_right_iff
    (concerns : ∀ d ∈ drives, d.Concerns kind resource) :
    (AllShownRight kind resource drives ↔ NoneLeft drives)
      ∧ ∀ s₀ s, Drives s₀ drives s → ∀ before d after,
        drives = before ++ d :: after →
        ∀ state, lastShown before = some state → d.recorded ≠ some state →
          ∃ earlier failed later, before = earlier ++ failed :: later
            ∧ failed.FailedUnder d.pass.resource.status.lifecycleState
            ∧ ∀ e ∈ later, ∀ o, e.driven ≠ .passed (.ok o) := by
  refine ⟨allShownRight_iff_noneLeft concerns, ?_⟩
  intro s₀ s run before d after hsplit state hlast hother
  have earlier : Drives s₀ before d.pass.resource.status :=
    run.before before d after hsplit
  exact (earlier.recorded_or_failed hlast).resolve_left hother

/-- A remote with one database in a state. -/
def remoteIn (state : LifecycleState) : SimulatedRemote :=
  { objects :=
      Dict.ofList
        [("ocid1.adb.1", { id := "ocid1.adb.1", state, attributes := {} })] }

/-- A look at the database with a status, and what it meets. -/
def lookAt (status : Status) (deletionRequested : Bool) (seconds : Int)
    (met : Simulation) : Drive :=
  .simulated Simulation.answer
    (.ofDatabase (some "sales") status deletionRequested ⟨seconds, 0⟩) (.ok ())
    (.ok ()) met

/-- The database is on record and available. -/
def availableDrive : Drive :=
  lookAt { identity := some "ocid1.adb.1" } false 1700000000
    { remote := remoteIn .available }

/-- The next look, when it has been stopped. -/
def stoppedDrive : Drive :=
  lookAt availableDrive.stored false 1700000060 { remote := remoteIn .stopped }

/-- The deletion of the database when it has been stopped. The object is gone by
the time it is to be deleted, and the resource cannot be let go. -/
def failingDrive : Drive :=
  lookAt availableDrive.stored true 1700000060
    { remote :=
        { remoteIn .stopped with
          failures :=
            Dict.ofList [("delete", [some (.notFound "ocid1.adb.1")])] }
      store :=
        { failures :=
            Dict.ofList
              [("release_finalizer", [some (.transient "timeout")])] } }

/-- The deletion after that, which lets the resource go. -/
def releasingDrive : Drive :=
  lookAt failingDrive.stored true 1700000120 {}

/-- A database that stops is shown as stopped. If it is found stopped by a pass
that fails, it is that pass which has put another state on record than the one
shown. -/
theorem stopped_database_shown :
    stoppedDrive.ShownRight
        ((metricsAfter [availableDrive, stoppedDrive]).shown
          "AutonomousDatabase" ⟨"default", "sales"⟩)
      ∧ ∃ earlier failed later,
        [availableDrive, failingDrive] = earlier ++ failed :: later
          ∧ failed.FailedUnder (some .stopped) := by
  constructor
  · have hconcerns : ∀ d ∈ [availableDrive, stoppedDrive],
    d.Concerns "AutonomousDatabase" ⟨"default", "sales"⟩ := by
      simp only [List.mem_cons, List.not_mem_nil, or_false]
      rintro d (rfl | rfl)
      · exact ⟨rfl, rfl⟩
      · exact ⟨rfl, rfl⟩
    have hmoved : ∀ state, lastShown [availableDrive] = some state →
        ¬ stoppedDrive.Leaves state := by
      have hlast : lastShown [availableDrive] = stoppedDrive.recorded := by
        decide +kernel
      have hkept : ¬ stoppedDrive.Released := by decide +kernel
      rintro state hstate (⟨-, released⟩ | ⟨-, -, unrecorded⟩)
      · exact hkept released
      · exact unrecorded (hlast ▸ hstate)
    have hfirst : NoneLeft ([] ++ [availableDrive]) :=
      noneLeft_concat_iff.mpr ⟨noneLeft_nil, by rintro state ⟨⟩⟩
    have hboth : NoneLeft [availableDrive, stoppedDrive] :=
      noneLeft_concat_iff.mpr ⟨hfirst, hmoved⟩
    exact (resource_shown_right_iff hconcerns).1.mpr hboth
      [availableDrive] stoppedDrive [] rfl
  · have hconcerns : ∀ d ∈ [availableDrive, failingDrive, releasingDrive],
        d.Concerns "AutonomousDatabase" ⟨"default", "sales"⟩ := by
      simp only [List.mem_cons, List.not_mem_nil, or_false]
      rintro d (rfl | rfl | rfl)
      · exact ⟨rfl, rfl⟩
      · exact ⟨rfl, rfl⟩
      · exact ⟨rfl, rfl⟩
    have hrun : Drives availableDrive.pass.resource.status
      [availableDrive, failingDrive, releasingDrive]
        releasingDrive.stored := .cons rfl (.cons rfl (.cons rfl .start))
    have hrecorded : releasingDrive.pass.resource.status.lifecycleState
      = some .stopped := by decide +kernel
    obtain ⟨earlier, failed, later, hsplit, hfailed, -⟩ :=
      (resource_shown_right_iff hconcerns).2 _ _ hrun
        [availableDrive, failingDrive] releasingDrive [] rfl "AVAILABLE"
        (by decide +kernel) (by decide +kernel)
    exact ⟨earlier, failed, later, hsplit, hrecorded ▸ hfailed⟩

/-- A database is still shown as available though its resource has been let go:
the pass before, which failed, had found it stopped. -/
theorem released_database_still_shown :
    Drives availableDrive.pass.resource.status
        [availableDrive, failingDrive, releasingDrive] releasingDrive.stored
      ∧ releasingDrive.Released
      ∧ (metricsAfter [availableDrive, failingDrive, releasingDrive]).shown
          "AutonomousDatabase" ⟨"default", "sales"⟩
        = ["AVAILABLE"] := by
  refine ⟨?_, by decide +kernel, by decide +kernel⟩
  exact .cons rfl (.cons rfl (.cons rfl .start))

end DatabaseOperator
