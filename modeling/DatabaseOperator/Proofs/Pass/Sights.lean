import DatabaseOperator.Proofs.Pass.Grounds
import DatabaseOperator.Proofs.Pass.Settling

/-!
# What a pass is shown before it does anything

A pass looks at the remote before it does anything, and not again before it has
asked the store for something. What it is shown there is all that it decides by,
besides the status that it begins with.

- `Sight`, `sights`: a look with what it showed, and the looks that exchanges
  begin with.
- `Pass.Course.looks_first`: after its first stage a pass does not go on
  looking.
- `Pass.Tells`: the reads of an object on record, by what was shown.
- `Pass.mergeReads_again`, `Pass.proceed_of_sights`: what has let a pass go on
  lets the next one go on.
-/

namespace DatabaseOperator

/-- A look at the remote, with what it showed. -/
inductive Sight where
  | object (id : String) (reply : Reply Snapshot)
  | list (reply : Reply (List Snapshot))

/-- The looks that exchanges begin with. What a list is narrowed to is left
out. -/
def sights : List PassEvent → List Sight
  | ⟨.remote (.get id), reply⟩ :: t => .object id reply :: sights t
  | ⟨.remote (.list _), reply⟩ :: t => .list reply :: sights t
  | _ => []

section Sights

variable {t t₁ t₂ : List PassEvent}

/-- If no look follows at once, what follows makes no difference. -/
theorem sights_append (h : sights t₂ = []) : sights (t₁ ++ t₂) = sights t₁ := by
  fun_induction sights t₁ with
  | case1 id reply t ih =>
    rw [List.cons_append, sights, ih]
  | case2 filter reply t ih =>
    rw [List.cons_append, sights, ih]
  | case3 t hget hlist =>
    cases t with
    | nil => exact h
    | cons e t =>
      rw [List.cons_append, sights.eq_3]
      · rintro id reply rest hcons
        cases hcons
        exact hget _ _ _ rfl
      · rintro filter reply rest hcons
        cases hcons
        exact hlist _ _ _ rfl

theorem sights_of_secretReads (h : ∀ e ∈ t, Pass.IsSecretRead e) :
    sights t = [] := by
  cases t with
  | nil => rfl
  | cons e t =>
    obtain ⟨name, key, answer, rfl⟩ := h e (List.mem_cons_self ..)
    rfl

theorem Materialization.sights {target : WalletTarget} {identity : String}
    {r : Except WalletError WalletOutcome}
    (h : Materialization target identity t r) : sights t = [] := by
  cases h <;> rfl

end Sights

namespace Pass

variable {p q : Pass} {s s' seen : Status} {id : String}
    {t t₁ t₂ : List PassEvent} {step : Step} {r : Except OperatorError Outcome}

theorem sights_of_walk_finish {g : Progress} {d : Duration}
    (h : (finish g d).Walk t r) : sights t = [] := by
  rcases walk_finish_iff.mp h with ⟨-, rfl, -⟩ | ⟨-, answer, rfl, -⟩ <;> rfl

theorem sights_of_walk_settle {settled : Status × Duration}
    (h : (p.settle s).Walk t settled) : sights t = [] := by
  cases settles_of_walk h with
  | unseen | reported | plain => rfl
  | pending _ _ _ _ _ missing => exact missing.sights
  | equipped _ _ _ _ _ stored => exact stored.sights

/-- After its first stage a pass over a resource that stays does not go on
looking. -/
theorem Course.looks_first (h : p.Course t r) :
    ∃ t₁ rest step, t = t₁ ++ rest
      ∧ (p.observeRemote p.initialStatus).Walk t₁ step ∧ sights rest = [] := by
  cases h.conclusion with
  | rested rests ending =>
    cases rests with
    | stopped observed | held observed =>
      exact ⟨_, _, _, rfl, observed, sights_of_walk_finish ending⟩
    | settled chosen settling =>
      obtain ⟨seen, observed, -, -⟩ := chosen
      refine ⟨_, _, _, List.append_assoc .., observed, ?_⟩
      rw [sights_append (sights_of_walk_finish ending),
        sights_of_walk_settle settling]
    | refrained needed reads =>
      obtain ⟨seen, observed, -, -⟩ := needed
      refine ⟨_, _, _, List.append_assoc .., observed, ?_⟩
      rw [sights_append (sights_of_walk_finish ending),
        sights_of_secretReads reads]
  | unmarked sends credentials | sent sends credentials =>
    obtain ⟨chosen, ⟨seen, observed, -, -⟩, -⟩ := sends
    refine ⟨_, _, _, List.append_assoc .., observed, ?_⟩
    rw [sights_append rfl,
      sights_of_secretReads (walk_readCredentials credentials)]

/-- What is shown to a pass over a resource that stays is shown to its first
stage. -/
theorem sights_of_walk (stays : p.resource.deletionRequested = false)
    (h : p.run.Walk t r) :
    ∃ t₁ rest step, t = t₁ ++ rest
      ∧ (p.observeRemote p.initialStatus).Walk t₁ step
      ∧ sights t = sights t₁ := by
  obtain ⟨t₁, rest, step, rfl, observed, hrest⟩ :=
    (course_of_walk stays h).looks_first
  exact ⟨t₁, rest, step, rfl, observed, sights_append hrest⟩

/-! ## Reads shown again -/

/-- What was shown of an object on record: the reply to the direct read, and
what the list shows if it was consulted. -/
inductive Tells (id : String) : List Sight → Reply Snapshot → Option Snapshot →
    Prop where
  | alone {direct : Reply Snapshot} : Tells id [.object id direct] direct none
  | listed {direct : Reply Snapshot} {reply : Reply (List Snapshot)} :
      Tells id [.object id direct, .list reply] direct (listedAs id reply.items)

theorem Tells.unique {shown : List Sight} {direct direct' : Reply Snapshot}
    {listed listed' : Option Snapshot} (h : Tells id shown direct listed)
    (h' : Tells id shown direct' listed') :
    direct = direct' ∧ listed = listed' := by
  cases h <;> cases h' <;> exact ⟨rfl, rfl⟩

/-- The first stage of a pass whose object is on record puts together what it
was shown. -/
theorem tells_of_walk_observeRemote (hid : p.resource.status.identity = some id)
    (observed : (p.observeRemote p.initialStatus).Walk t step) :
    ∃ direct listed, Tells id (sights t) direct listed
      ∧ step = p.mergeReads p.initialStatus (p.outcomeOf direct) listed := by
  have hinit : p.initialStatus.identity = some id := hid
  obtain ⟨direct, ⟨-, rfl, rfl⟩ | ⟨-, reply, rfl, rfl⟩⟩ :=
    walk_refresh_iff.mp ((walk_observeRemote_of_some hinit).mp observed)
  · exact ⟨direct, none, .alone, rfl⟩
  · exact ⟨direct, _, .listed, rfl⟩

/-- Reads that are believed for one status are believed for every other, unless
they show that the object has come to an end. -/
theorem mergeReads_again {direct : Except RemoteError Snapshot}
    {listed : Option Snapshot}
    (h : p.mergeReads s direct listed = .proceed seen)
    (lasting : seen.lifecycleState.any LifecycleState.isTerminal = false) :
    ∃ found n, seen = observe { s with consistencyRetries := n } found
      ∧ ∀ (q : Pass) (s' : Status),
        ∃ n', q.mergeReads s' direct listed
          = .proceed (observe { s' with consistencyRetries := n' } found) := by
  unfold mergeReads at h
  split at h
  next found other =>
    split at h
    next agree =>
      cases h
      exact ⟨_, _, rfl, fun q s' => ⟨0, if_pos agree⟩⟩
    next =>
      obtain ⟨_, _, hstop⟩ := afterMismatch_eq_stop p s (some found.state) other
      rw [hstop] at h
      cases h
  next found =>
    cases h
    exact ⟨_, _, rfl, fun q s' => ⟨0, rfl⟩⟩
  next e other =>
    split at h
    next =>
      obtain ⟨_, _, hstop⟩ := afterMismatch_eq_stop p s none other
      rw [hstop] at h
      cases h
    next present =>
      cases h
      exact ⟨other, s.consistencyRetries, rfl, fun q s' =>
        ⟨s'.consistencyRetries, if_neg present⟩⟩
  next e =>
    split at h
    next =>
      rw [isTerminal_of_afterMissing h] at lasting
      cases lasting
    next =>
      obtain ⟨_, _, hstop⟩ := afterReadError_eq_stop p s e
      rw [hstop] at h
      cases h

/-- A status with what a pass decides by apart from its grounds: what is under
way, what waits, and what has failed. -/
structure SameMarks (s s' : Status) : Prop where
  inFlight : s.inFlight = s'.inFlight
  waiting : s.waiting = s'.waiting
  failedAction : s.failedAction = s'.failedAction

/-- A pass that begins on the grounds on which another one has gone on, and is
shown the same, goes on on the same grounds. -/
theorem proceed_of_sights (hid : p.resource.status.identity = some id)
    (known : q.resource.status.identity = some id)
    (hcalls : q.settings.callTimeout = p.settings.callTimeout)
    (observed : (p.observeRemote p.initialStatus).Walk t₁ (.proceed seen))
    (lasting : seen.lifecycleState.any LifecycleState.isTerminal = false)
    (same : q.resource.status.grounds = seen.grounds)
    (again : (q.observeRemote q.initialStatus).Walk t₂ step)
    (shown : sights t₂ = sights t₁) :
    SameMarks seen p.resource.status
      ∧ ∃ seen', step = .proceed seen' ∧ seen'.grounds = seen.grounds
        ∧ SameMarks seen' q.resource.status := by
  obtain ⟨direct, listed, htells, hstep⟩ :=
    tells_of_walk_observeRemote hid observed
  obtain ⟨direct', listed', htells', rfl⟩ :=
    tells_of_walk_observeRemote known again
  rw [shown] at htells'
  obtain ⟨rfl, rfl⟩ := htells.unique htells'
  have houtcome : q.outcomeOf direct = p.outcomeOf direct := by
    unfold outcomeOf
    rw [hcalls]
  obtain ⟨found, n, rfl, hagain⟩ := mergeReads_again hstep.symm lasting
  obtain ⟨n', hgoes⟩ := hagain q q.initialStatus
  rw [houtcome, hgoes]
  refine ⟨⟨rfl, rfl, rfl⟩, _, rfl, ?_, ⟨rfl, rfl, rfl⟩⟩
  -- what was observed once is confirmed by observing it again
  have hconfirms :
      Confirms found { q.initialStatus with consistencyRetries := n' } :=
    (confirms_iff_of_grounds same).mpr (confirms_observe _ found)
  exact hconfirms.trans same

end Pass

end DatabaseOperator
