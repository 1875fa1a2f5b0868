import DatabaseOperator.Proofs.Pass.Guard
import DatabaseOperator.Proofs.Pass.Reading

/-!
# What a pass goes by when it chooses an action

The next action is chosen by the grounds of the status, and only what the remote
reports of the object changes those. So a pass that is told again what is on
record already, or is told nothing, chooses as if it had not looked.

- `Pass.Confirms`: a snapshot says of the object what is on record.
- `Pass.GoesBy`: the snapshot that a pass goes by.
- `Pass.Repeats`: the exchanges of a pass tell of an object what a snapshot
  says, if they tell anything.
- `Pass.grounds_of_walk_observeRemote`: such exchanges leave the grounds as they
  are.
- `Pass.Sends.grounds`: the grounds on which an action is sent are those on
  which it was chosen.
-/

namespace DatabaseOperator.Pass

variable {p : Pass} {s s' : Status} {id : String} {t t₁ t₂ : List PassEvent}
    {found again : Snapshot}

/-! ## Being told the same -/

/-- A snapshot says of the object what is on record already. -/
def Confirms (found : Snapshot) (s : Status) : Prop :=
  (observe s found).grounds = s.grounds

theorem confirms_iff_of_grounds (h : s.grounds = s'.grounds) :
    Confirms found s ↔ Confirms found s' := by
  have hobserve : ∀ s : Status, (observe s found).grounds
    = (observe s.grounds found).grounds := fun _ => rfl
  unfold Confirms
  rw [hobserve s, h, ← hobserve s']

/-- What was observed once is confirmed by observing it again. -/
theorem confirms_observe (s : Status) (found : Snapshot) :
    Confirms found (observe s found) := by
  unfold Confirms observe
  cases s.identity <;> cases found.attributes.isEmpty <;> rfl

/-- Two snapshots of an object agree. -/
def Agree (found again : Snapshot) : Prop :=
  again.state = found.state ∧ again.attributes = found.attributes

/-- Of an object on record one of two snapshots that agree says as much as the
other. -/
theorem Confirms.of_agree (h : Confirms found s) (known : s.identity = some id)
    (agree : Agree found again) : Confirms again s := by
  obtain ⟨hstate, hattributes⟩ := agree
  have hsame : observe s again = observe s found := by
    simp [observe, known, hstate, hattributes]
  unfold Confirms
  rw [hsame]
  exact h

/-- The exchanges tell of an object what a snapshot says of it, if they tell
anything: it is found, and whatever shows it agrees with the snapshot. -/
structure Repeats (id : String) (found : Snapshot) (t : List PassEvent) :
    Prop where
  present : ∀ reply : Reply Snapshot, .remote (.get id) reply ∈ t →
    reply.isNotFound = false
  read : ∀ again : Snapshot, .remote (.get id) (.answered again) ∈ t →
    Agree found again
  listed : ∀ (filter : ListFilter) (reply : Reply (List Snapshot))
    (again : Snapshot), .remote (.list filter) reply ∈ t →
      listedAs id reply.items = some again → Agree found again

theorem Repeats.mono (h : Repeats id found t) (hsub : ∀ e ∈ t₁, e ∈ t) :
    Repeats id found t₁ where
  present reply hmem := h.present reply (hsub _ hmem)
  read again hmem := h.read again (hsub _ hmem)
  listed filter reply again hmem := h.listed filter reply again (hsub _ hmem)

/-! ## Reading -/

theorem Reads.direct_mem {direct : Reply Snapshot} {listed : Option Snapshot}
    (h : p.Reads id t direct listed) : .remote (.get id) direct ∈ t := by
  cases h <;> exact List.mem_cons_self ..

theorem Reads.listed_mem {direct : Reply Snapshot} {listed : Option Snapshot}
    (h : p.Reads id t direct listed) (shown : listed = some found) :
    ∃ reply, .remote (.list p.resource.listFilter) reply ∈ t
      ∧ listedAs id reply.items = some found := by
  cases h with
  | alone => cases shown
  | @listed _ reply => exact ⟨reply, by simp, shown⟩

theorem grounds_afterReadError (p : Pass) (s : Status) (e : RemoteError) :
    (p.afterReadError s e).status.grounds = s.grounds := by
  unfold afterReadError
  cases e.errorClass <;> rfl

/-- Reads that confirm what is on record leave the grounds as they are. -/
theorem grounds_mergeReads {direct : Except RemoteError Snapshot}
    {listed : Option Snapshot}
    (present : ∀ e, direct = .error e → e.isNotFound = false)
    (read : ∀ again, direct = .ok again → Confirms again s)
    (shown : ∀ again, listed = some again → Confirms again s) :
    (p.mergeReads s direct listed).status.grounds = s.grounds := by
  unfold mergeReads
  split
  next direct listed =>
    have hread := read direct rfl
    have hshown := shown listed rfl
    -- two reads that confirm the state on record agree on it
    have hstate : direct.state = listed.state :=
      Option.some.inj (congrArg Status.lifecycleState (hread.trans hshown.symm))
    rw [if_pos hstate]
    show (observe s (fresher direct (some listed))).grounds = s.grounds
    unfold fresher
    simp only
    split
    · exact hread
    · exact hshown
  next direct => exact read direct rfl
  next e listed =>
    rw [if_neg (by simp [present e rfl])]
    exact shown listed rfl
  next e =>
    rw [if_neg (by simp [present e rfl])]
    exact grounds_afterReadError p s e

/-- A pass that begins without a mark observes without one. -/
theorem unmarked_of_walk_observeRemote {step : Step}
    (unmarked : p.resource.status.inFlight = none)
    (h : (p.observeRemote p.initialStatus).Walk t step) :
    step.status.inFlight = none := by
  have hunmarked : p.initialStatus.inFlight = none := unmarked
  cases hid : p.resource.status.identity with
  | none =>
    have hunknown : p.initialStatus.identity = none := hid
    rcases ((walk_observeRemote_of_none hunknown).mp h).inherits_or_adopts
      with hkept | ⟨_, _, _, marked, -⟩
    · exact hkept.2.elim (fun hsame => hsame.trans hunmarked) id
    · rw [hunmarked] at marked
      cases marked
  | some known =>
    have hkept := inherits_of_walk_observeRemote hid h
    exact hkept.2.elim (fun hsame => hsame.trans unmarked) id

/-- A pass that is told of the object on record what is on record, if anything,
ends its first stage on the grounds that it began with. -/
theorem grounds_of_walk_observeRemote {step : Step}
    (unmarked : p.resource.status.inFlight = none)
    (told : ∀ id, p.resource.status.identity = some id → ∃ found,
      Confirms found p.resource.status ∧ Repeats id found t)
    (h : (p.observeRemote p.initialStatus).Walk t step) :
    step.status.grounds = p.resource.status.grounds := by
  cases hid : p.resource.status.identity with
  | none =>
    -- there is no mark of a create to look for
    have hunknown : p.initialStatus.identity = none := hid
    have hunmarked : p.initialStatus.inFlight = none := unmarked
    cases (walk_observeRemote_of_none hunknown).mp h with
    | unmarked => rfl
    | irrelevant marked | repeatable marked | blind marked | adopted marked
    | unseen marked =>
      rw [hunmarked] at marked
      cases marked
  | some id =>
    obtain ⟨found, confirms, repeats⟩ := told id hid
    have hconfirms :
        ∀ {again}, Agree found again → Confirms again p.initialStatus :=
      fun agree => (confirms_iff_of_grounds (s := p.resource.status) rfl).mp
        (confirms.of_agree hid agree)
    obtain ⟨direct, listed, reads, rfl⟩ := reads_of_walk_observeRemote hid h []
    rw [List.append_nil] at reads
    have hget : .remote (.get id) direct ∈ t := reads.direct_mem
    refine grounds_mergeReads (s := p.initialStatus) (fun e he => ?_)
      (fun again hagain => ?_) fun again hagain => ?_
    · have hpresent := repeats.present direct hget
      cases hfound : e.isNotFound with
      | false => rfl
      | true =>
        rw [eq_failed_of_isNotFound he hfound] at hpresent
        exact hfound.symm.trans hpresent
    · obtain rfl := outcomeOf_eq_ok_iff.mp hagain
      exact hconfirms (repeats.read again hget)
    · obtain ⟨reply, hlist, hshown⟩ := reads.listed_mem hagain
      exact hconfirms (repeats.listed _ reply again hlist hshown)

/-! ## Choosing -/

theorem grounds_trackInFlight (p : Pass) (s : Status)
    (action : Option CorrectiveAction) :
    (p.trackInFlight s action).status.grounds = s.grounds := by
  unfold trackInFlight
  split
  next => rfl
  next =>
    split
    next =>
      simp only
      split <;> rfl
    next => split <;> rfl

theorem grounds_forgetFailed (p : Pass) (s : Status) :
    (p.forgetFailed s).grounds = s.grounds := by
  show (p.forgetFailed s).facts.grounds = s.grounds
  rw [facts_forgetFailed]
  rfl

theorem Chooses.grounds {needed : Option CorrectiveAction}
    (h : p.Chooses t s needed) :
    ∃ seen, (p.observeRemote p.initialStatus).Walk t (.proceed seen)
      ∧ p.resource.nextAction? seen = needed
      ∧ s.grounds = seen.grounds := by
  obtain ⟨seen, observed, hneeded, free⟩ := h
  have hkept := grounds_trackInFlight p seen needed
  rw [free] at hkept
  exact ⟨seen, observed, hneeded, hkept⟩

/-- Without a mark nothing is held back. -/
theorem trackInFlight_of_unmarked (h : s.inFlight = none)
    (action : Option CorrectiveAction) :
    p.trackInFlight s action = .proceed s := by
  unfold trackInFlight
  rw [h]

/-- An action is sent on the grounds on which it was chosen. -/
theorem Sends.grounds {action : CorrectiveAction} (h : p.Sends t s action) :
    ∃ seen, (p.observeRemote p.initialStatus).Walk t (.proceed seen)
      ∧ p.resource.nextAction? seen = some action
      ∧ s.grounds = seen.grounds := by
  obtain ⟨chosen, hchosen, -, -, rfl⟩ := h
  obtain ⟨seen, observed, needed, hkept⟩ := hchosen.grounds
  exact ⟨seen, observed, needed, (grounds_forgetFailed p chosen).trans hkept⟩

/-! ## The snapshot to go by -/

/-- The snapshot that a pass goes by: what the direct read shows, with the
attributes of the list if it has any; what the list shows, if the direct read
fails; or the object of a lost create. -/
inductive GoesBy (p : Pass) (t : List PassEvent) : Snapshot → Prop where
  | read {id : String} {direct : Snapshot} {listed : Option Snapshot}
      (reads : p.Reads id t (.answered direct) listed) :
      GoesBy p t (fresher direct listed)
  | listed {id : String} {direct : Reply Snapshot} {e : RemoteError}
      {found : Snapshot} (reads : p.Reads id t direct (some found))
      (unread : p.outcomeOf direct = .error e) : GoesBy p t found
  | adopted {reply : Reply (List Snapshot)} {rest : List PassEvent}
      {found : Snapshot} (unknown : p.resource.status.identity = none)
      (ht : t = .remote (.list p.resource.listFilter) reply :: rest)
      (sole : soleLive reply.items = some found) : GoesBy p t found

/-- A pass that has read its object goes by that, and by the list as far as it
has fresher attributes. -/
theorem GoesBy.eq_of_reads {direct : Snapshot} {listed : Option Snapshot}
    (h : p.GoesBy t found) (reads : p.Reads id t (.answered direct) listed) :
    found = fresher direct listed := by
  cases h with
  | read reads' =>
    obtain rfl := Option.some.inj (reads.known.symm.trans reads'.known)
    obtain ⟨hdirect, rfl⟩ := reads.unique reads'
    cases hdirect
    rfl
  | listed reads' unread =>
    obtain rfl := Option.some.inj (reads.known.symm.trans reads'.known)
    obtain ⟨rfl, -⟩ := reads.unique reads'
    cases unread
  | adopted unknown =>
    rw [reads.known] at unknown
    cases unknown

/-- A pass that goes on after its reads has one of them on record, or an object
that has come to an end. -/
theorem confirms_of_mergeReads {direct : Except RemoteError Snapshot}
    {listed : Option Snapshot} {seen : Status}
    (h : p.mergeReads s direct listed = .proceed seen) :
    (∃ found, direct = .ok found ∧ Confirms (fresher found listed) seen)
      ∨ (∃ e found, direct = .error e ∧ listed = some found
        ∧ Confirms found seen)
      ∨ seen.lifecycleState.any LifecycleState.isTerminal = true := by
  unfold mergeReads at h
  split at h
  next found other =>
    split at h
    next =>
      cases h
      exact .inl ⟨found, rfl, confirms_observe _ _⟩
    next =>
      obtain ⟨_, _, hstop⟩ := afterMismatch_eq_stop p s (some found.state) other
      rw [hstop] at h
      cases h
  next found =>
    cases h
    exact .inl ⟨found, rfl, confirms_observe _ _⟩
  next e other =>
    split at h
    next =>
      obtain ⟨_, _, hstop⟩ := afterMismatch_eq_stop p s none other
      rw [hstop] at h
      cases h
    next =>
      cases h
      exact .inr (.inl ⟨e, other, rfl, rfl, confirms_observe _ _⟩)
  next e =>
    split at h
    next => exact .inr (.inr (isTerminal_of_afterMissing h))
    next =>
      obtain ⟨_, _, hstop⟩ := afterReadError_eq_stop p s e
      rw [hstop] at h
      cases h

/-- A pass that sends an action for an object goes by a snapshot of it, and has
that on record. -/
theorem Sends.goesBy {action : CorrectiveAction}
    (hdel : p.resource.deletionRequested = false) (h : p.Sends t s action)
    (known : s.identity = some id) (rest : List PassEvent) :
    ∃ found, p.GoesBy (t ++ rest) found ∧ Confirms found s := by
  obtain ⟨seen, observed, needed, hkept⟩ := h.grounds
  have hseen : seen.identity = some id :=
    (congrArg Status.identity hkept).symm.trans known
  suffices hgoes : ∃ found, p.GoesBy (t ++ rest) found ∧ Confirms found seen by
    obtain ⟨found, goes, confirms⟩ := hgoes
    exact ⟨found, goes, (confirms_iff_of_grounds hkept).mpr confirms⟩
  cases hid : p.resource.status.identity with
  | none =>
    have hunknown : p.initialStatus.identity = none := hid
    rcases
        ((walk_observeRemote_of_none hunknown).mp observed).inherits_or_adopts
      with hkept | ⟨pending, reply, found, -, -, -, rfl, sole, hstep⟩
    · -- the object would have to come from somewhere
      have hsame : seen.identity = p.initialStatus.identity := hkept.1
      rw [hseen, hunknown] at hsame
      cases hsame
    · cases hstep
      exact ⟨found, .adopted hid rfl sole, confirms_observe _ _⟩
  | some known =>
    obtain ⟨direct, listed, reads, hstep⟩ :=
      reads_of_walk_observeRemote hid observed rest
    rcases confirms_of_mergeReads hstep.symm with
      ⟨found, hdirect, confirms⟩ | ⟨e, found, hfailed, rfl, confirms⟩ | hend
    · obtain rfl := outcomeOf_eq_ok_iff.mp hdirect
      exact ⟨_, .read reads, confirms⟩
    · exact ⟨found, .listed reads hfailed, confirms⟩
    · rw [ManagedResource.nextAction?_of_terminal hdel
        (by rw [hseen]; rfl) hend] at needed
      cases needed

end DatabaseOperator.Pass
