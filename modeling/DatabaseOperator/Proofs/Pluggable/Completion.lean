import DatabaseOperator.Proofs.Pass.Guard
import DatabaseOperator.Proofs.Pluggable.Declaration

/-!
# What counts as completed

The status names the action on a pluggable database that was completed last. It
is written where the remote takes an action, and also where a pass finds the
object of an action that was to end with one: the answer to the action may have
been lost. The object need not have been seen for that. One that is gone or
going is on record too, and one that is missing goes by the state that an
earlier action explains.

- `Pass.Course.completed_cases`: the two ways in which an action comes to be
  recorded.
- `Pass.SeenLive`, `Pass.Presumes`: the object was seen alive, and the pass goes
  by one that was not.
- `Pass.presumes_or_seenLive`, `Pass.Presumes.proceeds`: a pass that goes on
  with an object on record does one of both.
- `Pass.recorded_unseen_iff_presumed`: an action that was not taken is recorded
  for such an object, and for no other.
-/

namespace DatabaseOperator.Pass

variable {p : Pass} {s seen : Status} {id : String} {t : List PassEvent}
    {r : Except OperatorError Outcome} {request : PdbRequest}

/-! ## Recording -/

/-- The pass goes on with an object on record, or with one that it has found. -/
def Finds (p : Pass) (t : List PassEvent) : Prop :=
  ∃ t₁ rest seen, t = t₁ ++ rest ∧ (p.observeRemote p.initialStatus).Walk t₁
    (.proceed seen)
    ∧ seen.identity.isSome = true

/-- A pass that has sent nothing records no action, or the declared one, if it
was to end with an object and there is one. -/
theorem Rests.completed_cases {d : Duration} (h : p.Rests t s d)
    (rest : List PassEvent) :
    s.lastCompletedAction = p.resource.status.lastCompletedAction
      ∨ ∃ request, p.resource.pdbRequest = some request
        ∧ s.lastCompletedAction = some request.signature
        ∧ request.action.givesIdentity = true ∧ p.Finds (t ++ rest) := by
  cases h with
  | stopped observed =>
    exact .inl
      (Status.lastCompletedAction_eq_of_verdicts
        (verdicts_of_walk_observeRemote observed))
  | @held _ seen _ _ observed held =>
    have hheld := verdicts_trackInFlight p seen (p.resource.nextAction? seen)
    rw [held] at hheld
    exact .inl
      (Status.lastCompletedAction_eq_of_verdicts
        (hheld.trans (verdicts_of_walk_observeRemote observed)))
  | @settled t₁ t₂ chosen s _ hchosen settling =>
    have hsettled : s.lastCompletedAction
        = (p.completeOneShot (p.forgetObstacles chosen)).lastCompletedAction :=
      lastCompletedAction_of_walk_settle settling
    have hbegin : (p.forgetObstacles chosen).lastCompletedAction
        = p.resource.status.lastCompletedAction :=
      (lastCompletedAction_forgetObstacles p chosen).trans
        (Status.lastCompletedAction_eq_of_verdicts hchosen.verdicts)
    rw [hsettled]
    cases hrequest : p.resource.pdbRequest with
    | none =>
      refine .inl ?_
      rw [← hbegin]
      unfold completeOneShot
      rw [hrequest]
    | some request =>
      rw [lastCompletedAction_completeOneShot hrequest]
      cases hcompletes : (p.forgetObstacles chosen).identity.isSome
        && request.action.givesIdentity with
      | false => exact .inl hbegin
      | true =>
        obtain ⟨hid, gives⟩ := Bool.and_eq_true_iff.mp hcompletes
        obtain ⟨seen, observed, -, hkept⟩ := hchosen.inherits
        have hknown : (p.forgetObstacles chosen).identity = seen.identity :=
          ((inherits_forgetObstacles p chosen).trans hkept).1
        rw [hknown] at hid
        exact .inr ⟨request, rfl, rfl, gives, t₁, t₂ ++ rest, seen,
          List.append_assoc .., observed, hid⟩
  | refrained needed _ _ completed =>
    exact .inl
      (completed.trans
        (Status.lastCompletedAction_eq_of_verdicts needed.verdicts))

/-- An action is recorded as completed if the remote took it, or if it was to
end with an object and there is one. -/
theorem completed_cases (hdel : p.resource.deletionRequested = false)
    (h : p.run.Walk t r) (hs : .saved s ∈ t) :
    s.lastCompletedAction = p.resource.status.lastCompletedAction
      ∨ ∃ request, p.resource.pdbRequest = some request
        ∧ s.lastCompletedAction = some request.signature
        ∧ (request.TakenIn t
          ∨ request.action.givesIdentity = true ∧ p.Finds t) := by
  cases (course_of_walk hdel h).conclusion with
  | @rested t₁ t₂ _ _ _ rests ending =>
    obtain rfl := eq_of_saved_mem_quits rests.quiet ending hs
    rcases rests.completed_cases t₂ with hsame
      | ⟨request, hrequest, hnew, gives, finds⟩
    · exact .inl hsame
    · exact .inr ⟨request, hrequest, hnew, .inr ⟨gives, finds⟩⟩
  | unmarked sends credentials =>
    have quiet := sends.quiet_readCredentials credentials
    exact absurd hs
      (saved_not_mem_append_refused (saveStatus_not_mem_of_quiet quiet))
  | @sent t₁ t₂ t₃ s' action c call reply _ sends credentials target ending =>
    have quiet := sends.quiet_readCredentials credentials
    have hbegin : (p.markDispatched s' action).lastCompletedAction
        = p.resource.status.lastCompletedAction :=
      sends.lastCompletedAction
    rcases eq_of_saved_mem_sent (saveStatus_not_mem_of_quiet quiet) ending hs
      with rfl | rfl
    · exact .inl hbegin
    · rcases lastCompletedAction_afterAnswer p (p.markDispatched s' action)
        action (p.answerOf call reply) with hsame | ⟨request, found, rfl,
          hanswer, hnew⟩
      · exact .inl (hsame.trans hbegin)
      · -- the remote took the request, which is the declared one
        obtain ⟨seen, -, needed, -⟩ := sends.inherits
        cases target
        obtain ⟨answer, rfl, -⟩ := answerOf_eq_ok_iff.mp hanswer
        exact .inr ⟨request, ManagedResource.nextAction?_eq_pdb hdel needed,
          hnew, .inl ⟨_, _, answer, by simp⟩⟩

/-! ## Going by an object -/

/-- An answer reported the object in a state in which it is neither gone nor
going: the one on record, or any that was listed if none is. -/
def SeenLive (p : Pass) (t : List PassEvent) : Prop :=
  ∃ id state, (∃ e ∈ t, Reports id state e) ∧ state.isTornDown = false
    ∧ ∀ known, p.resource.status.identity = some known → id = known

/-- The pass goes by an object on record that is gone or going. -/
inductive Presumes (p : Pass) (t : List PassEvent) : Prop where
  /-- It was read as gone or going, and the list does not contradict. -/
  | read {id : String} {found : Snapshot} {listed : Option Snapshot}
      (reads : p.Reads id t (.answered found) listed)
      (gone : found.state.isTornDown = true)
      (agreed : ∀ other, listed = some other → found.state = other.state)
  /-- The direct read failed, and the object was listed as gone or going. -/
  | listed {id : String} {direct : Reply Snapshot} {e : RemoteError}
      {found : Snapshot} (reads : p.Reads id t direct (some found))
      (failed : p.outcomeOf direct = .error e) (unread : e.isNotFound = false)
      (gone : found.state.isTornDown = true)
  /-- It was neither found nor listed, and an earlier action explains where it
  is. -/
  | missing {id : String} {e : RemoteError}
      (reads : p.Reads id t (.failed e) none) (absent : e.isNotFound = true)
      (old : p.resource.status.inFlight.any p.awaitsAppearance = false)
      (removed : (removedState? (lastSignature p.resource.status)).isSome
        = true)

/-- What was read directly is a report. -/
theorem Reads.reports {found : Snapshot} {listed : Option Snapshot}
    (h : p.Reads id t (.answered found) listed) :
    ∃ e ∈ t, Reports id found.state e := by
  cases h with
  | alone | listed => exact ⟨_, List.mem_cons_self .., .read rfl⟩

/-- So is what was listed. -/
theorem Reads.reports_of_listed {direct : Reply Snapshot} {found : Snapshot}
    (h : p.Reads id t direct (some found)) :
    ∃ e ∈ t, Reports id found.state e := by
  generalize hlisted : some found = listed at h
  cases h with
  | alone => cases hlisted
  | listed =>
    obtain ⟨hmem, rfl⟩ := mem_of_listedAs hlisted.symm
    exact ⟨_, List.mem_cons_of_mem _ (List.mem_cons_self ..),
      reports_of_mem_items p.resource.listFilter hmem⟩

/-- An object on record that was reported in a state was seen alive, unless it
is gone or going. -/
theorem seenLive_of_reports {state : LifecycleState}
    (known : p.resource.status.identity = some id)
    (report : ∃ e ∈ t, Reports id state e) (live : state.isTornDown = false) :
    p.SeenLive t := by
  refine ⟨id, state, report, live, fun other hother => ?_⟩
  rw [known] at hother
  exact Option.some.inj hother

/-- A pass that goes on with an object on record has seen it alive, or goes by
one that is not. -/
theorem presumes_or_seenLive {direct : Reply Snapshot}
    {listed : Option Snapshot} (reads : p.Reads id t direct listed)
    (h : p.mergeReads p.initialStatus (p.outcomeOf direct) listed
      = .proceed seen) : p.Presumes t ∨ p.SeenLive t := by
  -- a direct read counts; if it failed, the list does; and if there the object
  -- is missing, the removal on record
  cases hdirect : p.outcomeOf direct with
  | ok found =>
    obtain rfl := outcomeOf_eq_ok_iff.mp hdirect
    cases hgone : found.state.isTornDown with
    | false => exact .inr (seenLive_of_reports reads.known reads.reports hgone)
    | true =>
      refine .inl (.read reads hgone fun other hother => ?_)
      -- a contradiction would have ended the pass
      subst hother
      simp only [mergeReads, outcomeOf_answered] at h
      split at h
      next same => exact same
      next =>
        obtain ⟨_, _, hstop⟩ :=
          afterMismatch_eq_stop p p.initialStatus (some found.state) other
        rw [hstop] at h
        cases h
  | error e =>
    rw [hdirect] at h
    cases hlisted : listed with
    | some found =>
      subst hlisted
      simp only [mergeReads] at h
      cases habsent : e.isNotFound with
      | true =>
        -- an object that is listed, but not found, contradicts itself
        obtain ⟨_, _, hstop⟩ :=
          afterMismatch_eq_stop p p.initialStatus none found
        rw [habsent, if_pos rfl, hstop] at h
        cases h
      | false =>
        cases hgone : found.state.isTornDown with
        | false =>
          exact .inr
            (seenLive_of_reports reads.known reads.reports_of_listed hgone)
        | true => exact .inl (.listed reads hdirect habsent hgone)
    | none =>
      subst hlisted
      simp only [mergeReads] at h
      cases habsent : e.isNotFound with
      | false =>
        -- any other failure of the read has ended the pass
        obtain ⟨_, _, hstop⟩ := afterReadError_eq_stop p p.initialStatus e
        rw [habsent, if_neg (by simp), hstop] at h
        cases h
      | true =>
        obtain rfl := eq_failed_of_isNotFound hdirect habsent
        rw [habsent, if_pos rfl] at h
        obtain ⟨old, state, removed, -⟩ := afterMissing_eq_proceed_iff.mp h
        exact .inl
          (.missing reads habsent old
            (Option.isSome_iff_exists.mpr ⟨state, removed⟩))

/-- A pass that goes by an object goes on with it. -/
theorem Presumes.proceeds (h : p.Presumes t) :
    ∃ id direct listed seen, p.Reads id t direct listed
      ∧ p.mergeReads p.initialStatus (p.outcomeOf direct) listed
        = .proceed seen := by
  cases h with
  | @read id found listed reads _ agreed =>
    cases listed with
    | none => exact ⟨_, _, _, _, reads, rfl⟩
    | some other =>
      refine ⟨_, _, _, observe { p.initialStatus with consistencyRetries := 0 }
        (fresher found (some other)), reads, ?_⟩
      simp only [mergeReads, outcomeOf_answered]
      rw [if_pos (agreed other rfl)]
  | @listed id direct e found reads failed unread _ =>
    refine ⟨_, _, _, observe p.initialStatus found, reads, ?_⟩
    simp only [mergeReads, failed]
    rw [if_neg (by simp [unread])]
  | missing reads absent old removed =>
    obtain ⟨state, removed⟩ := Option.isSome_iff_exists.mp removed
    refine ⟨_, _, _, { p.initialStatus with lifecycleState := some state },
      reads, ?_⟩
    simp only [mergeReads, outcomeOf_failed]
    rw [if_pos absent]
    exact afterMissing_eq_proceed_iff.mpr ⟨old, state, removed, rfl⟩

/-- A pass that goes on with an object, on record or found, has seen it alive or
goes by one that is not. -/
theorem Finds.presumes_or_seenLive (h : p.Finds t) :
    p.Presumes t ∨ p.SeenLive t := by
  obtain ⟨t₁, rest, seen, rfl, observed, hid⟩ := h
  cases hknown : p.resource.status.identity with
  | some id =>
    obtain ⟨direct, listed, reads, hmerge⟩ :=
      reads_of_walk_observeRemote hknown observed rest
    exact Pass.presumes_or_seenLive reads hmerge.symm
  | none =>
    -- the only live object that is listed was taken for the one that was made
    have hinit : p.initialStatus.identity = none := hknown
    refine .inr ?_
    rcases ((walk_observeRemote_of_none hinit).mp observed).inherits_or_adopts
      with hkept | ⟨_, reply, found, -, -, -, rfl, sole, -⟩
    · rw [show seen.identity = none from hkept.1.trans hinit] at hid
      cases hid
    · refine ⟨found.id, found.state, ⟨_, List.mem_cons_self .., ?_⟩,
        live_of_soleLive sole, fun other hother => ?_⟩
      · exact reports_of_mem_items p.resource.listFilter (mem_of_soleLive sole)
      · rw [hknown] at hother
        cases hother

/-! ## Recording for an object that was not seen -/

/-- A pass that goes by an object takes the action that was to make or find it
for completed, and sends nothing. -/
theorem Presumes.records (h : p.Presumes t)
    (declares : p.resource.Declares request)
    (hdel : p.resource.deletionRequested = false)
    (gives : request.action.givesIdentity = true) (hwalk : p.run.Walk t r) :
    p.actionsSent t = [] ∧ ∀ s, .saved s ∈ t →
      s.lastCompletedAction = some request.signature := by
  obtain ⟨id, direct, listed, seen, reads, hmerge⟩ := h.proceeds
  have hknown : seen.identity = some id := by
    have hkept :=
      inherits_mergeReads (p := p) (s := p.initialStatus) reads.known
        (p.outcomeOf direct) listed
    rw [hmerge] at hkept
    exact hkept.1.trans reads.known
  have hid : seen.identity.isSome = true := by rw [hknown]; rfl
  obtain ⟨t₁, rest, rfl, quiet, goes⟩ := rest_of_reads hdel hwalk reads
  rw [hmerge] at goes
  cases goes with
  | acts needed =>
    rw [declares.nextAction?_of_givesIdentity hdel hid gives] at needed
    cases needed
  | @settles _ chosen s' d t₂ t₃ _ _ free settling ending =>
    have quiet : ∀ e ∈ t₁ ++ t₂, p.Quiet e :=
      List.forall_mem_append.mpr ⟨quiet, quiet_of_walk_settle settling⟩
    have hkept := inherits_trackInFlight p seen none
    rw [free] at hkept
    have hchosen : (p.forgetObstacles chosen).identity = some id :=
      ((inherits_forgetObstacles p chosen).trans hkept).1.trans hknown
    have hrecorded : s'.lastCompletedAction = some request.signature := by
      have hsettled := lastCompletedAction_of_walk_settle settling
      rw [lastCompletedAction_completeOneShot declares.requested, hchosen,
        gives] at hsettled
      exact hsettled
    rw [← List.append_assoc]
    refine ⟨actionsSent_of_idle quiet (ending_of_walk_finish ending),
      fun s hs => ?_⟩
    rw [eq_of_saved_mem_quits quiet ending hs, hrecorded]

/-- The pass records an action as the one that was completed last. -/
def Records (p : Pass) (t : List PassEvent) (signature : String) : Prop :=
  p.resource.status.lastCompletedAction ≠ some signature ∧ ∃ s, .saved s ∈ t
    ∧ s.lastCompletedAction = some signature

/-- **What is recorded without having been seen.** If no answer of a pass shows
the pluggable database alive, the pass records an action that the remote did not
take in it exactly if

1. the action is the declared one, which was to end with an object, and it is
   not on record;
2. the resource stays, and its status is stored;
3. the pass goes by an object on record that was read or listed as gone or
   going, or that is missing where an earlier action explains it. -/
theorem recorded_unseen_iff_presumed (declares : p.resource.Declares request)
    (h : p.run.Walk t r) (unseen : ¬ p.SeenLive t) (signature : String) :
    p.Records t signature
      ∧ (¬ ∃ taken : PdbRequest, taken.signature = signature ∧ taken.TakenIn t)
      ↔ signature = request.signature ∧ request.action.givesIdentity = true
        ∧ p.resource.status.lastCompletedAction ≠ some signature
        ∧ p.resource.deletionRequested = false ∧ (∃ s, .saved s ∈ t)
        ∧ p.Presumes t := by
  constructor
  · rintro ⟨⟨hnew, s, hs, hrecorded⟩, untaken⟩
    cases hdel : p.resource.deletionRequested with
    | true =>
      rw [lastCompletedAction_of_saved_deletion hdel h hs] at hrecorded
      exact absurd hrecorded hnew
    | false =>
      rcases completed_cases hdel h hs with hsame
        | ⟨other, hother, hcompleted, how⟩
      · rw [hsame] at hrecorded
        exact absurd hrecorded hnew
      · obtain rfl : request = other :=
          Option.some.inj (declares.requested.symm.trans hother)
        obtain rfl : signature = request.signature :=
          Option.some.inj (hrecorded.symm.trans hcompleted)
        rcases how with taken | ⟨gives, finds⟩
        · exact absurd ⟨request, rfl, taken⟩ untaken
        · exact ⟨rfl, gives, hnew, rfl, ⟨s, hs⟩,
            finds.presumes_or_seenLive.resolve_right unseen⟩
  · rintro ⟨rfl, gives, hnew, hdel, ⟨s, hs⟩, presumes⟩
    obtain ⟨hnone, hrecords⟩ := presumes.records declares hdel gives h
    refine ⟨⟨hnew, s, hs, hrecords s hs⟩, ?_⟩
    rintro ⟨taken, -, name, password, answer, hmem⟩
    exact sentBy_of_mem hmem
      (sentBy_call p (taken.withCredentials name password) (.answered answer))
      hnone

/-- An object that is neither found nor listed is not seen alive. -/
theorem not_seenLive_of_missing {e : RemoteError} {filter : ListFilter}
    {after : Status}
    (ht : t
      = [.remote (.get id) (.failed e), .remote (.list filter) (.answered []),
        .saved after]) : ¬ p.SeenLive t := by
  rintro ⟨_, _, ⟨x, hx, report⟩, -, -⟩
  rw [ht] at hx
  simp only [List.mem_cons, List.not_mem_nil, or_false] at hx
  rcases hx with rfl | rfl | rfl
  · cases report
  · cases report with
    | listed mem => cases mem
  · cases report

/-- A pluggable database that was dropped, and is to be created again, is
recorded as created without having been sent for. -/
theorem recreation_recorded_unsent :
    (pdbFollowing .delete .create).pass.Records
      (pdbFollowing .delete .create).trace "Create:pdb1"
      ∧ ¬ ∃ taken : PdbRequest, taken.signature = "Create:pdb1"
        ∧ taken.TakenIn (pdbFollowing .delete .create).trace := by
  obtain ⟨after, htrace⟩ : ∃ after, (pdbFollowing .delete .create).trace
      = [.remote (.get "pdb1") (.failed (.notFound "pdb1")),
        .remote (.list { displayName := some "pdb1" }) (.answered []),
        .saved after] := ⟨_, rfl⟩
  refine (recorded_unseen_iff_presumed (ManagedResource.declares_ofPluggable _)
    (pdbFollowing .delete .create).walk (not_seenLive_of_missing htrace) _).mpr
    ⟨rfl, rfl, by decide +kernel, rfl, ⟨after, ?_⟩, ?_⟩
  · rw [htrace]
    simp
  · rw [htrace]
    exact .missing (.listed rfl rfl) rfl rfl (by decide +kernel)

/-- A pluggable database that was unplugged, and is to be plugged in again, is
recorded as plugged in. The request is never sent, and nothing shows the
pluggable database in the container. -/
theorem replugging_recorded_unsent :
    Reaches {}
        [pdbBinding .unplug, pdbRemoval .unplug, pdbFollowing .unplug .plug]
        (pdbFollowing .unplug .plug).stored
      ∧ (pdbRemoval .unplug).stored.lastCompletedAction
        = some "Unplug:pdb1,xml=/tmp/pdb1.xml"
      ∧ (pdbFollowing .unplug .plug).pass.Records
        (pdbFollowing .unplug .plug).trace "Plug:pdb1,xml=/tmp/pdb1.xml"
      ∧ (∀ turn ∈
          [pdbBinding .unplug, pdbRemoval .unplug, pdbFollowing .unplug .plug],
        ∀ (request : PdbRequest) (reply : Reply Snapshot),
          .remote (.plugPdb request) reply ∉ turn.trace)
      ∧ ¬ (pdbFollowing .unplug .plug).pass.SeenLive
        (pdbFollowing .unplug .plug).trace := by
  obtain ⟨after, htrace, hrecorded⟩ : ∃ after,
    (pdbFollowing .unplug .plug).trace
      = [.remote (.get "pdb1") (.failed (.notFound "pdb1")),
        .remote (.list { displayName := some "pdb1" }) (.answered []),
        .saved after]
      ∧ after.lastCompletedAction = some "Plug:pdb1,xml=/tmp/pdb1.xml" :=
        ⟨_, rfl, by decide +kernel⟩
  obtain ⟨marked, bound, found, hbinding⟩ : ∃ marked bound found,
    (pdbBinding .unplug).trace
      = [.saved marked, .remote (.get "pdb1") (.answered found),
        .saved bound] := ⟨_, _, _, rfl⟩
  obtain ⟨marked', removed, found', request, hremoval⟩ :
    ∃ marked' removed found' request, (pdbRemoval .unplug).trace
      = [.remote (.get "pdb1") (.answered found'), .saved marked',
        .remote (.unplugPdb request) (.answered ()), .saved removed] :=
          ⟨_, _, _, _, rfl⟩
  refine ⟨.cons rfl (.cons rfl (.cons rfl .start)), by decide +kernel,
    ⟨by decide +kernel, after, ?_, hrecorded⟩, ?_,
    not_seenLive_of_missing htrace⟩
  · rw [htrace]
    simp
  · intro turn hturn request reply hmem
    simp only [List.mem_cons, List.not_mem_nil, or_false] at hturn
    rcases hturn with rfl | rfl | rfl
    · simp [hbinding] at hmem
    · simp [hremoval] at hmem
    · simp [htrace] at hmem

end DatabaseOperator.Pass
