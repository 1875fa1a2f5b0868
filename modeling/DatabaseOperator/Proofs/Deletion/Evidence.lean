import DatabaseOperator.Proofs.History
import DatabaseOperator.Proofs.Pass.Quiet

/-!
# What a deletion takes for evidence

A deletion lets its resource go once it takes the remote object to be gone or
going. Some of what it goes by shows that. That the list does not show the
object does not: the list may not have been read, or its filter may not let the
object through.

- `Pass.Released`: the resource was let go.
- `Pass.SeenGone`, `Pass.Overlooked`: the grounds for it.
- `Pass.ObjectTeardown.released_iff`: a resource is let go on these grounds and
  on no others.
- `Pass.ShownGone`, `Pass.Unproven`: what shows that an object is gone, and what
  is taken for it.
-/

namespace DatabaseOperator.Pass

variable {p : Pass} {known s : Status} {id : String} {t t₁ : List PassEvent}
    {r : Except OperatorError Outcome}

/-- The store was asked to let the resource go. -/
def Released (t : List PassEvent) : Prop :=
  ∃ answer, .store .releaseFinalizer answer ∈ t

/-- The remote has said that an object is gone or going. -/
inductive SeenGone (p : Pass) (id : String) (t : List PassEvent) : Prop where
  /-- A direct read shows it torn down. -/
  | read {found : Snapshot} (read : .remote (.get id) (.answered found) ∈ t)
      (torn : found.state.isTornDown = true)
  /-- A direct read does not find it, and the list shows it torn down. -/
  | listed {direct : Reply Snapshot} {reply : Reply (List Snapshot)}
      {found : Snapshot} (read : .remote (.get id) direct ∈ t)
      (missing : direct.isNotFound = true)
      (list : .remote (.list p.resource.listFilter) reply ∈ t)
      (shown : listedAs id reply.items = some found)
      (torn : found.state.isTornDown = true)
  /-- The delete call does not find it. -/
  | deleted {e : RemoteError} (refused : .remote (.delete id) (.failed e) ∈ t)
      (missing : e.isNotFound = true)

/-- A direct read has not found the object, and the reply to a list does not
show it. -/
def Overlooked (p : Pass) (id : String) (t : List PassEvent)
    (reply : Reply (List Snapshot)) : Prop :=
  ∃ direct : Reply Snapshot, .remote (.get id) direct ∈ t
    ∧ direct.isNotFound = true
    ∧ .remote (.list p.resource.listFilter) reply ∈ t
    ∧ listedAs id reply.items = none

/-- The object is taken to be gone or going. -/
def TakenForGone (p : Pass) (id : String) (t : List PassEvent) : Prop :=
  p.SeenGone id t ∨ ∃ reply, p.Overlooked id t reply

/-! ## Endings -/

theorem released_append {t₂ : List PassEvent} :
    Released (t₁ ++ t₂) ↔ Released t₁ ∨ Released t₂ := by
  simp [Released, exists_or]

theorem released_cons_remote {call : RemoteCall} {reply : Reply call.Answer} :
    Released (.remote call reply :: t) ↔ Released t := by
  simp [Released]

theorem released_cons_saveStatus {answer : Except OperatorError Unit} :
    Released (.store (.saveStatus s) answer :: t) ↔ Released t := by
  simp [Released]

theorem not_released_of_quiet (h : ∀ e ∈ t, p.Quiet e) : ¬ Released t := by
  rintro ⟨answer, hmem⟩
  cases h _ hmem

theorem not_released_of_walk_finish {g : Progress} {d : Duration}
    (h : (finish g d).Walk t r) : ¬ Released t := by
  rcases walk_finish_iff.mp h with ⟨-, rfl, -⟩ | ⟨-, answer, rfl, -⟩
    <;> simp [Released]

theorem not_released_of_walk_locate
    {found : Except RemoteError (Status × Option LifecycleState)}
    (h : (p.locate known id).Walk t found) : ¬ Released t := by
  obtain ⟨direct, ⟨-, rfl, -⟩ | ⟨-, reply, rfl, -⟩⟩ := walk_locate_iff.mp h
    <;> simp [Released]

theorem released_of_walk_release {g : Progress} (h : (release g).Walk t r) :
    Released t := by
  obtain ⟨answer, rfl, -⟩ := walk_release_iff.mp h
  exact ⟨answer, List.mem_singleton_self _⟩

/-! ## Sightings -/

/-- An object that is located was seen by the direct read, or looked for in the
list because that did not find it. -/
theorem sight_of_walk_locate {observed : Option LifecycleState}
    (h : (p.locate known id).Walk t₁ (.ok (s, observed))) :
    (∃ found, t₁ = [.remote (.get id) (.answered found)]
      ∧ observed = some found.state)
      ∨ ∃ (direct : Reply Snapshot) (reply : Reply (List Snapshot)),
        direct.isNotFound = true
        ∧ t₁
          = [.remote (.get id) direct,
            .remote (.list p.resource.listFilter) reply]
        ∧ observed = (listedAs id reply.items).map Snapshot.state := by
  obtain ⟨direct, ⟨-, rfl, hr⟩ | ⟨hmissing, reply, rfl, hr⟩⟩ :=
    walk_locate_iff.mp h
  · cases direct with
    | answered found =>
      cases hr
      exact .inl ⟨found, rfl, rfl⟩
    | failed e => cases hr
    | hung => cases hr
  · refine .inr ⟨direct, reply, hmissing, rfl, ?_⟩
    cases hl : listedAs id reply.items with
    | none =>
      rw [hl] at hr
      cases hr
      rfl
    | some found =>
      rw [hl] at hr
      cases hr
      rfl

/-- An object that cannot be read was read once, directly. -/
theorem unread_of_walk_locate {e : RemoteError}
    (h : (p.locate known id).Walk t₁ (.error e)) :
    ∃ direct : Reply Snapshot, t₁ = [.remote (.get id) direct]
      ∧ direct.isNotFound = false
      ∧ p.outcomeOf direct = .error e := by
  obtain ⟨direct, ⟨hfound, rfl, hr⟩ | ⟨-, reply, rfl, hr⟩⟩ :=
    walk_locate_iff.mp h
  · refine ⟨direct, rfl, hfound, ?_⟩
    cases hd : p.outcomeOf direct with
    | ok found =>
      rw [hd] at hr
      cases hr
    | error e' =>
      rw [hd] at hr
      cases hr
      rfl
  · cases hr

/-- A deletion lets go of an object that is not seen, or seen torn down. -/
theorem deletionStep_eq_release_iff {observed : Option LifecycleState} :
    p.deletionStep s id observed = .release ↔ ∀ state, observed = some state →
      state.isTornDown = true := by
  cases observed with
  | none => simp [deletionStep, nextDeletionStep]
  | some state =>
    cases htorn : state.isTornDown with
    | true => simp [deletionStep, nextDeletionStep, htorn]
    | false =>
      simp only [deletionStep, nextDeletionStep, htorn, Option.some.injEq]
      constructor
      · intro h
        simp only [Bool.not_true, Option.isNone_some, Bool.or_self,
          Bool.false_eq_true, ↓reduceIte] at h
        split at h
        next => cases h
        next => split at h <;> cases h
      · intro h
        rw [h state rfl] at htorn
        cases htorn

/-- A deletion that lets go of an object after looking for it has taken it to be
gone or going. -/
theorem takenForGone_of_release {observed : Option LifecycleState}
    (located : (p.locate known id).Walk t₁ (.ok (s, observed)))
    (step : p.deletionStep s id observed = .release) (hsub : ∀ e ∈ t₁, e ∈ t) :
    p.TakenForGone id t := by
  have htorn := deletionStep_eq_release_iff.mp step
  rcases sight_of_walk_locate located with ⟨found, rfl, rfl⟩
    | ⟨direct, reply, hmissing, rfl, rfl⟩
  · exact .inl (.read (hsub _ (by simp)) (htorn _ rfl))
  · have hget : .remote (.get id) direct ∈ t := hsub _ (by simp)
    have hlist : .remote (.list p.resource.listFilter) reply ∈ t :=
      hsub _ (by simp)
    cases hl : listedAs id reply.items with
    | none => exact .inr ⟨reply, direct, hget, hmissing, hlist, hl⟩
    | some found =>
      exact .inl (.listed hget hmissing hlist hl (htorn _ (by simp [hl])))

section Sighted

variable {t₂ : List PassEvent} {observed : Option LifecycleState}

/-- What a pass reads of an object, it reads while it locates it. -/
theorem mem_of_isRead
    (reads : ∀ call reply, .remote call reply ∈ t₂ → call.isRead = false)
    {call : RemoteCall} {reply : Reply call.Answer} (hcall : call.isRead = true)
    (hmem : .remote call reply ∈ t₁ ++ t₂) : .remote call reply ∈ t₁ := by
  refine (List.mem_append.mp hmem).resolve_right fun hmem => ?_
  rw [reads call reply hmem] at hcall
  cases hcall

/-- An object that was seen live is not overlooked. -/
theorem not_overlooked_of_live
    (located : (p.locate known id).Walk t₁ (.ok (s, observed)))
    (step : p.deletionStep s id observed ≠ .release)
    (reads : ∀ call reply, .remote call reply ∈ t₂ → call.isRead = false)
    (list : Reply (List Snapshot)) : ¬ p.Overlooked id (t₁ ++ t₂) list := by
  rw [ne_eq, deletionStep_eq_release_iff] at step
  rintro ⟨direct, hget, hmissing, hlist, hnone⟩
  have hget := mem_of_isRead reads rfl hget
  have hlist := mem_of_isRead reads rfl hlist
  rcases sight_of_walk_locate located with ⟨seen, rfl, -⟩
    | ⟨direct', list', -, rfl, rfl⟩
  · obtain rfl : direct = .answered seen := by simpa using hget
    cases hmissing
  · obtain rfl : list = list' := by simpa using hlist
    exact step fun state hstate => by rw [hnone] at hstate; cases hstate

/-- Once an object has been seen live, only a delete call that does not find it
says that it is gone. -/
theorem not_seenGone_of_live
    (located : (p.locate known id).Walk t₁ (.ok (s, observed)))
    (step : p.deletionStep s id observed ≠ .release)
    (reads : ∀ call reply, .remote call reply ∈ t₂ → call.isRead = false)
    (kept : ∀ e : RemoteError, .remote (.delete id) (.failed e) ∈ t₂ →
      e.isNotFound = false) : ¬ p.SeenGone id (t₁ ++ t₂) := by
  rw [ne_eq, deletionStep_eq_release_iff] at step
  rintro (⟨hget, torn⟩ | ⟨-, hmissing, hlist, shown, torn⟩ | ⟨refused, missing⟩)
  · have hget := mem_of_isRead reads rfl hget
    rcases sight_of_walk_locate located with ⟨seen, rfl, rfl⟩
      | ⟨direct, list, hmissing, rfl, -⟩
    · obtain rfl := Reply.answered.inj (by simpa using hget)
      exact step fun state hstate => by cases hstate; exact torn
    · obtain rfl : .answered _ = direct := by simpa using hget
      cases hmissing
  · have hlist := mem_of_isRead reads rfl hlist
    rcases sight_of_walk_locate located with ⟨seen, rfl, -⟩
      | ⟨direct, list, -, rfl, rfl⟩
    · simp at hlist
    · obtain rfl : _ = list := by simpa using hlist
      exact step fun state hstate => by
        rw [shown] at hstate; cases hstate; exact torn
  · rcases List.mem_append.mp refused with hmem | hmem
    · cases isRead_of_mem_locate located hmem
    · rw [kept _ hmem] at missing
      cases missing

/-- A delete call is not a read, nor is anything among calls to the store. -/
theorem isRead_of_mem_sent {marked : Status} {reply : Reply Unit}
    (ending : ∀ {call : RemoteCall} {answer : Reply call.Answer},
      .remote call answer ∉ t₂) (call : RemoteCall) (answer : Reply call.Answer)
    (hmem : .remote call answer
      ∈ Exchange.saved marked :: .remote (.delete id) reply :: t₂) :
    call.isRead = false := by
  rcases List.mem_cons.mp (List.mem_of_ne_of_mem (by simp) hmem) with hmem
    | hmem
  · cases hmem
    rfl
  · exact absurd hmem ending

/-- A deletion that has sent the delete call keeps its resource unless the
object was not found, and has no ground to do otherwise. -/
theorem released_iff_of_sent {reply : Reply Unit} {marked : Status}
    {g : Progress} {d : Duration}
    (located : (p.locate known id).Walk t₁ (.ok (s, observed)))
    (step : p.deletionStep s id observed = .dispatch)
    (present : ∀ e, reply = .failed e → e.isNotFound = false)
    (ending : (finish g d).Walk t₂ r) :
    Released (t₁ ++ .saved marked :: .remote (.delete id) reply :: t₂)
      ↔ p.TakenForGone id
        (t₁ ++ .saved marked :: .remote (.delete id) reply :: t₂) := by
  have hstep : p.deletionStep s id observed ≠ .release :=
    fun h => nomatch step.symm.trans h
  refine iff_of_false ?_ (not_or.mpr ⟨?_, ?_⟩)
  · rw [released_append, released_cons_saveStatus, released_cons_remote, not_or]
    exact ⟨not_released_of_walk_locate located,
      not_released_of_walk_finish ending⟩
  · refine not_seenGone_of_live located hstep
      (isRead_of_mem_sent (remote_not_mem_of_walk_finish ending)) ?_
    intro e hmem
    simp only [List.mem_cons, remote_not_mem_of_walk_finish ending, or_false]
      at hmem
    rcases hmem with hmem | hmem
    · cases hmem
    · exact present e (by simpa using hmem.symm)
  · rintro ⟨list, hlist⟩
    exact not_overlooked_of_live located hstep
      (isRead_of_mem_sent (remote_not_mem_of_walk_finish ending)) list hlist

end Sighted

/-! ## The grounds for letting go -/

/-- The resource of an object that is known is let go if the object is taken to
be gone or going, and only then. -/
theorem ObjectTeardown.released_iff (h : p.ObjectTeardown known id t r) :
    Released t ↔ p.TakenForGone id t := by
  cases h with
  | @unread t₁ t₂ _ e _ _ located failed ending =>
    -- the only read has failed, and not because the object was not found
    obtain ⟨direct, rfl, hfound, hfailed⟩ := unread_of_walk_locate located
    refine iff_of_false ?_ ?_
    · rw [List.singleton_append, released_cons_remote]
      exact not_released_of_walk_finish ending
    · have hget : ∀ answer, .remote (.get id) answer
          ∈ [.remote (.get id) direct] ++ t₂ → answer = direct := by
        intro answer hmem
        simpa [remote_not_mem_of_walk_finish ending] using hmem
      rintro (h | ⟨reply, direct, hmem, hmissing, -, -⟩)
      · cases h with
        | read hmem torn =>
          cases hget _ hmem
          cases hfailed
        | listed hmem hmissing =>
          rw [hget _ hmem, hfound] at hmissing
          cases hmissing
        | deleted refused =>
          simp [remote_not_mem_of_walk_finish ending] at refused
      · rw [hget _ hmem, hfound] at hmissing
        cases hmissing
  | @gone t₁ t₂ _ _ _ located step ending =>
    refine iff_of_true ?_ ?_
    · exact released_append.mpr (.inr (released_of_walk_release ending))
    · exact takenForGone_of_release located step fun e he =>
        List.mem_append_left t₂ he
  | @given _ _ s observed _ _ located step ending =>
    -- the object was seen in a state in which it is still there, here and below
    have hstep : p.deletionStep s id observed ≠ .release :=
      fun h => nomatch step.symm.trans h
    refine iff_of_false ?_ (not_or.mpr ⟨?_, ?_⟩)
    · rw [released_append, not_or]
      exact ⟨not_released_of_walk_locate located,
        not_released_of_walk_finish ending⟩
    · refine not_seenGone_of_live located hstep ?_ ?_
      · exact fun _ _ hmem => absurd hmem (remote_not_mem_of_walk_finish ending)
      · exact fun _ hmem => absurd hmem (remote_not_mem_of_walk_finish ending)
    · rintro ⟨list, hlist⟩
      refine not_overlooked_of_live located hstep ?_ list hlist
      exact fun _ _ hmem => absurd hmem (remote_not_mem_of_walk_finish ending)
  | @unmarked _ s observed _ located step =>
    have hstep : p.deletionStep s id observed ≠ .release :=
      fun h => nomatch step.symm.trans h
    refine iff_of_false ?_ (not_or.mpr ⟨?_, ?_⟩)
    · rw [released_append, released_cons_saveStatus, not_or]
      exact ⟨not_released_of_walk_locate located, by simp [Released]⟩
    · exact not_seenGone_of_live located hstep (by simp) (by simp)
    · rintro ⟨list, hlist⟩
      exact not_overlooked_of_live located hstep (by simp) list hlist
  | deleted located step ending =>
    exact released_iff_of_sent located step (by nofun) ending
  | vanished located step absent ending =>
    -- the answer to the delete call says that the object is gone
    refine iff_of_true ?_ (.inl (.deleted (by simp) absent))
    rw [released_append, released_cons_saveStatus, released_cons_remote]
    exact .inr (released_of_walk_release ending)
  | kept located step failed present ending =>
    -- the delete call has failed, but not because the object was not found
    refine released_iff_of_sent located step ?_ ending
    rintro e rfl
    cases failed
    exact present

/-- An object that was overlooked was not seen to be gone. -/
theorem ObjectTeardown.not_seenGone_of_overlooked
    (h : p.ObjectTeardown known id t r) {list : Reply (List Snapshot)}
    (hlist : p.Overlooked id t list) : ¬ p.SeenGone id t := by
  have hreleased := h.released_iff.mpr (.inr ⟨list, hlist⟩)
  cases h with
  | unread located _ ending | given located _ ending =>
    rw [released_append] at hreleased
    exact absurd hreleased
      (not_or.mpr ⟨not_released_of_walk_locate located,
        not_released_of_walk_finish ending⟩)
  | unmarked located =>
    rw [released_append, released_cons_saveStatus] at hreleased
    exact absurd hreleased
      (not_or.mpr ⟨not_released_of_walk_locate located, by simp [Released]⟩)
  | deleted located _ ending | kept located _ _ _ ending =>
    rw [released_append, released_cons_saveStatus, released_cons_remote]
      at hreleased
    exact absurd hreleased
      (not_or.mpr ⟨not_released_of_walk_locate located,
        not_released_of_walk_finish ending⟩)
  | @gone t₁ t₂ _ _ _ located _ ending =>
    have hreads : ∀ {call : RemoteCall} {reply : Reply call.Answer},
        .remote call reply ∉ t₂ :=
      remote_not_mem_of_walk_release ending
    -- there is one direct read and one list, and neither shows the object
    obtain ⟨direct, hget, hmissing, hlist, hnone⟩ := hlist
    rcases sight_of_walk_locate located with ⟨seen, rfl, -⟩
      | ⟨direct', list', -, rfl, -⟩
    · obtain rfl : direct = .answered seen := by simpa [hreads] using hget
      cases hmissing
    · obtain rfl : direct = direct' := by simpa [hreads] using hget
      obtain rfl : list = list' := by simpa [hreads] using hlist
      rintro (⟨hmem, -⟩ | ⟨-, -, hmem, shown, -⟩ | ⟨hmem, -⟩)
      · obtain rfl : .answered _ = direct := by simpa [hreads] using hmem
        cases hmissing
      · obtain rfl : _ = list := by simpa [hreads] using hmem
        rw [hnone] at shown
        cases shown
      · simp [hreads] at hmem
  | vanished located step _ ending =>
    exact absurd hlist
      (not_overlooked_of_live located (fun h => nomatch step.symm.trans h)
        (isRead_of_mem_sent (remote_not_mem_of_walk_release ending)) list)

/-- The reads of such a pass are those that locate the object. -/
theorem ObjectTeardown.reads (h : p.ObjectTeardown known id t r) :
    ∃ t₁ found, (p.locate known id).Walk t₁ found
      ∧ ∀ {call : RemoteCall} {reply : Reply call.Answer},
      call.isRead = true → .remote call reply ∈ t →
        .remote call reply ∈ t₁ := by
  cases h with
  | unread located _ ending | given located _ ending =>
    refine ⟨_, _, located, mem_of_isRead fun _ _ hmem => ?_⟩
    exact absurd hmem (remote_not_mem_of_walk_finish ending)
  | gone located _ ending =>
    refine ⟨_, _, located, mem_of_isRead fun _ _ hmem => ?_⟩
    exact absurd hmem (remote_not_mem_of_walk_release ending)
  | unmarked located => exact ⟨_, _, located, mem_of_isRead (by simp)⟩
  | deleted located _ ending | kept located _ _ _ ending =>
    exact ⟨_, _, located,
      mem_of_isRead (isRead_of_mem_sent (remote_not_mem_of_walk_finish ending))⟩
  | vanished located _ _ ending =>
    exact ⟨_, _, located,
      mem_of_isRead
        (isRead_of_mem_sent (remote_not_mem_of_walk_release ending))⟩

/-- The list is read once at most. -/
theorem ObjectTeardown.list_unique (h : p.ObjectTeardown known id t r)
    {filter : ListFilter} {reply reply' : Reply (List Snapshot)}
    (hreply : .remote (.list filter) reply ∈ t)
    (hreply' : .remote (.list filter) reply' ∈ t) : reply = reply' := by
  obtain ⟨t₁, found, located, reads⟩ := h.reads
  have hreply := reads rfl hreply
  have hreply' := reads rfl hreply'
  obtain ⟨direct, ⟨-, rfl, -⟩ | ⟨-, list, rfl, -⟩⟩ := walk_locate_iff.mp located
  · simp at hreply
  · simp only [List.mem_cons, List.not_mem_nil, or_false] at hreply hreply'
    rcases hreply with hreply | hreply
    · cases hreply
    rcases hreply' with hreply' | hreply'
    · cases hreply'
    cases hreply
    cases hreply'
    rfl

/-! ## What is shown and what is not -/

/-- The exchanges show that an object is gone or going: the remote has said so,
or the object is not found directly, the list was read, and the index behind the
list holds no such object. -/
def ShownGone (p : Pass) (id : String) (index : List Snapshot)
    (t : List PassEvent) : Prop :=
  p.SeenGone id t
    ∨ ∃ (direct : Reply Snapshot) (items : List Snapshot),
      .remote (.get id) direct ∈ t ∧ direct.isNotFound = true
      ∧ .remote (.list p.resource.listFilter) (.answered items) ∈ t
      ∧ ∀ object ∈ index, object.id ≠ id

/-- The object was overlooked, and either the list was not read at all, or the
index behind it holds the object. -/
def Unproven (p : Pass) (id : String) (index : List Snapshot)
    (t : List PassEvent) : Prop :=
  ∃ reply, p.Overlooked id t reply
    ∧ ((∀ items, reply ≠ .answered items) ∨ ∃ object ∈ index, object.id = id)

/-- A deletion whose object is on record begins with the teardown of that
object. -/
theorem objectTeardown_of_recorded (hdel : p.resource.deletionRequested = true)
    (hard : p.resource.hardLink = true)
    (hid : p.resource.status.identity = some id) (h : p.run.Walk t r) :
    p.ObjectTeardown p.deletingStatus id t r := by
  have hknown : p.deletingStatus.identity = some id := hid
  have hidentify : ∀ {t₁ step}, (p.identify p.deletingStatus).Walk t₁ step →
      t₁ = [] ∧ step = .proceed p.deletingStatus :=
    fun hwalk => (walk_identify_of_some (by rw [hknown]; rfl)).mp hwalk
  cases teardown_of_walk hdel h with
  | detached soft =>
    rw [hard] at soft
    cases soft
  | awaited _ identified => cases (hidentify identified).2
  | objectless _ identified unknown =>
    cases (hidentify identified).2
    rw [hknown] at unknown
    cases unknown
  | known _ knows teardown =>
    obtain ⟨rfl, hstep⟩ := hidentify knows.1
    cases hstep
    obtain rfl := Option.some.inj (hknown.symm.trans knows.2)
    exact teardown

/-- **Letting go without evidence.** A deletion whose object is on record, and
is to be torn down, lets its resource go without having been shown that the
object is gone or going exactly if the direct read did not find it, the list did
not show it, and either the list could not be read or the object is in the index
behind it. -/
theorem released_unshown_iff_unproven
    (hdel : p.resource.deletionRequested = true)
    (hard : p.resource.hardLink = true)
    (hid : p.resource.status.identity = some id) (h : p.run.Walk t r)
    (index : List Snapshot) :
    Released t ∧ ¬ p.ShownGone id index t ↔ p.Unproven id index t := by
  have hteardown := objectTeardown_of_recorded hdel hard hid h
  constructor
  · rintro ⟨hreleased, hunshown⟩
    rcases hteardown.released_iff.mp hreleased with hseen | ⟨reply, hlist⟩
    · exact absurd (.inl hseen) hunshown
    · refine ⟨reply, hlist, ?_⟩
      obtain ⟨direct, hget, hmissing, hitems, -⟩ := hlist
      cases reply with
      | failed e => exact .inl nofun
      | hung => exact .inl nofun
      | answered items =>
        refine .inr (Classical.byContradiction fun habsent => ?_)
        -- a list that was read, and an index without the object, would have
        -- shown it gone
        refine hunshown
          (.inr ⟨direct, items, hget, hmissing, hitems,
            fun object hobject hobjectId => ?_⟩)
        exact habsent ⟨object, hobject, hobjectId⟩
  · rintro ⟨reply, hlist, hunknown⟩
    refine ⟨hteardown.released_iff.mpr (.inr ⟨reply, hlist⟩), ?_⟩
    rintro (hseen | ⟨direct, items, -, -, hitems, habsent⟩)
    · exact hteardown.not_seenGone_of_overlooked hlist hseen
    · obtain ⟨-, -, -, hreply, -⟩ := hlist
      obtain rfl := hteardown.list_unique hitems hreply
      rcases hunknown with hunread | ⟨object, hobject, hobjectId⟩
      · exact hunread items rfl
      · exact habsent object hobject hobjectId

/-- The deletion of a database that is on record and declared under the name
`sales`. -/
def boundDeletion : Pass :=
  .ofDatabase (some "sales") { identity := some "ocid1.adb.1" } true
    ⟨1700000000, 0⟩

/-- A database that runs. -/
def liveDatabase (name : String) : Snapshot :=
  { id := "ocid1.adb.1", state := .available,
    attributes := { displayName := some name } }

/-- A remote on which the database runs. -/
def runningRemote : Simulation :=
  { remote := { objects := .ofList [("ocid1.adb.1", liveDatabase "sales")] } }

/-- A remote on which direct reads lag behind, so that the object is not found,
and the list may fail. -/
def laggingRemote (object : Snapshot) (failure : Option RemoteError) :
    Simulation :=
  { remote :=
      { objects := .ofList [(object.id, object)]
        failures :=
          .ofList
            [("get", [some (.notFound object.id)]), ("list", [failure])] } }

/-- The resource of a database that runs is let go, without anything that shows
the database gone, when the list cannot be read. -/
theorem boundDeletion_released_of_unread_list :
    ∃ t r, boundDeletion.run.Walk t r ∧ Released t
      ∧ ¬ boundDeletion.ShownGone "ocid1.adb.1" [liveDatabase "sales"] t := by
  refine ⟨_, _, Program.walk_transcript Simulation.answer boundDeletion.run
    (laggingRemote (liveDatabase "sales") (some (.transient "timeout"))), ?_⟩
  have htrace : boundDeletion.run.transcript Simulation.answer
      (laggingRemote (liveDatabase "sales") (some (.transient "timeout")))
      = [.remote (.get "ocid1.adb.1") (.failed (.notFound "ocid1.adb.1")),
        .remote (.list { displayName := some "sales" })
          (.failed (.transient "timeout")),
        .store .releaseFinalizer (.ok ())] := rfl
  rw [htrace]
  refine ⟨⟨.ok (), by simp⟩, ?_⟩
  rintro ((⟨hread, -⟩ | ⟨-, -, hlist, shown, -⟩ | ⟨refused, -⟩) | ⟨-, items, -,
    -, hlist, -⟩)
  · simp at hread
  · obtain ⟨-, rfl⟩ := by simpa using hlist
    cases shown
  · simp at refused
  · simp at hlist

/-- So it is when the list is asked for a name that the database does not
have. -/
theorem boundDeletion_released_of_other_name :
    Released
      (boundDeletion.run.transcript Simulation.answer
        (laggingRemote (liveDatabase "orders") none))
      ∧ ¬ boundDeletion.ShownGone "ocid1.adb.1" [liveDatabase "orders"]
        (boundDeletion.run.transcript Simulation.answer
          (laggingRemote (liveDatabase "orders") none)) := by
  refine (released_unshown_iff_unproven rfl rfl rfl
    (Program.walk_transcript Simulation.answer boundDeletion.run
      (laggingRemote (liveDatabase "orders") none)) _).mpr ?_
  have htrace : boundDeletion.run.transcript Simulation.answer
    (laggingRemote (liveDatabase "orders") none)
      = [.remote (.get "ocid1.adb.1") (.failed (.notFound "ocid1.adb.1")),
        .remote (.list { displayName := some "sales" }) (.answered []),
        .store .releaseFinalizer (.ok ())] := rfl
  rw [htrace]
  refine ⟨.answered [],
    ⟨.failed (.notFound "ocid1.adb.1"), by simp, rfl, ?_, rfl⟩, .inr ?_⟩
  · exact List.mem_cons_of_mem _ (List.mem_cons_self ..)
  · exact ⟨liveDatabase "orders", List.mem_singleton_self _, rfl⟩

end DatabaseOperator.Pass
