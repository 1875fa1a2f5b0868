import DatabaseOperator.Proofs.Pass.Stages

/-!
# What a pass asks before it acts

The first stage of a pass only reads: it looks for an object whose creation was
sent, or reads the one on record. Here is every way in which that can go.

- `Pass.Recovery`, `Pass.walk_recoverCreate_iff`: the search for a lost create.
- `Pass.walk_refresh_iff`: the direct read, and the list where it is consulted.
- `Pass.walk_observeRemote_of_none`, `Pass.walk_observeRemote_of_some`: which of
  the two the first stage is.
- `Pass.sighted`, `Pass.walk_locate_iff`: what a deletion learns of the object.
- `Pass.identify`: a deletion looks for a lost create only if the object is not
  known.
- `Looks`, `Pass.looks_of_walk_observeRemote`: all of these only look at
  objects.
-/

namespace DatabaseOperator

/-- A look at an object, or at the list of all. -/
inductive Looks : PassEvent → Prop where
  | get {id : String} {reply : Reply Snapshot} : Looks (.remote (.get id) reply)
  | list {filter : ListFilter} {reply : Reply (List Snapshot)} :
      Looks (.remote (.list filter) reply)

namespace Pass

variable {p : Pass} {s : Status} {t : List PassEvent}

/-! ## Lost creates -/

/-- The ways in which a lost create is looked for: the calls made and how the
stage ends. A list is read only for a marked create of a resource with a
name. -/
inductive Recovery (p : Pass) (s : Status) : List PassEvent → Step → Prop where
  /-- Nothing was sent. -/
  | unmarked (unmarked : s.inFlight = none) : Recovery p s [] (.proceed s)
  /-- What was sent makes no object. -/
  | irrelevant {pending : PendingAction} (marked : s.inFlight = some pending)
      (other : isCreateSignature pending.signature = false) :
      Recovery p s [] (.proceed { s with inFlight := none })
  /-- The create can be repeated under its retry token. -/
  | repeatable {pending : PendingAction} (marked : s.inFlight = some pending)
      (create : isCreateSignature pending.signature = true)
      (nameless : p.resource.listFilter.displayName = none)
      (token : p.resource.retryToken.isSome = true) : Recovery p s []
      (.proceed { s with inFlight := none })
  /-- Nothing can be looked up, nor repeated. -/
  | blind {pending : PendingAction} (marked : s.inFlight = some pending)
      (create : isCreateSignature pending.signature = true)
      (nameless : p.resource.listFilter.displayName = none)
      (token : p.resource.retryToken = none) : Recovery p s []
      (p.awaitCreated s pending)
  /-- The list shows one live object, which is taken for the one that was
  made. -/
  | adopted {pending : PendingAction} {reply : Reply (List Snapshot)}
      {found : Snapshot} (marked : s.inFlight = some pending)
      (create : isCreateSignature pending.signature = true)
      (named : p.resource.listFilter.displayName.isSome = true)
      (sole : soleLive reply.items = some found) :
      Recovery p s [.remote (.list p.resource.listFilter) reply]
        (.proceed (observe s found))
  /-- The list cannot be read, or does not show exactly one live object. -/
  | unseen {pending : PendingAction} {reply : Reply (List Snapshot)}
      (marked : s.inFlight = some pending)
      (create : isCreateSignature pending.signature = true)
      (named : p.resource.listFilter.displayName.isSome = true)
      (none : soleLive reply.items = none) :
      Recovery p s [.remote (.list p.resource.listFilter) reply]
        (p.awaitCreated s pending)

/-- The search in the list is one call. -/
theorem walk_findCreated_iff {found : Option Snapshot} :
    p.findCreated.Walk t found
      ↔ ∃ reply, t = [.remote (.list p.resource.listFilter) reply]
      ∧ found = soleLive reply.items := by
  refine (walk_call_done_iff (fun r => soleLive (r.toOption.getD [])) fun r =>
    ?_).trans ?_
  · cases r with
    | ok items =>
      dsimp only [soleLive, Except.toOption, Option.getD]
      generalize items.filter (fun item : Snapshot => !item.state.isTornDown)
        = live
      match live with
      | [] | [_] | _ :: _ :: _ => rfl
    | error e => rfl
  · refine exists_congr fun reply => ?_
    cases reply <;> rfl

/-- The search for a lost create goes in one of these ways, and each of them can
happen. -/
theorem walk_recoverCreate_iff {step : Step} :
    (p.recoverCreate s).Walk t step ↔ p.Recovery s t step := by
  constructor
  · -- every branch of the search is one of the ways
    intro h
    unfold recoverCreate at h
    split at h
    next hm =>
      obtain ⟨rfl, rfl⟩ := Program.walk_done_iff.mp h
      exact .unmarked hm
    next pending hm =>
      split at h
      next hc =>
        obtain ⟨rfl, rfl⟩ := Program.walk_done_iff.mp h
        exact .irrelevant hm (by simpa using hc)
      next hc =>
        have hcreate :
            isCreateSignature pending.signature = true := by simpa using hc
        split at h
        next hnamed =>
          obtain ⟨t₁, found, t₂, rfl, h₁, h₂⟩ := Program.walk_bind_iff.mp h
          obtain ⟨reply, rfl, rfl⟩ := walk_findCreated_iff.mp h₁
          split at h₂
          next found hfound =>
            obtain ⟨rfl, rfl⟩ := Program.walk_pure_iff.mp h₂
            exact .adopted hm hcreate hnamed hfound
          next hfound =>
            obtain ⟨rfl, rfl⟩ := Program.walk_pure_iff.mp h₂
            exact .unseen hm hcreate hnamed hfound
        next hnamed =>
          have hnameless :
              p.resource.listFilter.displayName = none := by simpa using hnamed
          split at h
          next htoken =>
            obtain ⟨rfl, rfl⟩ := Program.walk_done_iff.mp h
            exact .repeatable hm hcreate hnameless htoken
          next htoken =>
            obtain ⟨rfl, rfl⟩ := Program.walk_done_iff.mp h
            exact .blind hm hcreate hnameless (by simpa using htoken)
  · intro h
    unfold recoverCreate
    -- each way carries the conditions under which its branch is taken
    cases h with
    | unmarked hm => simp [hm]
    | irrelevant hm hc => simp [hm, hc]
    | repeatable hm hc hnameless htoken => simp [hm, hc, hnameless, htoken]
    | blind hm hc hnameless htoken => simp [hm, hc, hnameless, htoken]
    | adopted hm hc hnamed hfound =>
      simp only [hm, hc, hnamed, Bool.not_true, Bool.false_eq_true, ↓reduceIte]
      refine Program.walk_bind_iff.mpr
        ⟨_, _, [], rfl, walk_findCreated_iff.mpr ⟨_, rfl, rfl⟩, ?_⟩
      simp [hfound]
    | unseen hm hc hnamed hfound =>
      simp only [hm, hc, hnamed, Bool.not_true, Bool.false_eq_true, ↓reduceIte]
      refine Program.walk_bind_iff.mpr
        ⟨_, _, [], rfl, walk_findCreated_iff.mpr ⟨_, rfl, rfl⟩, ?_⟩
      simp [hfound]

/-! ## Objects on record -/

/-- What the list says of an object is one call. -/
theorem walk_findListed_iff {id : String} {found : Option Snapshot} :
    (p.findListed id).Walk t found
      ↔ ∃ reply, t = [.remote (.list p.resource.listFilter) reply]
      ∧ found = listedAs id reply.items := by
  refine (walk_call_done_iff (fun r => listedAs id (r.toOption.getD []))
    fun r => ?_).trans ?_
  · cases r <;> rfl
  · refine exists_congr fun reply => ?_
    cases reply <;> rfl

/-- An object on record is read directly, and then in the list if that is to be
consulted. -/
theorem walk_refresh_iff {id : String} {step : Step} :
    (p.refresh s id).Walk t step
      ↔ ∃ direct : Reply Snapshot,
        (consultsList s (p.outcomeOf direct) = false
          ∧ t = [.remote (.get id) direct]
          ∧ step = p.mergeReads s (p.outcomeOf direct) none)
        ∨ (consultsList s (p.outcomeOf direct) = true
          ∧ ∃ reply, t
            = [.remote (.get id) direct,
              .remote (.list p.resource.listFilter) reply]
            ∧ step
              = p.mergeReads s (p.outcomeOf direct)
                (listedAs id reply.items)) := by
  unfold refresh
  rw [walk_call_bind_iff]
  refine exists_congr fun direct => ?_
  cases hc : consultsList s (p.outcomeOf direct) with
  | false =>
    -- the direct read settles the matter
    simp only [Bool.false_eq_true, ↓reduceIte, false_and, or_false, true_and]
    constructor
    · rintro ⟨rest, rfl, h⟩
      obtain ⟨t₁, found, t₂, rfl, h₁, h₂⟩ := Program.walk_bind_iff.mp h
      obtain ⟨rfl, rfl⟩ := Program.walk_pure_iff.mp h₁
      obtain ⟨rfl, rfl⟩ := Program.walk_pure_iff.mp h₂
      exact ⟨rfl, rfl⟩
    · rintro ⟨rfl, rfl⟩
      refine ⟨[], rfl, ?_⟩
      exact Program.walk_bind_iff.mpr ⟨[], none, [], rfl, .done none, .done _⟩
  | true =>
    simp only [↓reduceIte, Bool.true_eq_false, false_and, true_and, false_or]
    constructor
    · rintro ⟨rest, rfl, h⟩
      obtain ⟨t₁, found, t₂, rfl, h₁, h₂⟩ := Program.walk_bind_iff.mp h
      obtain ⟨reply, rfl, rfl⟩ := walk_findListed_iff.mp h₁
      obtain ⟨rfl, rfl⟩ := Program.walk_pure_iff.mp h₂
      exact ⟨reply, rfl, rfl⟩
    · rintro ⟨reply, rfl, rfl⟩
      refine ⟨[.remote (.list p.resource.listFilter) reply], rfl, ?_⟩
      exact Program.walk_bind_iff.mpr
        ⟨_, _, [], rfl, walk_findListed_iff.mpr ⟨reply, rfl, rfl⟩, .done _⟩

/-- The first stage of a pass without an object on record looks for a lost
create. -/
theorem walk_observeRemote_of_none {step : Step} (h : s.identity = none) :
    (p.observeRemote s).Walk t step ↔ p.Recovery s t step := by
  unfold observeRemote
  rw [h]
  exact walk_recoverCreate_iff

/-- With an object on record it refreshes what is known of that. -/
theorem walk_observeRemote_of_some {id : String} {step : Step}
    (h : s.identity = some id) :
    (p.observeRemote s).Walk t step ↔ (p.refresh s id).Walk t step := by
  unfold observeRemote
  rw [h]

/-- What a deletion has learned of the object: the status so far, and the state
it was seen in. -/
def sighted (s : Status) : Option Snapshot → Status × Option LifecycleState
  | some seen => (observe s seen, some seen.state)
  | none => (s, none)

/-- A deletion reads the object directly, and looks into the list if the object
is not found. -/
theorem walk_locate_iff {id : String}
    {r : Except RemoteError (Status × Option LifecycleState)} :
    (p.locate s id).Walk t r
      ↔ ∃ direct : Reply Snapshot,
        (direct.isNotFound = false ∧ t = [.remote (.get id) direct]
          ∧ r = (p.outcomeOf direct).map fun seen => sighted s (some seen))
        ∨ (direct.isNotFound = true
          ∧ ∃ reply, t
            = [.remote (.get id) direct,
              .remote (.list p.resource.listFilter) reply]
            ∧ r = .ok (sighted s (listedAs id reply.items))) := by
  unfold locate
  rw [walk_call_bind_iff]
  refine exists_congr fun direct => ?_
  cases direct with
  | answered seen =>
    -- an answer ends it, as does a call without one
    constructor
    · rintro ⟨rest, rfl, h⟩
      obtain ⟨rfl, rfl⟩ := Program.walk_pure_iff.mp h
      exact .inl ⟨rfl, rfl, rfl⟩
    · rintro (⟨-, rfl, rfl⟩ | ⟨h, -⟩)
      · exact ⟨[], rfl, .done _⟩
      · cases h
  | hung =>
    constructor
    · rintro ⟨rest, rfl, h⟩
      obtain ⟨rfl, rfl⟩ := Program.walk_pure_iff.mp h
      exact .inl ⟨rfl, rfl, rfl⟩
    · rintro (⟨-, rfl, rfl⟩ | ⟨h, -⟩)
      · exact ⟨[], rfl, .done _⟩
      · cases h
  | failed e =>
    -- only an object that is not found is looked for in the list
    cases he : e.isNotFound with
    | false =>
      simp only [outcomeOf_failed, Reply.isNotFound, he, Bool.false_eq_true,
        ↓reduceIte, true_and, false_and, or_false]
      constructor
      · rintro ⟨rest, rfl, h⟩
        obtain ⟨rfl, rfl⟩ := Program.walk_pure_iff.mp h
        exact ⟨rfl, rfl⟩
      · rintro ⟨rfl, rfl⟩
        exact ⟨[], rfl, .done _⟩
    | true =>
      simp only [outcomeOf_failed, Reply.isNotFound, he, ↓reduceIte,
        Bool.true_eq_false, false_and, true_and, false_or]
      constructor
      · rintro ⟨rest, rfl, h⟩
        obtain ⟨t₁, found, t₂, rfl, h₁, h₂⟩ := Program.walk_bind_iff.mp h
        obtain ⟨reply, rfl, rfl⟩ := walk_findListed_iff.mp h₁
        refine ⟨reply, ?_⟩
        cases hl : listedAs id reply.items with
        | none =>
          rw [hl] at h₂
          obtain ⟨rfl, rfl⟩ := Program.walk_pure_iff.mp h₂
          exact ⟨rfl, rfl⟩
        | some seen =>
          rw [hl] at h₂
          obtain ⟨rfl, rfl⟩ := Program.walk_pure_iff.mp h₂
          exact ⟨rfl, rfl⟩
      · rintro ⟨reply, rfl, rfl⟩
        refine ⟨[.remote (.list p.resource.listFilter) reply], rfl, ?_⟩
        refine Program.walk_bind_iff.mpr
          ⟨_, _, [], rfl, walk_findListed_iff.mpr ⟨reply, rfl, rfl⟩, ?_⟩
        cases listedAs id reply.items <;> exact .done _

/-- So what it ends with is what was known, or as what the object was
sighted. -/
theorem sighted_of_walk_locate {id : String} {s' : Status}
    {observed : Option LifecycleState}
    (h : (p.locate s id).Walk t (.ok (s', observed))) :
    ∃ found, sighted s found = (s', observed) := by
  obtain ⟨direct, ⟨-, -, hr⟩ | ⟨-, reply, -, hr⟩⟩ := walk_locate_iff.mp h
  · cases hd : p.outcomeOf direct with
    | ok found =>
      rw [hd] at hr
      exact ⟨some found, (Except.ok.inj hr).symm⟩
    | error e =>
      rw [hd] at hr
      cases hr
  · exact ⟨_, (Except.ok.inj hr).symm⟩

/-- The calls of that search only read. -/
theorem isRead_of_mem_locate {id : String}
    {found : Except RemoteError (Status × Option LifecycleState)}
    {call : RemoteCall} {reply : Reply call.Answer}
    (h : (p.locate s id).Walk t found) (hmem : .remote call reply ∈ t) :
    call.isRead = true := by
  obtain ⟨direct, ⟨-, rfl, -⟩ | ⟨-, list, rfl, -⟩⟩ := walk_locate_iff.mp h
  · cases List.mem_singleton.mp hmem
    rfl
  · rcases List.mem_cons.mp hmem with hmem | hmem
    · cases hmem
      rfl
    · cases List.mem_singleton.mp hmem
      rfl

/-- What a deletion does first: an object that is not known is looked for as a
lost create. -/
def identify (p : Pass) (s : Status) : PassProgram Step :=
  if s.identity.isNone then p.recoverCreate s else pure (.proceed s)

theorem walk_identify_of_some {step : Step} (h : s.identity.isSome = true) :
    (p.identify s).Walk t step ↔ t = [] ∧ step = .proceed s := by
  unfold identify
  rw [if_neg (by simp [Option.isSome_iff_ne_none.mp h])]
  exact Program.walk_pure_iff

theorem walk_identify_of_none {step : Step} (h : s.identity = none) :
    (p.identify s).Walk t step ↔ p.Recovery s t step := by
  unfold identify
  rw [if_pos (by simp [h])]
  exact walk_recoverCreate_iff

/-! ## Only looks -/

theorem Recovery.looks {step : Step} (h : p.Recovery s t step) :
    ∀ e ∈ t, Looks e := by
  cases h with
  | unmarked | irrelevant | repeatable | blind => simp
  | adopted | unseen => simpa using .list

/-- What is observed before anything else is done is only looked at. -/
theorem looks_of_walk_observeRemote {step : Step}
    (h : (p.observeRemote s).Walk t step) : ∀ e ∈ t, Looks e := by
  cases hid : s.identity with
  | none => exact ((walk_observeRemote_of_none hid).mp h).looks
  | some id =>
    obtain ⟨direct, ⟨-, rfl, -⟩ | ⟨-, reply, rfl, -⟩⟩ :=
      walk_refresh_iff.mp ((walk_observeRemote_of_some hid).mp h)
    · simpa using .get
    · simpa using ⟨.get, .list⟩

theorem looks_of_walk_identify {step : Step} (h : (p.identify s).Walk t step) :
    ∀ e ∈ t, Looks e := by
  cases hid : s.identity with
  | some id =>
    obtain ⟨rfl, -⟩ := (walk_identify_of_some (by simp [hid])).mp h
    simp
  | none => exact ((walk_identify_of_none hid).mp h).looks

theorem looks_of_walk_locate {id : String}
    {found : Except RemoteError (Status × Option LifecycleState)}
    (h : (p.locate s id).Walk t found) : ∀ e ∈ t, Looks e := by
  obtain ⟨direct, ⟨-, rfl, -⟩ | ⟨-, reply, rfl, -⟩⟩ := walk_locate_iff.mp h
  · simpa using .get
  · simpa using ⟨.get, .list⟩

end Pass

end DatabaseOperator
