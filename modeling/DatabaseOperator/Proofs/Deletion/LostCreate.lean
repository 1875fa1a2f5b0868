import DatabaseOperator.Proofs.Deletion.Evidence
import DatabaseOperator.Proofs.History
import DatabaseOperator.Proofs.Pass.Inheritance

/-!
# Deletion after a lost create

The answer to a create may be lost, so that all the status holds is the mark of
the call. If the resource is then deleted, its object has to be found before it
can be torn down, with the search that is made for provisioning: what there
means that the create may be sent again means here that the resource is let go.

- `Pass.GivesUp`: the search ends without an object.
- `Pass.Targets`: the object that a deletion takes for that of its resource.
- `Pass.Remembers`: what a run of deletions keeps of the mark.
- `Pass.LetsGo`: when the resource of such an object is let go, and
  `Pass.released_iff_of_marked`: then and only then.
-/

namespace DatabaseOperator.Pass

variable {p : Pass} {s : Status} {pending : PendingAction} {id : String}
    {t t₁ : List PassEvent} {r : Except OperatorError Outcome}

/-- A deletion stops to look for the object of a create that is marked. -/
inductive GivesUp (p : Pass) (pending : PendingAction) (t : List PassEvent) :
    Prop where
  /-- The create could be repeated, which no deletion does. -/
  | repeatable (unknown : p.resource.status.identity = none)
      (nameless : p.resource.listFilter.displayName = none)
      (token : p.resource.retryToken.isSome = true)
  /-- The longest wait is over, and no list has shown exactly one live
  object. -/
  | expired (unknown : p.resource.status.identity = none)
      (old : ¬ Instant.age pending.since p.now < p.settings.maxWait)
      (unseen : ∀ reply, .remote (.list p.resource.listFilter) reply ∈ t →
        soleLive reply.items = none)

/-- A deletion takes an object for that of its resource: the one on record, or
else the only live one that is listed under the name. The second trace is what
it does about the object. -/
inductive Targets (p : Pass) (id : String) : List PassEvent → List PassEvent →
    Prop where
  | recorded {t : List PassEvent}
      (recorded : p.resource.status.identity = some id) : Targets p id t t
  | adopted {t : List PassEvent} {reply : Reply (List Snapshot)}
      {found : Snapshot} (unknown : p.resource.status.identity = none)
      (named : p.resource.listFilter.displayName.isSome = true)
      (sole : soleLive reply.items = some found) (same : found.id = id) :
      Targets p id (.remote (.list p.resource.listFilter) reply :: t) t

/-- A resource is let go although an object is not known to be gone: the
deletion gives up the search, or an object is taken to be gone that it takes for
its own. -/
def LetsGo (p : Pass) (pending : PendingAction) (t : List PassEvent) : Prop :=
  p.GivesUp pending t ∨ ∃ id rest, p.Targets id t rest ∧ p.TakenForGone id rest

/-! ## One deletion -/

/-- A deletion that finds its object on record does not give it up, and takes no
other for it. -/
theorem letsGo_iff_of_recorded (hid : p.resource.status.identity = some id) :
    p.LetsGo pending t ↔ p.TakenForGone id t := by
  constructor
  · rintro ((⟨unknown⟩ | ⟨unknown⟩) | ⟨id', rest, recorded | ⟨unknown⟩, hgone⟩)
    · rw [hid] at unknown
      cases unknown
    · rw [hid] at unknown
      cases unknown
    · obtain rfl := Option.some.inj (hid.symm.trans recorded)
      exact hgone
    · rw [hid] at unknown
      cases unknown
  · intro hgone
    exact .inr ⟨id, t, .recorded hid, hgone⟩

/-- Nor does one that has taken an object for its own. -/
theorem letsGo_iff_of_adopted {reply : Reply (List Snapshot)} {found : Snapshot}
    (hnone : p.resource.status.identity = none)
    (named : p.resource.listFilter.displayName.isSome = true)
    (sole : soleLive reply.items = some found) :
    p.LetsGo pending (.remote (.list p.resource.listFilter) reply :: t)
      ↔ p.TakenForGone found.id t := by
  constructor
  · rintro ((⟨-, nameless⟩ | ⟨-, -, unseen⟩) | ⟨id, rest, htargets, hgone⟩)
    · rw [nameless] at named
      cases named
    · rw [unseen reply (List.mem_cons_self ..)] at sole
      cases sole
    · generalize htrace : .remote (.list p.resource.listFilter) reply :: t
        = trace at htargets
      cases htargets with
      | recorded recorded =>
        rw [hnone] at recorded
        cases recorded
      | adopted _ _ sole' same =>
        obtain ⟨hreply, rfl⟩ := List.cons.inj htrace
        cases hreply
        obtain rfl := Option.some.inj (sole.symm.trans sole')
        rw [same]
        exact hgone
  · intro hgone
    exact .inr ⟨found.id, t, .adopted hnone named sole rfl, hgone⟩

/-- A deletion that waits for the object of a create has no ground to let its
resource go. -/
theorem not_letsGo_of_stop {t₂ : List PassEvent} {d : Duration} {g : Progress}
    {d' : Duration} (hnone : p.resource.status.identity = none)
    (hmark : p.resource.status.inFlight = some pending)
    (search : p.Recovery p.deletingStatus t₁ (.stop s d))
    (ending : (finish g d').Walk t₂ r) : ¬ p.LetsGo pending (t₁ ++ t₂) := by
  have hmarked : p.deletingStatus.inFlight = some pending := hmark
  generalize hstep : Step.stop s d = step at search
  cases search with
  | unmarked | irrelevant | repeatable | adopted => cases hstep
  | blind marked _ nameless token =>
    -- the create cannot be repeated, is young, and no list was read
    obtain rfl := Option.some.inj (hmarked.symm.trans marked)
    rintro ((⟨-, -, repeats⟩ | ⟨-, old⟩) | ⟨id, rest,
      ⟨recorded⟩ | ⟨-, named⟩, -⟩)
    · rw [token] at repeats
      cases repeats
    · rw [awaitCreated_of_old old] at hstep
      cases hstep
    · rw [hnone] at recorded
      cases recorded
    · rw [nameless] at named
      cases named
  | @unseen _ reply marked _ named unseen =>
    -- the create is young, and the list that was read shows no single object
    obtain rfl := Option.some.inj (hmarked.symm.trans marked)
    rintro ((⟨-, nameless⟩ | ⟨-, old⟩) | ⟨id, rest, htargets, -⟩)
    · rw [nameless] at named
      cases named
    · rw [awaitCreated_of_old old] at hstep
      cases hstep
    · generalize htrace : [.remote (.list p.resource.listFilter) reply] ++ t₂
        = trace at htargets
      cases htargets with
      | recorded recorded =>
        rw [hnone] at recorded
        cases recorded
      | adopted _ _ sole =>
        cases (List.cons.inj htrace).1
        rw [unseen] at sole
        cases sole

/-- A deletion that has found no object, and waits for none, has given up. -/
theorem givesUp_of_unknown {t₂ : List PassEvent} {g : Progress}
    (hnone : p.resource.status.identity = none)
    (hmark : p.resource.status.inFlight = some pending)
    (hcreate : isCreateSignature pending.signature = true)
    (search : p.Recovery p.deletingStatus t₁ (.proceed s))
    (unknown : s.identity = none) (ending : (release g).Walk t₂ r) :
    p.GivesUp pending (t₁ ++ t₂) := by
  have hmarked : p.deletingStatus.inFlight = some pending := hmark
  have hremote : ∀ {call : RemoteCall} {reply : Reply call.Answer},
      .remote call reply ∉ t₂ :=
    remote_not_mem_of_walk_release ending
  have hold : p.awaitCreated p.deletingStatus pending = .proceed s →
      ¬ Instant.age pending.since p.now < p.settings.maxWait := by
    intro hproceed hyoung
    obtain ⟨s', d, hstop, -⟩ := awaitCreated_of_young hyoung
    rw [hstop] at hproceed
    cases hproceed
  generalize hstep : Step.proceed s = step at search
  cases search with
  | unmarked marked =>
    rw [hmarked] at marked
    cases marked
  | irrelevant marked other =>
    obtain rfl := Option.some.inj (hmarked.symm.trans marked)
    rw [hcreate] at other
    cases other
  | repeatable _ _ nameless token => exact .repeatable hnone nameless token
  | adopted =>
    cases hstep
    rw [identity_observe_of_none (show p.deletingStatus.identity = none
      from hnone)] at unknown
    cases unknown
  | blind marked _ nameless =>
    obtain rfl := Option.some.inj (hmarked.symm.trans marked)
    exact .expired hnone (hold hstep.symm) fun reply hreply =>
      absurd hreply hremote
  | @unseen _ reply marked _ _ unseen =>
    obtain rfl := Option.some.inj (hmarked.symm.trans marked)
    refine .expired hnone (hold hstep.symm) fun reply' hreply => ?_
    obtain rfl : reply' = reply := by simpa [hremote] using hreply
    exact unseen

/-- A deletion that knows of a create only waits for its object, gives it up, or
takes the only live one for it. -/
theorem released_iff_of_marked (hdel : p.resource.deletionRequested = true)
    (hard : p.resource.hardLink = true)
    (hnone : p.resource.status.identity = none)
    (hmark : p.resource.status.inFlight = some pending)
    (hcreate : isCreateSignature pending.signature = true)
    (h : p.run.Walk t r) : Released t ↔ p.LetsGo pending t := by
  have hunknown : p.deletingStatus.identity = none := hnone
  cases teardown_of_walk hdel h with
  | detached soft =>
    rw [hard] at soft
    cases soft
  | awaited _ identified ending =>
    refine iff_of_false ?_ ?_
    · rw [released_append, not_or]
      exact ⟨not_released_of_quiet (quiet_of_walk_identify identified),
        not_released_of_walk_finish ending⟩
    · exact not_letsGo_of_stop hnone hmark
        ((walk_identify_of_none hunknown).mp identified) ending
  | objectless _ identified unknown ending =>
    refine iff_of_true ?_ ?_
    · exact released_append.mpr (.inr (released_of_walk_release ending))
    · have search := (walk_identify_of_none hunknown).mp identified
      exact .inl (givesUp_of_unknown hnone hmark hcreate search unknown ending)
  | @known t₁ t₂ s id r _ knows teardown =>
    obtain ⟨identified, hid⟩ := knows
    -- an object that is known now has just been adopted
    rcases ((walk_identify_of_none hunknown).mp identified).inherits_or_adopts
      with hkept | hadopted
    · rw [show s.identity = none from hkept.1.trans hunknown] at hid
      cases hid
    · obtain ⟨_, reply, found, -, -, named, rfl, sole, hstep⟩ := hadopted
      cases hstep
      obtain rfl :=
        Option.some.inj
          ((identity_observe_of_none hunknown found).symm.trans hid)
      rw [List.singleton_append, released_cons_remote, teardown.released_iff]
      exact (letsGo_iff_of_adopted hnone named sole).symm

/-! ## A run of deletions -/

/-- The object of a create is either looked for still, or on record. -/
def Remembers (pending : PendingAction) (s : Status) : Prop :=
  (s.identity = none ∧ s.inFlight = some pending) ∨ s.identity.isSome = true

/-- What a deletion stores remembers the create that it was begun with. -/
theorem remembers_of_saved (hdel : p.resource.deletionRequested = true)
    (hard : p.resource.hardLink = true)
    (hbegin : Remembers pending p.resource.status) (h : p.run.Walk t r)
    (hs : .saved s ∈ t) : Remembers pending s := by
  cases teardown_of_walk hdel h with
  | detached soft =>
    rw [hard] at soft
    cases soft
  | objectless _ identified _ ending =>
    have quiet := quiet_of_walk_identify identified
    exact absurd hs (saved_not_mem_append_release
      (saveStatus_not_mem_of_quiet quiet) ending)
  | known _ knows teardown =>
    have hs := saved_mem_of_quiet (quiet_of_knows knows) hs
    refine .inr ?_
    rcases teardown.inherits knows.2 hs with hkept | hkept
    · rw [hkept.1, knows.2]
      rfl
    · rw [show s.identity = some _ from hkept.1.trans knows.2]
      rfl
  | awaited _ identified ending =>
    have quiet := quiet_of_walk_identify identified
    obtain rfl := eq_of_saved_mem_append_finish
      (saveStatus_not_mem_of_quiet quiet) ending hs
    rcases hbegin with ⟨hnone, hmark⟩ | hsome
    · have hunknown : p.deletingStatus.identity = none := hnone
      have hfacts :=
        ((walk_identify_of_none hunknown).mp identified).facts_of_stop
      exact .inl ⟨(Status.identity_eq_of_facts hfacts).trans hnone,
        (Status.inFlight_eq_of_facts hfacts).trans hmark⟩
    · have hknown : p.deletingStatus.identity.isSome = true := hsome
      cases ((walk_identify_of_some hknown).mp identified).2

/-- A run of deletions never forgets the create that it was begun with. -/
theorem remembers_of_reaches {s₀ : Status} {turns : List Turn}
    (hbegin : Remembers pending s₀)
    (hdeletes : ∀ turn ∈ turns, turn.pass.resource.deletionRequested = true
      ∧ turn.pass.resource.hardLink = true)
    (hrun : Reaches s₀ turns s) :
    Remembers pending s := by
  refine (hrun.invariant hbegin fun turn hturn hremembers s hs => ?_).1
  obtain ⟨hdel, hard⟩ := hdeletes turn hturn
  exact remembers_of_saved hdel hard hremembers turn.walk hs

/-- The remote answers for an object as for one that is there and neither gone
nor going. -/
def AnswersLive (c : String) (t : List PassEvent) : Prop :=
  (∀ reply : Reply Snapshot, .remote (.get c) reply ∈ t →
    reply.isNotFound = false)
    ∧ (∀ found : Snapshot, .remote (.get c) (.answered found) ∈ t →
      found.state.isTornDown = false)
    ∧ ∀ e : RemoteError, .remote (.delete c) (.failed e) ∈ t →
      e.isNotFound = false

/-- What a deletion does about its target is part of what it does. -/
theorem AnswersLive.of_targets {c : String} {rest : List PassEvent}
    (h : AnswersLive c t) (htargets : p.Targets id t rest) :
    AnswersLive c rest := by
  cases htargets with
  | recorded => exact h
  | adopted =>
    obtain ⟨hfound, hlive, hkept⟩ := h
    refine ⟨fun reply hmem => ?_, fun found hmem => ?_, fun e hmem => ?_⟩
    · exact hfound reply (List.mem_cons_of_mem _ hmem)
    · exact hlive found (List.mem_cons_of_mem _ hmem)
    · exact hkept e (List.mem_cons_of_mem _ hmem)

/-- An object that the remote answers for is not taken to be gone. -/
theorem not_takenForGone_of_answersLive {c : String} (h : AnswersLive c t) :
    ¬ p.TakenForGone c t := by
  obtain ⟨hfound, hlive, hkept⟩ := h
  rintro ((⟨hget, torn⟩ | ⟨hget, missing⟩ | ⟨refused, missing⟩) | ⟨reply,
    direct, hget, missing, -⟩)
  · rw [hlive _ hget] at torn
    cases torn
  · rw [hfound _ hget] at missing
    cases missing
  · rw [hkept _ refused] at missing
    cases missing
  · rw [hfound _ hget] at missing
    cases missing

/-- **Letting go of a live object.** A run of deletions begins with a status
that holds the mark of a create and no identity. A pass of the run lets the
resource go exactly if it gives up the search for the object of the create, or
takes an object for it and that one to be gone. If that is to happen while the
object is live, the remote still answering for it, then the search is given up
or it is another object that is taken for it. -/
theorem released_after_lost_create_iff {s₀ : Status} {turns : List Turn}
    {turn : Turn} (hnone : s₀.identity = none)
    (hmark : s₀.inFlight = some pending)
    (hcreate : isCreateSignature pending.signature = true)
    (hrun : Reaches s₀ turns turn.pass.resource.status)
    (hdeletes : ∀ turn' ∈ turns ++ [turn],
      turn'.pass.resource.deletionRequested = true
        ∧ turn'.pass.resource.hardLink = true) :
    (Released turn.trace
      ↔ turn.pass.GivesUp pending turn.trace
        ∨ ∃ id rest, turn.pass.Targets id turn.trace rest
          ∧ turn.pass.TakenForGone id rest)
      ∧ ∀ c, AnswersLive c turn.trace →
        (Released turn.trace
          ↔ turn.pass.GivesUp pending turn.trace
            ∨ ∃ id rest, id ≠ c ∧ turn.pass.Targets id turn.trace rest
              ∧ turn.pass.TakenForGone id rest) := by
  obtain ⟨hdel, hard⟩ := hdeletes turn (by simp)
  have hremembers : Remembers pending turn.pass.resource.status :=
    remembers_of_reaches (.inl ⟨hnone, hmark⟩)
      (fun turn' h => hdeletes turn' (List.mem_append_left _ h)) hrun
  have hreleased :
      Released turn.trace ↔ turn.pass.LetsGo pending turn.trace := by
    rcases hremembers with ⟨hunknown, hmarked⟩ | hsome
    · exact released_iff_of_marked hdel hard hunknown hmarked hcreate turn.walk
    · obtain ⟨id, hid⟩ := Option.isSome_iff_exists.mp hsome
      rw [letsGo_iff_of_recorded hid]
      exact (objectTeardown_of_recorded hdel hard hid turn.walk).released_iff
  refine ⟨hreleased, fun c hlive => hreleased.trans (or_congr_right ?_)⟩
  refine exists_congr fun id => exists_congr fun rest => ?_
  constructor
  · rintro ⟨htargets, hgone⟩
    refine ⟨?_, htargets, hgone⟩
    rintro rfl
    exact not_takenForGone_of_answersLive (hlive.of_targets htargets) hgone
  · rintro ⟨-, htargets, hgone⟩
    exact ⟨htargets, hgone⟩

/-- The pass in which the answer is lost. -/
def lostCreate : Turn :=
  .simulated Simulation.answer (ofDatabase none {} false ⟨1700000000, 0⟩)
    losingRemote

/-- The deletion that follows. -/
def deletionAfterLostCreate : Turn :=
  .simulated Simulation.answer
    (ofDatabase none lostCreate.stored true ⟨1700000010, 0⟩)
    (losingRemote.carryOut lostCreate.pass.run).2

/-- The deletion of a database without a name lets the resource go at once,
while the database that was made for it is there and live. -/
theorem deletionAfterLostCreate_released :
    Reaches {} [lostCreate] deletionAfterLostCreate.pass.resource.status
      ∧ lostCreate.stored.identity = none
      ∧ lostCreate.stored.inFlight
        = some
          { signature := "Provision", since := "2023-11-14T22:13:20+00:00" }
      ∧ Released deletionAfterLostCreate.trace
      ∧ ∃ object,
        ((losingRemote.carryOut lostCreate.pass.run).2.carryOut
          deletionAfterLostCreate.pass.run).2.remote.objects.get? "ocid1.adb.1"
          = some object
        ∧ object.state.isTornDown = false := by
  have htrace :
      deletionAfterLostCreate.trace = [.store .releaseFinalizer (.ok ())] := rfl
  refine ⟨.step .start rfl, by decide +kernel, by decide +kernel, ?_, ?_⟩
  · rw [htrace]
    exact ⟨.ok (), List.mem_singleton_self _⟩
  · exact ⟨{ id := "ocid1.adb.1", state := .provisioning, attributes := {} },
      rfl, rfl⟩

/-- The status after a create of which nothing was heard. -/
def markedStatus : Status :=
  { inFlight := some { signature := "Provision",
                       since := "2023-11-14T22:13:20+00:00" } }

/-- A remote that holds the database, and cannot be listed. -/
def unlistedRemote : Simulation :=
  { remote :=
      { objects := .ofList [("ocid1.adb.1", liveDatabase "sales")]
        failures := .ofList [("list", [some (.transient "timeout")])] } }

/-- A deletion that waits for the database to appear. -/
def earlyDeletion : Turn :=
  .simulated Simulation.answer
    (ofDatabase (some "sales") markedStatus true ⟨1700000010, 0⟩) unlistedRemote

/-- The deletion once the longest wait is over. -/
def lateDeletion : Turn :=
  .simulated Simulation.answer
    (ofDatabase (some "sales") earlyDeletion.stored true ⟨1700000900, 0⟩)
    unlistedRemote

/-- With a name the resource is let go when the longest wait is over, if the
list cannot be read then. -/
theorem lateDeletion_released :
    AnswersLive "ocid1.adb.1" lateDeletion.trace
      ∧ Released lateDeletion.trace := by
  have htrace : lateDeletion.trace
      = [.remote (.list { displayName := some "sales" })
        (.failed (.transient "timeout")), .store .releaseFinalizer (.ok ())] :=
          rfl
  have hlive : AnswersLive "ocid1.adb.1" lateDeletion.trace := by
    rw [htrace]
    refine ⟨?_, ?_, ?_⟩ <;> simp
  have hgivesUp : lateDeletion.pass.GivesUp
    { signature := "Provision", since := "2023-11-14T22:13:20+00:00" }
      lateDeletion.trace := by
    refine .expired (by decide +kernel) (by decide +kernel) ?_
    rw [htrace]
    intro reply hreply
    obtain ⟨-, rfl⟩ := by simpa using hreply
    rfl
  have hrun : Reaches markedStatus
    [earlyDeletion] lateDeletion.pass.resource.status := .cons rfl .start
  refine ⟨hlive, ?_⟩
  refine ((released_after_lost_create_iff rfl rfl (by decide +kernel) hrun ?_).2
    "ocid1.adb.1" hlive).mpr (.inl hgivesUp)
  intro turn hturn
  simp only [List.mem_append, List.mem_singleton] at hturn
  rcases hturn with rfl | rfl <;> exact ⟨rfl, rfl⟩

end DatabaseOperator.Pass
