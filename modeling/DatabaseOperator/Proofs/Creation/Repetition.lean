import DatabaseOperator.Proofs.Creation.Making
import DatabaseOperator.Proofs.Deletion.LostCreate
import DatabaseOperator.Proofs.Signature
import DatabaseOperator.Proofs.Time.Timestamp

/-!
# When a create is repeated

A call that makes an object is marked before it is sent, and the mark stays
until the call is answered for good. While the mark is young and the resource
has a name, a pass looks for the object and does nothing else. So the call is
not sent again before a pass has found the mark too old, whatever fails in
between. Once a pass has found it so, the mark is gone or a new one, and a clock
that goes back does not bring the old one back.

- `Pass.Unsettled`: the outcome of a call does not reach the store.
- `Pass.remembers_of_unsettled`: what a pass leaves behind that makes an object,
  if the outcome does not.
- `Pass.remembers_of_observeRemote`, `Pass.not_creates_of_remembers`,
  `Pass.remembers_of_saved_young`: what a pass does that begins with a young
  mark.
- `create_not_repeated_while_young`: the same for a run.
- `create_repeated_after_clock_went_back`: without a bound on all clocks the
  call is sent again early.
-/

namespace DatabaseOperator

namespace Pass

variable {p : Pass} {s : Status} {pending : PendingAction}
    {t before after : List PassEvent} {r : Except OperatorError Outcome}
    {call : RemoteCall} {reply : Reply call.Answer}

/-! ## Outcomes that do not reach the store -/

/-- The outcome of a call does not reach the store: no status is stored after
the call, or all that is known of the call is that it may have had its
effect. -/
def Unsettled (p : Pass) {α : Type} (reply : Reply α) (after : List PassEvent) :
    Prop :=
  (∀ s, .saved s ∉ after)
    ∨ ∃ e, p.outcomeOf reply = .error e ∧ e.errorClass = .transient

/-- A call that may have had its effect keeps its mark. -/
theorem inFlight_afterFailure_of_transient {action : CorrectiveAction}
    {e : RemoteError} (hcreates : action.createsObject = true)
    (he : e.errorClass = .transient) :
    (p.afterFailure s action e).1.inFlight = s.inFlight := by
  unfold afterFailure
  simp only [hcreates, he, beq_self_eq_true, Bool.and_self, ↓reduceIte]
  rfl

/-- If the outcome of a call that makes an object does not reach the store, the
mark of the call stays there. -/
theorem remembers_of_unsettled (h : p.run.Walk t r)
    (ht : t = before ++ .remote call reply :: after)
    (hcreates : call.createsObject = true)
    (hunsettled : p.Unsettled reply after) (s₀ : Status) :
    ∃ signature, isCreateSignature signature = true
      ∧ Remembers (p.pending signature) (storedAfter s₀ t) := by
  obtain ⟨hdel, looked, read, s, action, c, rfl, sends, -, -, haction,
    ending⟩ := sends_of_creates h ht hcreates
  have hmarked : (p.markDispatched s action).identity = none :=
    (sends.unidentified hdel haction).1
  have hstored :
      storedAfter s₀ t = storedAfter (p.markDispatched s action) after := by
    rw [ht, storedAfter_append, storedAfter_append]
    rfl
  refine ⟨action.signature,
    by rw [CorrectiveAction.isCreateSignature_signature, haction], .inl ?_⟩
  rw [hstored]
  rcases storedAfter_cases (p.markDispatched s action) after with hkept | hsaved
  · rw [hkept]
    exact ⟨hmarked, rfl⟩
  · rcases hunsettled with hlost | ⟨e, hfailed, htransient⟩
    · exact absurd hsaved (hlost _)
    · have hanswer : p.answerOf call reply = .error e := by
        unfold answerOf
        rw [hfailed]
        rfl
      have hafter := eq_of_saved_mem_finish ending hsaved
      rw [hanswer] at hafter
      rw [hafter]
      have hidentity :=
        (inherits_afterFailure p (p.markDispatched s action) action e).1.trans
          hmarked
      exact ⟨hidentity, inFlight_afterFailure_of_transient haction htransient⟩

/-! ## Beginning with a young mark -/

/-- A pass that looks for the object of a young mark finds it, or stops and goes
on looking later. -/
theorem stays_of_recovery {step : Step} (hmark : s.inFlight = some pending)
    (hcreate : isCreateSignature pending.signature = true)
    (hnamed : p.resource.listFilter.displayName.isSome = true)
    (hyoung : Instant.age pending.since p.now < p.settings.maxWait)
    (h : p.Recovery s t step) :
    (∃ found, step = .proceed (observe s found))
      ∨ ∃ s' d, step = .stop s' d ∧ s'.facts = s.facts := by
  cases h with
  | unmarked marked =>
    rw [hmark] at marked
    cases marked
  | irrelevant marked other =>
    obtain rfl := Option.some.inj (hmark.symm.trans marked)
    rw [hcreate] at other
    cases other
  | repeatable _ _ nameless | blind _ _ nameless =>
    rw [nameless] at hnamed
    cases hnamed
  | adopted _ _ _ sole => exact .inl ⟨_, rfl⟩
  | unseen marked =>
    obtain rfl := Option.some.inj (hmark.symm.trans marked)
    exact .inr (awaitCreated_of_young hyoung)

/-- A pass that begins with a young mark, or with an object, ends its first
stage with the mark or goes on with an object. -/
theorem remembers_of_observeRemote {step : Step}
    (hbegin : Remembers pending p.resource.status)
    (hcreate : isCreateSignature pending.signature = true)
    (hnamed : p.resource.listFilter.displayName.isSome = true)
    (hyoung : Instant.age pending.since p.now < p.settings.maxWait)
    (h : (p.observeRemote p.initialStatus).Walk t step) :
    (∃ seen, step = .proceed seen ∧ seen.identity.isSome = true)
      ∨ ∃ s d, step = .stop s d ∧ Remembers pending s := by
  rcases hbegin with ⟨hnone, hmark⟩ | hsome
  · have hunknown : p.initialStatus.identity = none := hnone
    have hmarked : p.initialStatus.inFlight = some pending := hmark
    rcases stays_of_recovery hmarked hcreate hnamed hyoung
        ((walk_observeRemote_of_none hunknown).mp h) with
      ⟨found, rfl⟩ | ⟨s, d, rfl, hfacts⟩
    · refine .inl ⟨_, rfl, ?_⟩
      rw [identity_observe_of_none hunknown]
      rfl
    · have hidentity := (Status.identity_eq_of_facts hfacts).trans hunknown
      exact .inr
        ⟨s, d, rfl,
          .inl ⟨hidentity, (Status.inFlight_eq_of_facts hfacts).trans hmarked⟩⟩
  · obtain ⟨id, hid⟩ := Option.isSome_iff_exists.mp hsome
    have hkept : step.status.identity = some id :=
      (inherits_of_walk_observeRemote hid h).1.trans hid
    cases step with
    | proceed seen =>
      have hseen : seen.identity = some id := hkept
      exact .inl ⟨seen, rfl, by rw [hseen]; rfl⟩
    | stop s d =>
      have hstopped : s.identity = some id := hkept
      exact .inr ⟨s, d, rfl, .inr (by rw [hstopped]; rfl)⟩

section Young

variable (hbegin : Remembers pending p.resource.status)
    (hcreate : isCreateSignature pending.signature = true)
    (hnamed : p.resource.listFilter.displayName.isSome = true)
    (hyoung : Instant.age pending.since p.now < p.settings.maxWait)
    (h : p.run.Walk t r)

include hbegin hcreate hnamed hyoung h

/-- A pass that begins with a young mark, or with an object, makes none. -/
theorem not_creates_of_remembers (hcreates : call.createsObject = true) :
    .remote call reply ∉ t := by
  intro hmem
  obtain ⟨before, after, ht⟩ := List.append_of_mem hmem
  obtain ⟨hdel, looked, read, s, action, c, -, sends, -, -, haction, -⟩ :=
    sends_of_creates h ht hcreates
  obtain ⟨-, seen, observed, hnone⟩ := sends.unidentified hdel haction
  rcases remembers_of_observeRemote hbegin hcreate hnamed hyoung observed
    with ⟨_, hstep, hsome⟩ | ⟨_, _, hstep, -⟩
  · cases hstep
    rw [hnone] at hsome
    cases hsome
  · cases hstep

/-- What such a pass stores holds the mark still, or an object. -/
theorem remembers_of_saved_young (hs : .saved s ∈ t) : Remembers pending s := by
  cases hdel : p.resource.deletionRequested with
  | true =>
    cases hlink : p.resource.hardLink with
    | true => exact remembers_of_saved hdel hlink hbegin h hs
    | false =>
      -- without a hard link nothing is stored
      cases teardown_of_walk hdel h with
      | detached _ ending => exact absurd hs (saved_not_mem_release ending)
      | awaited hard | objectless hard | known hard =>
        rw [hlink] at hard
        cases hard
  | false =>
    rcases (stores_of_saved hdel h hs).identity_cases with ⟨t₁, d, observed⟩
      | ⟨t₁, seen, observed, hsame⟩
    · rcases remembers_of_observeRemote hbegin hcreate hnamed hyoung observed
        with ⟨_, hstep, -⟩ | ⟨_, _, hstep, hrest⟩
      · cases hstep
      · cases hstep
        exact hrest
    · rcases remembers_of_observeRemote hbegin hcreate hnamed hyoung observed
        with ⟨_, hstep, hsome⟩ | ⟨_, _, hstep, -⟩
      · cases hstep
        refine .inr ?_
        rw [hsame hsome]
        exact hsome
      · cases hstep

end Young

end Pass

/-! ## Runs -/

/-- A run in which the mark is young in every pass, and every pass has a name to
look for, keeps the mark until the object is known. -/
theorem remembers_of_reaches_young {pending : PendingAction} {s₀ s : Status}
    {turns : List Turn} (hbegin : Pass.Remembers pending s₀)
    (hcreate : isCreateSignature pending.signature = true)
    (hnamed : ∀ turn ∈ turns,
      turn.pass.resource.listFilter.displayName.isSome = true)
    (hyoung : ∀ turn ∈ turns,
      Instant.age pending.since turn.pass.now < turn.pass.settings.maxWait)
    (hrun : Reaches s₀ turns s) : Pass.Remembers pending s := by
  refine (hrun.invariant hbegin fun turn hturn hremembers s hs => ?_).1
  exact Pass.remembers_of_saved_young hremembers hcreate (hnamed turn hturn)
    (hyoung turn hturn) turn.walk hs

/-- **A create is not repeated early.** In a run a pass sends a call that makes
an object, and the outcome of the call does not reach the store. The passes that
follow have a name to look for, and in none of them has the longest wait passed
since then, where a clock before that time counts as that time. Then the last of
them sends no such call. -/
theorem create_not_repeated_while_young {s₀ s : Status}
    {before between : List Turn} {first last : Turn}
    {sent rest : List PassEvent} {call : RemoteCall} {reply : Reply call.Answer}
    (hrun : Reaches s₀ (before ++ first :: (between ++ [last])) s)
    (htrace : first.trace = sent ++ .remote call reply :: rest)
    (hcreates : call.createsObject = true)
    (hunsettled : first.pass.Unsettled reply rest)
    (hnamed : ∀ turn ∈ between ++ [last],
      turn.pass.resource.listFilter.displayName.isSome = true)
    (hyoung : ∀ turn ∈ between ++ [last],
      Instant.sinceClamped first.pass.now turn.pass.now
        < turn.pass.settings.maxWait) :
    ∀ (call : RemoteCall) (reply : Reply call.Answer),
      call.createsObject = true → .remote call reply ∉ last.trace := by
  obtain ⟨signature, hcreate, hstored⟩ :=
    Pass.remembers_of_unsettled first.walk htrace hcreates hunsettled
      first.pass.resource.status
  obtain ⟨s₁, -, hfrom⟩ := hrun.split
  obtain ⟨s₂, hbetween, hlast⟩ := hfrom.tail.split
  -- the mark is no older than the call, so it is young where the call is
  have hage : ∀ turn ∈ between ++ [last],
      Instant.age first.pass.now.timestamp turn.pass.now
        < turn.pass.settings.maxWait :=
    fun turn hturn =>
      Nat.lt_of_le_of_lt (Instant.age_timestamp_le _ turn.pass.now)
        (hyoung turn hturn)
  have hremembers : Pass.Remembers (first.pass.pending signature) s₂ :=
    remembers_of_reaches_young hstored hcreate
      (fun turn h => hnamed turn (List.mem_append_left _ h))
      (fun turn h => hage turn (List.mem_append_left _ h)) hbetween
  have hbegins : last.pass.resource.status = s₂ := hlast.head
  rw [← hbegins] at hremembers
  intro call reply hcreates
  exact Pass.not_creates_of_remembers hremembers hcreate (hnamed last (by simp))
    (hage last (by simp)) last.walk hcreates

/-- A remote that refuses one create for now, and the next one as a conflict. -/
def refusingRemote : Simulation :=
  { remote :=
      { failures :=
          .ofList
            [("create",
              [some (.transient "timeout"), some (.conflict "busy")])] } }

/-- The pass whose create is refused for now. -/
def firstCreate : Turn :=
  .simulated Simulation.answer
    (.ofDatabase (some "sales") {} false ⟨1700000000, 0⟩) refusingRemote

/-- A pass soon after it. -/
def patientPass : Turn :=
  .simulated Simulation.answer
    (.ofDatabase (some "sales") firstCreate.stored false ⟨1700000020, 0⟩)
    (refusingRemote.carryOut firstCreate.pass.run).2

/-- The pass after the one whose create is refused knows of no object, and makes
none. -/
theorem patientPass_creates_nothing :
    patientPass.pass.resource.status.identity = none
      ∧ ∀ (request : ProvisionRequest) (reply : Reply Snapshot),
        .remote (.create request) reply ∉ patientPass.trace := by
  obtain ⟨marked, sent, rest, htrace⟩ : ∃ marked sent rest, firstCreate.trace
      = [.saved marked]
        ++ .remote (.create sent) (.failed (.transient "timeout")) :: rest :=
          ⟨_, _, _, rfl⟩
  have hrun : Reaches {} ([] ++ firstCreate :: ([] ++ [patientPass]))
      patientPass.stored :=
    .cons rfl (.cons rfl .start)
  have hnamed : ∀ turn ∈ [] ++ [patientPass],
      turn.pass.resource.listFilter.displayName.isSome = true := by
    intro turn hturn
    obtain rfl := List.mem_singleton.mp hturn
    rfl
  have hyoung : ∀ turn ∈ [] ++ [patientPass],
      Instant.sinceClamped firstCreate.pass.now turn.pass.now
        < turn.pass.settings.maxWait := by
    intro turn hturn
    obtain rfl := List.mem_singleton.mp hturn
    decide
  have hnever :=
    create_not_repeated_while_young hrun htrace rfl
      (.inr ⟨_, rfl, rfl⟩) hnamed hyoung
  exact ⟨rfl, fun request reply => hnever (.create request) reply rfl⟩

/-- The pass that repeats the create when the longest wait is over. -/
def lateRepetition : Turn :=
  .simulated Simulation.answer
    (.ofDatabase (some "sales") firstCreate.stored false ⟨1700000900, 0⟩)
    (refusingRemote.carryOut firstCreate.pass.run).2

/-- A pass whose clock has gone back. -/
def earlyRepetition : Turn :=
  .simulated Simulation.answer
    (.ofDatabase (some "sales") lateRepetition.stored false ⟨1700000020, 0⟩)
    ((refusingRemote.carryOut firstCreate.pass.run).2.carryOut
      lateRepetition.pass.run).2

/-- A create that was refused for now is sent again long before the longest wait
is over, by a clock that has gone back behind a pass that found it to be
over. -/
theorem create_repeated_after_clock_went_back :
    Reaches {} [firstCreate, lateRepetition, earlyRepetition]
      earlyRepetition.stored
      ∧ (∀ turn ∈ [firstCreate, lateRepetition, earlyRepetition],
        turn.pass.resource.listFilter.displayName.isSome = true)
      ∧ (∃ (sent rest : List PassEvent) (request : ProvisionRequest)
        (reply : Reply Snapshot),
        firstCreate.trace = sent ++ .remote (.create request) reply :: rest
          ∧ firstCreate.pass.Unsettled reply rest)
      ∧ Instant.sinceClamped firstCreate.pass.now earlyRepetition.pass.now
        < firstCreate.pass.settings.maxWait
      ∧ ∃ (request : ProvisionRequest) (reply : Reply Snapshot),
        .remote (.create request) reply ∈ earlyRepetition.trace := by
  obtain ⟨marked, request, reply, after, htrace⟩ : ∃ marked request reply after,
    earlyRepetition.trace
      = [.saved marked, .remote (.create request) reply, .saved after] :=
        ⟨_, _, _, _, rfl⟩
  refine ⟨.cons rfl (.cons rfl (.cons rfl .start)), ?_,
    ⟨[_], _, _, _, rfl, .inr ⟨_, rfl, rfl⟩⟩, by decide, request, reply, ?_⟩
  · intro turn hturn
    simp only [List.mem_cons, List.not_mem_nil, or_false] at hturn
    rcases hturn with rfl | rfl | rfl <;> rfl
  · rw [htrace]
    simp

end DatabaseOperator
