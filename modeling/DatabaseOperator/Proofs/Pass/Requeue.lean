import DatabaseOperator.Proofs.Pass.Driving
import DatabaseOperator.Proofs.Pass.Settling

/-!
# When the next pass is due

A pass that keeps the resource says when to look again. The delay is one of the
intervals of the settings, the delay that a number of failures calls for, or
what is left of a wait that has not reached its bound. Under settings that a
configuration allows none of these is zero, none is longer than the longest
interval, and nothing is ever taken from less than itself.

- `Pass.Delay`: where the delay of a pass can come from.
- `Pass.Schedules`, `Pass.schedules_of_walk`: a pass that succeeds lets the
  resource go, or ends with such a delay.
- `Settings.Sound`, `Pass.Delay.bounds`: the bounds of such a delay.
- `Config.sound_of_ofLookup`: the settings of a configuration that was accepted.
- `Pass.requeue_bounded`: all of it.
-/

namespace DatabaseOperator

namespace Pass

variable {p : Pass} {s s' : Status} {d : Duration} {t : List PassEvent}
    {r : Except OperatorError Outcome} {o : Outcome}

/-! ## Where delays come from -/

/-- The delays that a pass can end with. The only one that is a difference takes
the time that something has been waited for from the bound of the wait, and
there is less of the former. -/
inductive Delay (p : Pass) : Duration → Prop where
  | poll : Delay p p.settings.pollInterval
  | resync : Delay p p.settings.resyncInterval
  | conflict : Delay p p.settings.conflictRequeue
  | longest : Delay p p.settings.backoff.maxDelay
  | failures (n : UInt32) : Delay p (p.settings.backoff.delayForFailures n)
  | rest {waited : Duration} (young : waited < p.settings.maxWait) :
      Delay p (min p.settings.pollInterval (p.settings.maxWait - waited))

/-- A stage that ends the pass ends it with such a delay. -/
def Step.DueBy (p : Pass) : Step → Prop
  | .proceed _ => True
  | .stop _ requeue => p.Delay requeue

/-! ## Observing -/

theorem dueBy_afterReadError (p : Pass) (s : Status) (e : RemoteError) :
    (p.afterReadError s e).DueBy p := by
  unfold afterReadError
  cases e.errorClass with
  | transient => exact .failures _
  | conflict => exact .conflict
  | permanent => exact .longest

theorem dueBy_afterMismatch (p : Pass) (s : Status)
    (direct : Option LifecycleState) (listed : Snapshot) :
    (p.afterMismatch s direct listed).DueBy p := by
  unfold afterMismatch
  simp only
  split
  next => exact .conflict
  next => exact .failures _

theorem dueBy_afterMissing (p : Pass) (s : Status) :
    (p.afterMissing s).DueBy p := by
  unfold afterMissing
  split
  next => exact .poll
  next =>
    split
    next => trivial
    next =>
      split
      next => trivial
      next => exact .resync

theorem dueBy_mergeReads (p : Pass) (s : Status)
    (direct : Except RemoteError Snapshot) (listed : Option Snapshot) :
    (p.mergeReads s direct listed).DueBy p := by
  unfold mergeReads
  split
  next =>
    split
    next => trivial
    next => exact dueBy_afterMismatch ..
  next => trivial
  next =>
    split
    next => exact dueBy_afterMismatch ..
    next => trivial
  next =>
    split
    next => exact dueBy_afterMissing ..
    next => exact dueBy_afterReadError ..

theorem dueBy_awaitCreated (p : Pass) (s : Status) (pending : PendingAction) :
    (p.awaitCreated s pending).DueBy p := by
  unfold awaitCreated
  simp only
  split
  next young => exact .rest young
  next => trivial

theorem Recovery.dueBy {step : Step} (h : p.Recovery s t step) :
    step.DueBy p := by
  cases h with
  | unmarked | irrelevant | repeatable | adopted => trivial
  | blind | unseen => exact dueBy_awaitCreated ..

theorem dueBy_of_walk_observeRemote {step : Step}
    (h : (p.observeRemote s).Walk t step) : step.DueBy p := by
  cases hid : s.identity with
  | none => exact ((walk_observeRemote_of_none hid).mp h).dueBy
  | some id =>
    obtain ⟨direct, ⟨-, -, rfl⟩ | ⟨-, reply, -, rfl⟩⟩ :=
      walk_refresh_iff.mp ((walk_observeRemote_of_some hid).mp h)
    · exact dueBy_mergeReads ..
    · exact dueBy_mergeReads ..

theorem dueBy_of_walk_identify {step : Step} (h : (p.identify s).Walk t step) :
    step.DueBy p := by
  cases hid : s.identity with
  | some id =>
    obtain ⟨-, rfl⟩ := (walk_identify_of_some (by simp [hid])).mp h
    trivial
  | none => exact ((walk_identify_of_none hid).mp h).dueBy

/-! ## Holding back -/

theorem dueBy_trackInFlight (p : Pass) (s : Status)
    (action : Option CorrectiveAction) :
    (p.trackInFlight s action).DueBy p := by
  unfold trackInFlight
  split
  next => trivial
  next =>
    split
    next =>
      simp only
      split
      next young => exact .rest young
      next => trivial
    next => split <;> trivial

theorem delay_waitFor (p : Pass) (s : Status) (action : CorrectiveAction)
    (expected : StateRule) : p.Delay (p.waitFor s action expected).2 := by
  unfold waitFor decideWait
  simp only
  split
  next hdecision =>
    split at hdecision
    next => cases hdecision
    next old =>
      -- a wait that has not run out has lasted for less than the bound
      cases hdecision
      exact .rest (Nat.lt_of_not_le old)
  next => exact .failures _

/-! ## Ending -/

theorem delay_afterAnswer (p : Pass) (s : Status) (action : CorrectiveAction)
    (answer : Except RemoteError (Option Snapshot)) :
    p.Delay (p.afterAnswer s action answer).2 := by
  cases answer with
  | ok found => exact .poll
  | error e =>
    unfold afterAnswer afterFailure
    simp only
    cases e.errorClass with
    | transient => exact .failures _
    | conflict => exact .conflict
    | permanent => exact .resync

theorem dueBy_reportState (p : Pass) (s : Status) (state : LifecycleState) :
    (p.reportState s state).DueBy p := by
  unfold reportState
  simp only
  repeat' split
  all_goals first | exact .resync | exact .poll | trivial

theorem Settles.delay {status : Status} (h : p.Settles s t (status, d)) :
    p.Delay d := by
  cases h with
  | unseen => exact .resync
  | @reported state _ _ seen reported =>
    have hdue := dueBy_reportState p s state
    rwa [reported] at hdue
  | pending => exact .failures _
  | equipped | plain => exact .resync

theorem delay_afterDeleteFailure (p : Pass) (s : Status) (e : RemoteError) :
    p.Delay (p.afterDeleteFailure s e).2 := by
  unfold afterDeleteFailure
  cases e.errorClass with
  | transient => exact .failures _
  | conflict => exact .conflict
  | permanent => exact .longest

theorem delay_of_awaitTeardown {id : String} {observed : Option LifecycleState}
    (h : p.deletionStep s id observed = .awaitTeardown d) : p.Delay d := by
  unfold deletionStep nextDeletionStep at h
  cases observed with
  | none => simp at h
  | some state =>
    simp only [Bool.not_true, Option.isNone_some, Bool.or_self,
      Bool.false_eq_true, ↓reduceIte] at h
    split at h
    next => cases h
    next =>
      split at h
      next => cases h
      next =>
        split at h
        next young =>
          cases h
          exact .rest young
        next => cases h

/-! ## Whole passes -/

/-- A pass that succeeds lets the resource go and asks for no other pass, or
keeps it and ends with a delay. -/
def Schedules (p : Pass) (r : Except OperatorError Outcome) : Prop :=
  ∀ o, r = .ok o →
    (o.finalized = true ∧ o.requeue = none)
      ∨ (o.finalized = false ∧ ∃ d, p.Delay d ∧ o.requeue = some d)

theorem schedules_of_walk_finish {g : Progress} (hdelay : p.Delay d)
    (h : (finish g d).Walk t r) : p.Schedules r := by
  rintro o rfl
  rw [ended_of_walk_finish h]
  exact .inr ⟨rfl, d, hdelay, rfl⟩

theorem schedules_of_walk_release {g : Progress} (h : (release g).Walk t r) :
    p.Schedules r := by
  rintro o rfl
  obtain ⟨answer, -, hr⟩ := walk_release_iff.mp h
  cases answer with
  | ok _ =>
    cases hr
    exact .inl ⟨rfl, rfl⟩
  | error e => cases hr

theorem Course.schedules (h : p.Course t r) : p.Schedules r := by
  cases h with
  | stopped observed ending =>
    exact schedules_of_walk_finish (dueBy_of_walk_observeRemote observed) ending
  | @held _ _ seen _ _ _ observed held ending =>
    have hdue := dueBy_trackInFlight p seen (p.resource.nextAction? seen)
    rw [held] at hdue
    exact schedules_of_walk_finish hdue ending
  | settled chosen settling ending =>
    exact schedules_of_walk_finish (settles_of_walk settling).delay ending
  | declined chosen failed ending | illegal chosen fresh noRule ending =>
    exact schedules_of_walk_finish .resync ending
  | waited chosen fresh unmet ending =>
    exact schedules_of_walk_finish (delay_waitFor ..) ending
  | uncredited sends credentials ending =>
    exact schedules_of_walk_finish (.failures _) ending
  | unmarked => simp [Schedules]
  | sent sends credentials target ending =>
    exact schedules_of_walk_finish (delay_afterAnswer ..) ending

theorem ObjectTeardown.schedules {known : Status} {id : String}
    (h : p.ObjectTeardown known id t r) : p.Schedules r := by
  cases h with
  | @unread _ _ _ e _ _ located failed ending =>
    have hdue := dueBy_afterReadError p known e
    rw [failed] at hdue
    exact schedules_of_walk_finish hdue ending
  | gone located step ending => exact schedules_of_walk_release ending
  | given located step ending =>
    exact schedules_of_walk_finish (delay_of_awaitTeardown step) ending
  | unmarked => simp [Schedules]
  | deleted located step ending => exact schedules_of_walk_finish .poll ending
  | vanished located step absent ending =>
    exact schedules_of_walk_release ending
  | kept located step failed present ending =>
    exact schedules_of_walk_finish (delay_afterDeleteFailure ..) ending

theorem Teardown.schedules (h : p.Teardown t r) : p.Schedules r := by
  cases h with
  | detached soft ending => exact schedules_of_walk_release ending
  | awaited hard identified ending =>
    exact schedules_of_walk_finish (dueBy_of_walk_identify identified) ending
  | objectless hard identified unknown ending =>
    exact schedules_of_walk_release ending
  | known hard knows teardown => exact teardown.schedules

theorem schedules_of_walk (h : p.run.Walk t r) : p.Schedules r := by
  cases hdel : p.resource.deletionRequested with
  | false => exact (course_of_walk hdel h).schedules
  | true => exact (teardown_of_walk hdel h).schedules

end Pass

/-! ## Bounds -/

namespace Settings

/-- The longest of the intervals between two looks at a resource. -/
def longestDelay (s : Settings) : Duration :=
  ⟨max (max s.resyncInterval.nanos s.pollInterval.nanos)
    (max s.conflictRequeue.nanos s.backoff.maxDelay.nanos)⟩

/-- No interval is zero, and a failure is never waited for longer than the
backoff allows. -/
structure Sound (s : Settings) : Prop where
  poll : Duration.zero < s.pollInterval
  resync : Duration.zero < s.resyncInterval
  conflict : Duration.zero < s.conflictRequeue
  failures : ∀ n, Duration.zero < s.backoff.delayForFailures n
    ∧ s.backoff.delayForFailures n ≤ s.backoff.maxDelay

end Settings

/-- Under sound settings no delay is zero or longer than the longest
interval. -/
theorem Pass.Delay.bounds {p : Pass} {d : Duration} (h : p.Delay d)
    (sound : p.settings.Sound) :
    Duration.zero < d ∧ d ≤ p.settings.longestDelay := by
  obtain ⟨hpoll, hresync, hconflict, hfailures⟩ := sound
  simp only [Duration.lt_iff, Duration.le_iff, Settings.longestDelay] at *
  cases h with
  | poll | resync | conflict => omega
  | longest =>
    have hfirst := hfailures 0
    omega
  | failures n =>
    have hn := hfailures n
    omega
  | @rest waited young =>
    rw [Duration.lt_iff] at young
    rw [Duration.nanos_min, Duration.nanos_sub, show Duration.zero.nanos = 0
      from rfl] at *
    omega

namespace Config

variable {lookup : String → Option String} {name : String}
    {default d : Duration} {c : Config}

/-- A number of seconds that is accepted is positive. -/
theorem pos_of_seconds (h : seconds lookup name default = .ok d)
    (hdefault : Duration.zero < default) : Duration.zero < d := by
  unfold seconds at h
  split at h
  next =>
    cases h
    exact hdefault
  next value _ =>
    split at h
    next n hn =>
      cases h
      have hpos : 0 < n := by
        unfold positive? at hn
        split at hn
        next => grind
        next => cases hn
      rw [Duration.lt_iff]
      simp only [Duration.zero, Duration.ofSeconds]
      omega
    next => cases h

/-- A configuration that is accepted has no interval of zero, so its settings
are sound with every backoff that keeps its own bounds. -/
theorem sound_of_ofLookup {b : Backoff} (h : ofLookup lookup = .ok c)
    (hb : ∀ n, Duration.zero < b.delayForFailures n
      ∧ b.delayForFailures n ≤ b.maxDelay) :
    { Settings.ofConfig c with backoff := b }.Sound := by
  unfold ofLookup at h
  simp only [bind, Except.bind] at h
  split at h
  next => cases h
  split at h
  next => cases h
  next hresync =>
    split at h
    next => cases h
    next hpoll =>
      split at h
      next => cases h
      split at h
      next => cases h
      next hconflict =>
        split at h
        next => cases h
        unfold consistent at h
        split at h
        next => cases h
        cases h
        exact ⟨pos_of_seconds hpoll (by decide),
          pos_of_seconds hresync (by decide),
          pos_of_seconds hconflict (by decide), hb⟩

end Config

namespace Pass

/-- **The next pass is due in time.** Under the settings of a configuration that
is accepted, with a backoff whose delays are positive and bounded, every pass
that succeeds

1. asks for no other pass exactly if it has let the resource go;
2. asks for one otherwise, after a delay that is neither zero nor longer than
   the longest interval;
3. has taken this delay from the settings as it is, or as what is left of the
   longest wait after less than that. -/
theorem requeue_bounded {lookup : String → Option String} {c : Config}
    {b : Backoff} {p : Pass} {t : List PassEvent} {o : Outcome}
    (accepted : Config.ofLookup lookup = .ok c)
    (settings : p.settings = { Settings.ofConfig c with backoff := b })
    (bounded : ∀ n, Duration.zero < b.delayForFailures n
      ∧ b.delayForFailures n ≤ b.maxDelay)
    (walk : p.run.Walk t (.ok o)) :
    (o.requeue = none ↔ .store .releaseFinalizer (.ok ()) ∈ t)
      ∧ ∀ d, o.requeue = some d →
        Duration.zero < d
          ∧ d.nanos
            ≤ max (max c.resyncInterval.nanos c.pollInterval.nanos)
              (max c.conflictRequeue.nanos b.maxDelay.nanos)
          ∧ p.Delay d := by
  have hreleased :
      .store .releaseFinalizer (.ok ()) ∈ t ↔ o.finalized = true := by
    rw [(accounts_of_walk walk).released_iff]
    simp
  rw [hreleased]
  rcases schedules_of_walk walk o rfl with ⟨final, hnone⟩
    | ⟨kept, d, hdelay, hsome⟩
  · simp [final, hnone]
  · refine ⟨by simp [kept, hsome], fun d' hd' => ?_⟩
    obtain rfl : d = d' := Option.some.inj (hsome.symm.trans hd')
    have hbounds :=
      hdelay.bounds
        (by rw [settings]; exact Config.sound_of_ofLookup accepted bounded)
    rw [settings] at hbounds
    exact ⟨hbounds.1, hbounds.2, hdelay⟩

end Pass

/-! ## A jittered backoff -/

/-- Past the thirty-second attempt the delay stays, so that every delay is one
of the first thirty-three. -/
theorem Backoff.delayForFailures_eq (b : Backoff) (n : UInt32) :
    ∃ k ≤ 32, b.delayForFailures n = b.delayForAttempt (UInt32.ofNat k) := by
  have hsame : ∀ attempt : UInt32, b.delayForAttempt attempt
      = b.delayForAttempt (UInt32.ofNat (exponent attempt)) := by
    intro attempt
    have hexponent :
        exponent (UInt32.ofNat (exponent attempt)) = exponent attempt := by
      unfold exponent
      rw [UInt32.toNat_ofNat_of_lt' (by rw [UInt32.size]; omega)]
      omega
    unfold delayForAttempt secondsForAttempt
    rw [hexponent]
  exact ⟨_, Nat.min_le_right .., hsame _⟩

namespace Pass

/-- The first pass over a new database, under the settings of an empty
environment and with a backoff that is shortened by a random part. -/
def jitteredPass : Pass :=
  { firstPass with
    settings :=
      { Settings.ofConfig {} with backoff := { jitter := 0.1, draw := 0.25 } } }

/-- If the answer to its create is lost, the next pass is due after a little
less than five seconds. -/
theorem jitteredPass_requeue :
    ∃ o, (jitteredPass.run.interpret Simulation.answer losingRemote).1 = .ok o
      ∧ o.requeue = some (.ofParts 4 750000000) ∧ o.finalized = false
      ∧ Duration.ofParts 4 750000000 ≤ .ofSeconds 300
      ∧ jitteredPass.Delay (.ofParts 4 750000000) := by
  have hbounded :
      ∀ n, Duration.zero < jitteredPass.settings.backoff.delayForFailures n
        ∧ jitteredPass.settings.backoff.delayForFailures n
          ≤ jitteredPass.settings.backoff.maxDelay := by
    intro n
    obtain ⟨k, hk, hn⟩ := jitteredPass.settings.backoff.delayForFailures_eq n
    have hall : ∀ k ≤ 32, Duration.zero
      < jitteredPass.settings.backoff.delayForAttempt (UInt32.ofNat k)
        ∧ jitteredPass.settings.backoff.delayForAttempt (UInt32.ofNat k)
          ≤ jitteredPass.settings.backoff.maxDelay := by
      decide +kernel
    rw [hn]
    exact hall k hk
  have hwalk :=
    Program.walk_transcript Simulation.answer jitteredPass.run losingRemote
  obtain ⟨o, hr, hrequeue, hkept⟩ : ∃ o,
    (jitteredPass.run.interpret Simulation.answer losingRemote).1 = .ok o
      ∧ o.requeue = some (.ofParts 4 750000000) ∧ o.finalized = false := by
    have hok :
        ((jitteredPass.run.interpret Simulation.answer
          losingRemote).1.toOption.map
          fun o : Outcome => (o.requeue, o.finalized))
            = some (some (.ofParts 4 750000000), false) := by
      decide +kernel
    cases hr : (jitteredPass.run.interpret Simulation.answer losingRemote).1
      with
    | ok o =>
      rw [hr] at hok
      obtain ⟨hrequeue, hkept⟩ := Prod.mk.inj (Option.some.inj hok)
      exact ⟨o, rfl, hrequeue, hkept⟩
    | error e =>
      rw [hr] at hok
      cases hok
  rw [hr] at hwalk
  have accepted : Config.ofLookup (fun _ => none) = .ok {} := rfl
  obtain ⟨-, hdelay⟩ := requeue_bounded accepted rfl hbounded hwalk
  obtain ⟨-, -, hfrom⟩ := hdelay _ hrequeue
  exact ⟨o, hr, hrequeue, hkept, by decide, hfrom⟩

end Pass

end DatabaseOperator
