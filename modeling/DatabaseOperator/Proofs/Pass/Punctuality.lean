import DatabaseOperator.Proofs.Pass.Patience
import DatabaseOperator.Proofs.Pass.Requeue
import DatabaseOperator.Proofs.Time.Parts

/-!
# Marks hold back for the longest wait, to the nanosecond

A mark is set with the reading of a clock, and weighed against the reading of
another one. The text between them loses nothing, so the five points at which a
pass goes by the age of a mark open when the second clock shows the longest wait
after the first, and not before.

- `Config.maxWait_pos`: the longest wait of a configuration is not zero.
- `Pass.holdsBack_pending_iff`: when a mark that was set by another pass holds
  back.
- `Pass.opens_on_time`: what its text says, how old it is, and when the pass
  goes on.
-/

namespace DatabaseOperator

/-- The longest wait of a configuration that is accepted is not zero. -/
theorem Config.maxWait_pos {lookup : String → Option String} {c : Config}
    (h : ofLookup lookup = .ok c) : Duration.zero < c.maxWait := by
  unfold ofLookup at h
  simp only [bind, Except.bind] at h
  split at h
  next => cases h
  split at h
  next => cases h
  split at h
  next => cases h
  split at h
  next => cases h
  next hlongest =>
    split at h
    next => cases h
    split at h
    next => cases h
    unfold consistent at h
    split at h
    next => cases h
    next =>
      cases h
      exact pos_of_seconds hlongest (by decide)

namespace Pass

variable {p q : Pass} {signature : String} {t : List PassEvent}
    {r : Except OperatorError Outcome}

/-- A mark that another pass has set holds back as long as the clock does not
show the longest wait after it. -/
theorem holdsBack_pending_iff (weighs : p.Weighs (q.pending signature) t)
    (positive : Duration.zero < p.settings.maxWait) (year : q.now.HasShortYear)
    (plain : q.now.inLeapSecond = false) (plain' : p.now.inLeapSecond = false) :
    p.HoldsBack (q.pending signature) t
      ↔ p.now.sinceEpoch < q.now.sinceEpoch + p.settings.maxWait.nanos :=
  (and_iff_right weighs).trans
    (Instant.age_timestamp_lt_iff year plain plain' positive)

/-- **Marks are weighed to the nanosecond.** For every instant of the years 0 to
9999 and every clock

1. the timestamp of the instant consists of its date in the calendar, its time
   of day and its fraction of a second, with none, three, six or nine digits as
   few as can be, and of the offset `+00:00`;
2. it is read as that very instant, be it in a leap second or not; and
3. its age is the time from the instant to the clock, and nothing if the clock
   is behind. In no leap second, and clocks show none, this is the difference
   between the two readings.

A pass weighs a mark which a pass at that instant has set, by a clock in no leap
second and a longest wait that is not zero, as those of all configurations are.
Then the mark

4. holds back exactly as long as the clock shows less than the longest wait
   after the instant;
5. is left as it was by a pass that it holds back, and nothing is sent; and
6. lets every other pass go on. -/
theorem opens_on_time {since : Instant} (year : since.HasShortYear)
    (now : Instant) :
    (∃ parts : Instant.Parts, since.timestamp = parts.text ∧ parts.Name since)
      ∧ Instant.ofTimestamp? since.timestamp = some since
      ∧ Instant.age since.timestamp now = Instant.sinceClamped since now
      ∧ (∀ {lookup c}, Config.ofLookup lookup = .ok c →
        Duration.zero < (Settings.ofConfig c).maxWait)
      ∧ (since.inLeapSecond = false → now.inLeapSecond = false →
        (since.sinceEpoch ≤ now.sinceEpoch →
          ((Instant.age since.timestamp now).nanos : Int)
            = now.sinceEpoch - since.sinceEpoch)
          ∧ (now.sinceEpoch < since.sinceEpoch →
            Instant.age since.timestamp now = Duration.zero)
          ∧ ∀ {p q : Pass} {signature t r}, q.now = since → p.now = now →
            p.Weighs (q.pending signature) t → p.run.Walk t r →
              Duration.zero < p.settings.maxWait →
              (p.HoldsBack (q.pending signature) t
                ↔ now.sinceEpoch < since.sinceEpoch + p.settings.maxWait.nanos)
                ∧ (p.HoldsBack (q.pending signature) t →
                  p.actionsSent t = []
                    ∧ ∀ o, r = .ok o →
                      o.status.inFlight = some (q.pending signature)
                        ∨ o.status.waiting = some (q.pending signature))
                ∧ (¬ p.HoldsBack (q.pending signature) t →
                  p.MovesOn (q.pending signature) t r)) := by
  refine ⟨Instant.exists_parts year, Instant.ofTimestamp?_timestamp year,
    Instant.age_timestamp year now, fun accepted => Config.maxWait_pos accepted,
    fun plain plain' => ?_⟩
  have hage := Instant.nanos_age_timestamp year plain plain'
  refine ⟨fun past => ?_, fun ahead => ?_, ?_⟩
  · rw [hage]
    omega
  · cases hzero : Instant.age since.timestamp now with
    | mk nanos =>
      rw [hzero] at hage
      have hnanos : nanos = 0 := by
        change nanos = _ at hage
        omega
      rw [hnanos]
      rfl
  · rintro p q signature t r rfl rfl weighs walk positive
    have hiff := holdsBack_pending_iff weighs positive year plain plain'
    refine ⟨hiff, fun holds => ?_, fun passed => ?_⟩
    · obtain ⟨s, quits, hmark⟩ := holds.quits walk
      refine ⟨quits.idle, ?_⟩
      rintro o rfl
      rwa [quits.status_eq]
    · have hold : ¬ Instant.age (q.pending signature).since p.now
          < p.settings.maxWait := fun young =>
        passed ⟨weighs, young⟩
      exact weighs.movesOn hold walk

/-- A pass half a second before 1970 that sends an update. -/
def earlyTurn : Turn :=
  updatingTurn { identity := some "ocid1.adb.1" } ⟨-1, 500000000⟩

/-- A pass over the status that it leaves. -/
def nextTurn (now : Instant) : Turn :=
  updatingTurn earlyTurn.stored now

/-- The mark that it leaves. -/
def earlyMark : PendingAction :=
  earlyTurn.pass.pending
    (CorrectiveAction.updateAttributes { cpuCoreCount := some 2 }).signature

/-- An update that was sent before 1970 is held back by its mark one nanosecond
before the longest wait is over, and is chosen again when it is. -/
theorem early_mark_over_on_time :
    earlyMark.since = "1969-12-31T23:59:59.500+00:00"
      ∧ (nextTurn ⟨899, 499999999⟩).pass.HoldsBack earlyMark
        (nextTurn ⟨899, 499999999⟩).trace
      ∧ (nextTurn ⟨899, 499999999⟩).pass.actionsSent
        (nextTurn ⟨899, 499999999⟩).trace = []
      ∧ ¬ (nextTurn ⟨899, 500000000⟩).pass.HoldsBack earlyMark
        (nextTurn ⟨899, 500000000⟩).trace
      ∧ (nextTurn ⟨899, 500000000⟩).pass.MovesOn earlyMark
        (nextTurn ⟨899, 500000000⟩).trace
        (nextTurn ⟨899, 500000000⟩).result := by
  have hmarked : earlyTurn.stored.inFlight = some earlyMark := rfl
  have hweighs : ∀ now rest, (nextTurn now).trace
      = [.remote (.get "ocid1.adb.1") (.answered smallDatabase),
        .remote (.list { displayName := some "sales" })
          (.answered [smallDatabase])] ++ rest →
      (nextTurn now).pass.Weighs earlyMark (nextTurn now).trace := by
    intro now rest htrace
    exact .confirming rfl htrace (.ask _ (.ask _ (.done _))) hmarked rfl rfl
  have hyear : Instant.HasShortYear ⟨-1, 500000000⟩ := by decide
  obtain ⟨-, -, -, -, hbefore⟩ := opens_on_time hyear ⟨899, 499999999⟩
  obtain ⟨-, -, -, -, hafter⟩ := opens_on_time hyear ⟨899, 500000000⟩
  obtain ⟨hyoung, hheld, -⟩ :=
    (hbefore rfl rfl).2.2 rfl rfl (hweighs _ _ rfl)
    (nextTurn ⟨899, 499999999⟩).walk (by decide)
  obtain ⟨hold, -, hmoves⟩ :=
    (hafter rfl rfl).2.2 rfl rfl (hweighs _ _ rfl)
    (nextTurn ⟨899, 500000000⟩).walk (by decide)
  have hholds := hyoung.mpr (by decide)
  have hover := hold.not.mpr (by decide)
  exact ⟨by decide +kernel, hholds, (hheld hholds).1, hover, hmoves hover⟩

end Pass

end DatabaseOperator
