import DatabaseOperator.Proofs.Pass.Reading
import DatabaseOperator.Proofs.Resemblance

/-!
# Actions that failed for good

An action that failed for good is not sent again. What the next pass goes by is
the signature on record: it refuses whatever looks the same, whether it is the
same or not. So a database whose creation was rejected is never created again,
however its attributes are corrected, while an update is blocked only if it
makes exactly the same changes.

- `Pass.walk_act_of_chooses`: what remains of a pass that has found an action to
  be needed.
- `Pass.failedAction_stored`, `Pass.identity_stored`: what is on record after an
  action that failed for good.
- `Turn.Needs`, `Turn.Refuses`, `Turn.GoesAhead`: a pass needs a call, and
  refuses it or goes ahead with it.
- `refuses_iff_alike`: when a pass refuses what it needs, after one whose action
  failed for good.
-/

namespace DatabaseOperator

namespace Pass

variable {p : Pass} {t t₁ t₂ : List PassEvent} {s : Status}
    {r : Except OperatorError Outcome} {action : CorrectiveAction}

/-- What remains of a pass that has found an action to be needed is to act on
it. -/
theorem walk_act_of_chooses (hdel : p.resource.deletionRequested = false)
    (h : p.run.Walk (t₁ ++ t₂) r) (needed : p.Chooses t₁ s (some action)) :
    (p.act s p.resource.status action).Walk t₂ r := by
  obtain ⟨seen, observed, hneeded, free⟩ := needed
  have hrest := walk_onward hdel h observed
  unfold onward at hrest
  simpa only [hneeded, free] using hrest

theorem failedAction_afterFailure {e : RemoteError}
    (permanent : e.errorClass = .permanent) (p : Pass) (s : Status)
    (action : CorrectiveAction) :
    (p.afterFailure s action e).1.failedAction = some action.signature := by
  unfold afterFailure
  simp only [permanent]
  rfl

/-- After an action that failed for good its signature is on record, unless the
store has refused a status. -/
theorem failedAction_stored {after : List PassEvent} {call : RemoteCall}
    {reply : Reply call.Answer} {e : RemoteError} {c : Credentials}
    (s₀ : Status) (sends : p.Sends t₁ s action)
    (credentials : (p.readCredentials action).Walk t₂ (.ok c))
    (ending : (p.sentEnding s action call reply).Walk after r)
    (rejected : p.outcomeOf reply = .error e)
    (permanent : e.errorClass = .permanent)
    (ht : t
      = (t₁ ++ t₂)
        ++ .saved (p.markDispatched s action) :: .remote call reply :: after) :
    (AllStored t → (storedAfter s₀ t).failedAction = some action.signature)
      ∧ (¬ AllStored t → (storedAfter s₀ t).failedAction = none) := by
  have hanswer : p.answerOf call reply = .error e := by
    unfold answerOf
    rw [rejected]
    rfl
  rcases storedAfter_sent_cases s₀ (sends.quiet_readCredentials credentials)
      ending ht with
    ⟨stored, hlast⟩ | ⟨refused, hlast⟩
  · refine ⟨fun _ => ?_, fun refused => absurd stored refused⟩
    rw [hlast, hanswer]
    exact failedAction_afterFailure permanent _ _ _
  · refine ⟨fun stored => absurd stored refused, fun _ => ?_⟩
    have hmarked :
        (p.markDispatched s action).failedAction = s.failedAction := rfl
    rw [hlast, hmarked, failedAction_of_sends sends]

/-- The object that an action was sent for stays on record, whatever becomes of
the action. -/
theorem identity_stored {before after : List PassEvent} {call : RemoteCall}
    {reply : Reply call.Answer} {id : String} (s₀ : Status)
    (quiet : ∀ e ∈ before, p.Quiet e)
    (ending : (p.sentEnding s action call reply).Walk after r)
    (ht : t
      = before
        ++ .saved (p.markDispatched s action) :: .remote call reply :: after)
    (known : s.identity = some id) : (storedAfter s₀ t).identity = some id := by
  have hmarked : (p.markDispatched s action).identity = some id := known
  rcases storedAfter_sent_cases s₀ quiet ending ht with ⟨-, hlast⟩ | ⟨-, hlast⟩
  · rw [hlast, (inherits_afterAnswer hmarked action _).1]
    exact hmarked
  · rw [hlast]
    exact hmarked

/-- What is chosen is chosen for the object on record, if there is one. -/
theorem Chooses.identity_eq {needed : Option CorrectiveAction} {id : String}
    (h : p.Chooses t s needed) (known : p.resource.status.identity = some id) :
    s.identity = some id := by
  obtain ⟨seen, observed, -, hkept⟩ := h.inherits
  exact hkept.1.trans
    ((inherits_of_walk_observeRemote known observed).1.trans known)

end Pass

/-! ## Passes that need a call -/

namespace Turn

/-- The pass has found that an action is needed, and would send it with this
call. -/
def Needs (turn : Turn) (call : RemoteCall) : Prop :=
  ∃ looked rest s action c, turn.trace = looked ++ rest
    ∧ turn.pass.Chooses looked s (some action)
    ∧ turn.pass.callOf s.identity action c = some call

/-- The pass refuses the call that it needs, since the action is on record as
one that failed for good. It reports the failure again and is over. -/
def Refuses (turn : Turn) (call : RemoteCall) : Prop :=
  ∃ looked rest s action c, turn.trace = looked ++ rest
    ∧ turn.pass.Chooses looked s (some action)
    ∧ turn.pass.callOf s.identity action c = some call
    ∧ s.failedAction = some action.signature
    ∧ (turn.pass.quits
      (Pass.declineFailed s) turn.pass.settings.resyncInterval).Walk rest
      turn.result

/-- The pass goes ahead with the call that it needs: the failure on record is
forgotten, and if the precondition of the action is met, what remains of the
pass is to send it. -/
def GoesAhead (turn : Turn) (call : RemoteCall) : Prop :=
  ∃ looked rest s action c, turn.trace = looked ++ rest
    ∧ turn.pass.Chooses looked s (some action)
    ∧ turn.pass.callOf s.identity action c = some call
    ∧ (Pass.check (turn.pass.forgetFailed s) action = .met →
      (turn.pass.dispatch { turn.pass.forgetFailed s with waiting := none }
        turn.pass.resource.status action).Walk rest turn.result)

variable {turn : Turn} {call : RemoteCall}

/-- A pass that refuses what it needs sends nothing. -/
theorem Refuses.actionsSent (h : turn.Refuses call) :
    turn.pass.actionsSent turn.trace = [] := by
  obtain ⟨looked, rest, s, action, c, ht, needed, -, -, ending⟩ := h
  rw [ht, Pass.actionsSent_append,
    Pass.actionsSent_of_quiet (Pass.quiet_of_chooses needed),
    (Pass.ending_of_walk_finish ending).actionsSent]
  rfl

variable {looked rest : List PassEvent} {s : Status} {action : CorrectiveAction}
    {c : Pass.Credentials}

/-- An action that is on record as one that failed for good is refused. -/
theorem refuses_of_failed (stays : turn.pass.resource.deletionRequested = false)
    (ht : turn.trace = looked ++ rest)
    (chooses : turn.pass.Chooses looked s (some action))
    (target : turn.pass.callOf s.identity action c = some call)
    (failed : s.failedAction = some action.signature) : turn.Refuses call := by
  have hwalk := turn.walk
  rw [ht] at hwalk
  have hact := Pass.walk_act_of_chooses stays hwalk chooses
  unfold Pass.act at hact
  rw [if_pos failed] at hact
  exact ⟨looked, rest, s, action, c, ht, chooses, target, failed, hact⟩

/-- With any other action the pass goes ahead. -/
theorem goesAhead_of_fresh
    (stays : turn.pass.resource.deletionRequested = false)
    (ht : turn.trace = looked ++ rest)
    (chooses : turn.pass.Chooses looked s (some action))
    (target : turn.pass.callOf s.identity action c = some call)
    (fresh : s.failedAction ≠ some action.signature) : turn.GoesAhead call := by
  have hwalk := turn.walk
  rw [ht] at hwalk
  have hact := Pass.walk_act_of_chooses stays hwalk chooses
  unfold Pass.act at hact
  rw [if_neg fresh] at hact
  refine ⟨looked, rest, s, action, c, ht, chooses, target, fun hmet => ?_⟩
  unfold Pass.check at hmet
  simpa only [hmet] using hact

end Turn

/-- **What a permanent failure blocks.** After a pass whose call failed for
good, a pass that needs a call refuses it exactly if that call is alike to the
one that failed and the failure was stored. In any other case it goes ahead. -/
theorem refuses_iff_alike {first next : Turn} {before after : List PassEvent}
    {call needed : RemoteCall} {reply : Reply call.Answer}
    {failed : CorrectiveAction} {e : RemoteError}
    (staying : first.pass.resource.deletionRequested = false)
    (sent : first.trace = before ++ .remote call reply :: after)
    (acts : first.pass.sentBy (.remote call reply) = some failed)
    (rejected : first.pass.outcomeOf reply = .error e)
    (permanent : e.errorClass = .permanent)
    (begins : next.pass.resource.status = first.stored)
    (stays : next.pass.resource.deletionRequested = false)
    (needs : next.Needs needed) :
    (next.Refuses needed ↔ Pass.AllStored first.trace ∧ call.Alike needed)
      ∧ (¬ (Pass.AllStored first.trace ∧ call.Alike needed) →
        next.GoesAhead needed) := by
  obtain ⟨looked, read, s, chosen, c, call', reply', hbefore, he, sends,
      credentials, target, ending⟩ :=
    (Pass.course_of_walk staying first.walk).sends_of_sentBy sent acts
  cases he
  have hchosen : chosen.IsUpkeep := by
    obtain ⟨_, chooses, -⟩ := sends
    exact chooses.isUpkeep staying
  have htrace : first.trace
      = (looked ++ read)
        ++ .saved (first.pass.markDispatched s chosen) :: .remote call reply
          :: after := by
    rw [sent, hbefore, List.append_assoc]
    rfl
  obtain ⟨hrecorded, hunrecorded⟩ :=
    Pass.failedAction_stored first.pass.resource.status sends credentials ending
      rejected permanent htrace
  -- whatever the pass chooses, it goes by the failure that is on record when it
  -- begins
  have hblocked :
      ∀ {looked s action c}, next.pass.Chooses looked s (some action) →
        next.pass.callOf s.identity action c = some needed →
        (s.failedAction = some action.signature
          ↔ Pass.AllStored first.trace ∧ call.Alike needed) := by
    intro looked' s' action c' chooses target'
    have hfailed : s'.failedAction = first.stored.failedAction := by
      rw [Status.failedAction_eq_of_verdicts chooses.verdicts, begins]
    have hknown : ∀ id, s.identity = some id → s'.identity = some id := by
      intro id hid
      apply chooses.identity_eq
      rw [begins]
      exact Pass.identity_stored first.pass.resource.status
        (sends.quiet_readCredentials credentials) ending htrace hid
    rw [hfailed,
      Pass.alike_iff_of_callOf hchosen (chooses.isUpkeep stays) target
        target' hknown]
    by_cases stored : Pass.AllStored first.trace
    · rw [Turn.stored, hrecorded stored, Option.some.injEq,
        and_iff_right stored]
    · rw [Turn.stored, hunrecorded stored]
      simp [stored]
  obtain ⟨looked', rest, s', action, c', ht, chooses, target'⟩ := needs
  refine ⟨⟨?_, fun hsame => ?_⟩, fun hother => ?_⟩
  · rintro ⟨_, _, _, _, _, -, chooses, target, hfailed, -⟩
    exact (hblocked chooses target).mp hfailed
  · exact Turn.refuses_of_failed stays ht chooses target'
      ((hblocked chooses target').mpr hsame)
  · refine Turn.goesAhead_of_fresh stays ht chooses target' fun hfailed => ?_
    exact hother ((hblocked chooses target').mp hfailed)

/-! ## Passes that can be carried out -/

/-- A pass over a database that is declared with a number of cores. -/
def Pass.ofSized (cores : Int32) (status : Status) (now : Instant) : Pass :=
  let plain := Pass.ofDatabase (some "sales") status false now
  { plain with
    resource :=
      { plain.resource with
        desiredAttributes := { cpuCoreCount := some cores }
        provisioningAttributes :=
          { displayName := some "sales", cpuCoreCount := some cores } } }

/-- A remote that rejects the next call of a name, whatever it asks for. -/
def rejectingRemote (name : String) (objects : List Snapshot) : Simulation :=
  { remote :=
      { objects := .ofList (objects.map fun object => (object.id, object))
        failures := .ofList [(name, [some (.permanent "quota exceeded")])] } }

/-- A database with one core. -/
def smallDatabase : Snapshot :=
  { id := "ocid1.adb.1", state := .available,
    attributes := { displayName := some "sales", cpuCoreCount := some 1 } }

/-- A pass whose update is rejected: two cores are too many. -/
def rejectedUpdate : Turn :=
  .simulated Simulation.answer
    (.ofSized 2 { identity := some "ocid1.adb.1" } ⟨1700000000, 0⟩)
    (rejectingRemote "update" [smallDatabase])

/-- The pass after it, over a spec that asks for three cores. -/
def nextUpdate : Turn :=
  .simulated Simulation.answer
    (.ofSized 3 rejectedUpdate.stored ⟨1700000060, 0⟩)
    ((rejectingRemote "update" [smallDatabase]).carryOut
      rejectedUpdate.pass.run).2

/-- An update that was rejected does not block one that makes other changes. -/
theorem other_update_goes_ahead :
    ¬ nextUpdate.Refuses (.update "ocid1.adb.1" { cpuCoreCount := some 3 })
      ∧ nextUpdate.GoesAhead
        (.update "ocid1.adb.1" { cpuCoreCount := some 3 }) := by
  obtain ⟨marked, failed, htrace⟩ : ∃ marked failed, rejectedUpdate.trace
      = [.remote (.get "ocid1.adb.1") (.answered smallDatabase), .saved marked]
        ++ .remote (.update "ocid1.adb.1" { cpuCoreCount := some 2 })
          (.failed (.permanent "quota exceeded"))
          :: [.saved failed] := ⟨_, _, rfl⟩
  obtain ⟨rest, hnext⟩ : ∃ rest, nextUpdate.trace
      = [.remote (.get "ocid1.adb.1") (.answered smallDatabase)] ++ rest :=
        ⟨_, rfl⟩
  have hneeds :
      nextUpdate.Needs (.update "ocid1.adb.1" { cpuCoreCount := some 3 }) :=
    ⟨_, rest, _, .updateAttributes { cpuCoreCount := some 3 }, {}, hnext,
      ⟨_, .ask _ (.done _), rfl, rfl⟩, rfl⟩
  obtain ⟨hrefuses, hahead⟩ :=
    refuses_iff_alike rfl htrace rfl rfl rfl rfl rfl hneeds
  have hother : ¬ (Pass.AllStored rejectedUpdate.trace
      ∧ (RemoteCall.update "ocid1.adb.1" { cpuCoreCount := some 2 }).Alike
        (.update "ocid1.adb.1" { cpuCoreCount := some 3 })) := by
    rintro ⟨-, alike⟩
    exact absurd (alike.changes_eq) (by decide)
  exact ⟨fun refuses => hother (hrefuses.mp refuses), hahead hother⟩

/-- A pass whose create is rejected: it asks for no cores. -/
def rejectedCreate : Turn :=
  .simulated Simulation.answer (.ofSized 0 {} ⟨1700000000, 0⟩)
    (rejectingRemote "create" [])

/-- The pass after it, over a spec that asks for two cores. -/
def correctedCreate : Turn :=
  .simulated Simulation.answer
    (.ofSized 2 rejectedCreate.stored ⟨1700000060, 0⟩)
    ((rejectingRemote "create" []).carryOut rejectedCreate.pass.run).2

/-- A database whose creation was rejected is not created after its spec was
corrected. -/
theorem corrected_create_refused :
    ∃ request corrected : ProvisionRequest,
      request.attributes.cpuCoreCount = some 0
        ∧ corrected.attributes.cpuCoreCount = some 2
        ∧ .remote (.create request) (.failed (.permanent "quota exceeded"))
          ∈ rejectedCreate.trace
        ∧ correctedCreate.pass.resource.status = rejectedCreate.stored
        ∧ correctedCreate.Refuses (.create corrected)
        ∧ correctedCreate.pass.actionsSent correctedCreate.trace = [] := by
  obtain ⟨marked, failed, htrace⟩ : ∃ marked failed, rejectedCreate.trace
      = [.saved marked]
        ++ .remote (.create (rejectedCreate.pass.provisionRequest {}))
          (.failed (.permanent "quota exceeded")) :: [.saved failed] :=
            ⟨_, _, rfl⟩
  have hnext : correctedCreate.trace = [] ++ correctedCreate.trace := rfl
  have hchooses : correctedCreate.pass.Chooses
      [] correctedCreate.pass.initialStatus (some .provision) :=
    ⟨_, .done _, rfl, rfl⟩
  have hrefuses : correctedCreate.Refuses
      (.create (correctedCreate.pass.provisionRequest {})) :=
    Turn.refuses_of_failed rfl hnext hchooses rfl rfl
  refine ⟨rejectedCreate.pass.provisionRequest {},
    correctedCreate.pass.provisionRequest {}, rfl, rfl, ?_, rfl, hrefuses,
    hrefuses.actionsSent⟩
  rw [htrace]
  simp

end DatabaseOperator
