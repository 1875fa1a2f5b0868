import DatabaseOperator.Proofs.Pass.Disagreement
import DatabaseOperator.Proofs.Pass.Driving
import DatabaseOperator.Proofs.Pass.Recording
import DatabaseOperator.Proofs.Pass.Weighing

/-!
# Setbacks

A spec that is not valid is rejected, and a control plane that cannot be called
blocks the resource. Neither is a pass: the remote is not asked, and the status
says why, but holds on to what the passes have left in it. So what was sent is
not sent again because of a setback, in whatever order they come.

- `Setback`, `Pass.setback?`, `Pass.drive_eq`: what a drive meets with instead
  of a pass.
- `Status.holdings`: what a status holds on to.
- `Drive.trace_of_rejected`, `Drive.trace_of_blocked`, `Drive.trace_of_setback`:
  what one setback stores.
- `setbacks_stored`, `setbacks_keep_record`: what becomes of a status in a run
  of setbacks.
-/

namespace DatabaseOperator

/-- What is met with instead of a pass. -/
inductive Setback where
  /-- The spec is not valid. -/
  | rejected (fault : OperatorError)
  /-- The control plane cannot be called. -/
  | blocked (fault : OperatorError)

/-- The control plane cannot be called. -/
def Setback.isBlocked : Setback → Bool
  | rejected _ => false
  | blocked _ => true

namespace Status

/-- What a status holds on to in a setback: all of it but the phase, the
failures in a row, the generation and the conditions. -/
def holdings (s : Status) : Status :=
  { s with phase := .pending, consecutiveFailures := 0,
           observedGeneration := none, conditions := [] }

theorem holdings_report (report : Report) (stamp : Stamp) (s : Status) :
    (report.on stamp s).holdings = s.holdings := by
  show (report.on stamp s).facts.holdings = s.facts.holdings
  rw [Report.facts_on]

end Status

namespace Pass

variable {p : Pass} {setback : Setback}
    {validation connection : Except OperatorError Unit}

/-- The setback of a drive, unless it is a pass or lets the resource go. -/
def setback? (p : Pass) (validation connection : Except OperatorError Unit) :
    Option Setback :=
  match p.resource.deletionRequested, validation, connection with
  | false, .error fault, _ => some (.rejected fault)
  | _, _, .ok () => none
  | true, _, .error fault =>
    if p.resource.hardLink then some (.blocked fault) else none
  | false, .ok (), .error fault => some (.blocked fault)

/-- The status that tells of a setback. -/
def statusAfter (p : Pass) : Setback → Status
  | .rejected fault => p.rejectedStatus fault
  | .blocked fault => p.blockedStatus fault

/-- Without a setback the resource goes through a pass, or is let go if its
control plane cannot be called. -/
theorem drive_eq (p : Pass)
    (validation connection : Except OperatorError Unit) :
    p.drive validation connection = match p.setback? validation connection,
    connection with
      | some (.rejected fault), _ => p.reject fault
      | some (.blocked fault), _ => p.block fault
      | none, .ok () => p.run.bind fun result => .done (.passed result)
      | none, .error _ => detach := by
  unfold drive setback?
  cases p.resource.deletionRequested with
  | false => cases validation <;> cases connection <;> rfl
  | true =>
    cases connection with
    | ok => cases validation <;> rfl
    | error => cases validation <;> cases p.resource.hardLink <;> rfl

/-- A setback leaves the holdings as they are. -/
theorem holdings_statusAfter (p : Pass) (setback : Setback) :
    (p.statusAfter setback).holdings = p.resource.status.holdings := by
  cases setback with
  | rejected fault =>
    exact Status.holdings_report
      (.failed Reason.validationFailed fault.message) ..
  | blocked fault =>
    unfold statusAfter blockedStatus
    simp only
    split
    next =>
      exact Status.holdings_report
        (.retrying Reason.credentialsUnavailable fault.message) ..
    next =>
      exact Status.holdings_report
        (.failed Reason.credentialsUnavailable fault.message) ..

/-- Being blocked counts as a failure, being rejected does not. -/
theorem consecutiveFailures_statusAfter (p : Pass) (setback : Setback) :
    (p.statusAfter setback).consecutiveFailures
      = p.resource.status.consecutiveFailures + if setback.isBlocked then 1
        else 0 := by
  cases setback with
  | rejected => exact (UInt32.add_zero _).symm
  | blocked =>
    unfold statusAfter blockedStatus
    simp only
    split <;> rfl

end Pass

namespace Drive

variable {d e : Drive} {setback : Setback} {fault : OperatorError}

/-- The setback that a drive meets with. -/
def setback? (d : Drive) : Option Setback :=
  d.pass.setback? d.validation d.connection

/-- Every status that the drive saves is stored. -/
def SavesSucceed (d : Drive) : Prop :=
  ∀ status answer, .store (.saveStatus status) answer ∈ d.trace →
    answer = .ok ()

theorem savesSucceed_iff_all :
    (d.trace.all fun | ⟨.store (.saveStatus _), .error _⟩ => false | _ => true)
      = true ↔ d.SavesSucceed := by
  rw [List.all_eq_true]
  constructor
  · intro h status answer hmem
    cases answer with
    | ok => rfl
    | error fault => cases h _ hmem
  · intro h event hmem
    split
    next status fault => cases h status (.error fault) hmem
    next => rfl

instance : Decidable d.SavesSucceed :=
  decidable_of_iff _ savesSucceed_iff_all

/-- A spec that is rejected is told of once. -/
theorem trace_of_rejected (h : d.setback? = some (.rejected fault))
    (saves : d.SavesSucceed) :
    d.trace = if d.pass.rejectedStatus fault = d.pass.resource.status then []
      else [.saved (d.pass.rejectedStatus fault)] := by
  have walk := d.walk
  rw [Pass.drive_eq, show d.pass.setback? d.validation d.connection = _ from h]
    at walk
  unfold Pass.reject at walk
  simp only at walk
  split at walk
  next told =>
    rw [if_pos told]
    exact (Program.walk_done_iff.mp walk).1
  next untold =>
    obtain ⟨answer, htrace, -⟩ := Program.walk_ask_done_iff.mp walk
    have hsaved :=
      saves (d.pass.rejectedStatus fault) answer
        (htrace ▸ List.mem_singleton_self _)
    rw [if_neg untold, htrace, hsaved]

/-- A resource that is blocked is told of each time. -/
theorem trace_of_blocked (h : d.setback? = some (.blocked fault))
    (saves : d.SavesSucceed) :
    d.trace = [.saved (d.pass.blockedStatus fault)] := by
  have walk := d.walk
  rw [Pass.drive_eq, show d.pass.setback? d.validation d.connection = _ from h]
    at walk
  obtain ⟨answer, htrace, -⟩ := Program.walk_ask_done_iff.mp walk
  have hsaved :=
    saves (d.pass.blockedStatus fault) answer
      (htrace ▸ List.mem_singleton_self _)
  rw [htrace, hsaved]

/-- A setback saves the status that tells of it, if anything. -/
theorem trace_of_setback (h : d.setback? = some setback)
    (saves : d.SavesSucceed) :
    (d.trace = [] ∨ d.trace = [.saved (d.pass.statusAfter setback)])
      ∧ d.stored = d.pass.statusAfter setback := by
  cases setback with
  | rejected fault =>
    have htrace := trace_of_rejected h saves
    unfold stored
    split at htrace
    next told =>
      rw [htrace]
      exact ⟨.inl rfl, told.symm⟩
    next =>
      rw [htrace]
      exact ⟨.inr rfl, rfl⟩
  | blocked fault =>
    unfold stored
    rw [trace_of_blocked h saves]
    exact ⟨.inr rfl, rfl⟩

/-- A spec that is rejected again, for the same fault and in the same
generation, is not told of again. -/
theorem trace_of_rejected_again {fault' : OperatorError}
    (h : d.setback? = some (.rejected fault)) (saves : d.SavesSucceed)
    (begins : e.pass.resource.status = d.stored)
    (again : e.setback? = some (.rejected fault')) (saves' : e.SavesSucceed)
    (same : fault'.message = fault.message)
    (generation : e.pass.resource.generation = d.pass.resource.generation) :
    e.trace = [] := by
  have hstored : e.pass.resource.status = d.pass.rejectedStatus fault :=
    begins.trans (trace_of_setback h saves).2
  have hinitial : e.pass.initialStatus = d.pass.rejectedStatus fault := by
    unfold Pass.initialStatus
    rw [hstored, generation]
    rfl
  have hagain : e.pass.rejectedStatus fault' = e.pass.resource.status := by
    unfold Pass.rejectedStatus
    rw [hinitial, same, hstored]
    exact Status.reportFailed_again d.pass.initialStatus _ _ generation
  rw [trace_of_rejected again saves', if_pos hagain]

/-- A drive that exchanges nothing leaves the status as it is. -/
theorem stored_of_silent (d : Drive) (silent : d.trace = []) :
    d.stored = d.pass.resource.status := by
  unfold stored
  rw [silent]
  rfl

end Drive

/-- How many drives of a run are blocked. -/
def blockedDrives (drives : List Drive) : Nat :=
  drives.countP fun d => d.setback?.any Setback.isBlocked

/-- A run of setbacks leaves the holdings as they are, and counts the drives
that are blocked. -/
theorem setbacks_stored {s₀ s : Status} {drives : List Drive}
    (run : Drives s₀ drives s)
    (setbacks : ∀ d ∈ drives, d.setback?.isSome = true)
    (saves : ∀ d ∈ drives, d.SavesSucceed) :
    s.holdings = s₀.holdings
      ∧ (s₀.consecutiveFailures.toNat + blockedDrives drives < 4294967296 →
        s.consecutiveFailures.toNat
          = s₀.consecutiveFailures.toNat + blockedDrives drives) := by
  induction run with
  | start => exact ⟨rfl, fun _ => rfl⟩
  | @step past s d run begins ih =>
    have hlast :
        d ∈ past ++ [d] := List.mem_append_right _ (List.mem_singleton_self d)
    obtain ⟨hholdings, hfailures⟩ :=
      ih (fun e he => setbacks e (List.mem_append_left _ he))
        (fun e he => saves e (List.mem_append_left _ he))
    obtain ⟨setback, hsetback⟩ := Option.isSome_iff_exists.mp (setbacks d hlast)
    obtain ⟨-, hstored⟩ := Drive.trace_of_setback hsetback (saves d hlast)
    -- the last drive leaves the holdings that it begins with, and counts a
    -- failure if it is blocked
    refine ⟨?_, fun below => ?_⟩
    · rw [hstored, Pass.holdings_statusAfter, begins, hholdings]
    · have hcount : blockedDrives (past ++ [d])
          = blockedDrives past + if setback.isBlocked then 1 else 0 := by
        unfold blockedDrives
        rw [List.countP_append, List.countP_singleton, hsetback]
        rfl
      rw [hcount] at below ⊢
      have hpast := hfailures (by omega)
      rw [hstored, Pass.consecutiveFailures_statusAfter, begins]
      cases hkind : setback.isBlocked with
      | false =>
        rw [hkind] at below
        simp only [Bool.false_eq_true, ↓reduceIte, UInt32.add_zero,
          Nat.add_zero]
        exact hpast
      | true =>
        rw [hkind] at below
        simp only [↓reduceIte] at below ⊢
        rw [Pass.toNat_add_one (by omega), hpast]
        omega

/-- **Setbacks leave the record alone.** In every run of drives that are all
rejected or blocked and whose saves all succeed, whatever the specs and the
faults,

1. the remote is not called;
2. the status holds on to the object with its state and attributes, to the marks
   of what is under way and what is waited for, to the actions that were
   completed and that have failed, to the disagreements in a row, and to the
   Secret of the wallet;
3. so the same action is needed as before, and a create that was sent and has
   not shown its object holds the next pass back until the longest wait is over;
4. being rejected counts no failure, and being blocked exactly one, so that the
   failures in a row grow by the number of drives that are blocked; and
5. a spec that is rejected again, with the same words and in the same
   generation, is not told of again, unless something was exchanged in between.

The failures in a row are taken to stay below the limit of their counter. -/
theorem setbacks_keep_record {s₀ s : Status} {drives : List Drive}
    (run : Drives s₀ drives s)
    (setbacks : ∀ d ∈ drives, d.setback?.isSome = true)
    (saves : ∀ d ∈ drives, d.SavesSucceed) :
    (∀ d ∈ drives, ∀ (call : RemoteCall) (reply : Reply call.Answer),
      .remote call reply ∉ d.trace)
      ∧ (s.identity = s₀.identity ∧ s.lifecycleState = s₀.lifecycleState
        ∧ s.snapshot = s₀.snapshot
        ∧ s.inFlight = s₀.inFlight ∧ s.waiting = s₀.waiting
        ∧ s.lastCompletedAction = s₀.lastCompletedAction
        ∧ s.failedAction = s₀.failedAction
        ∧ s.consistencyRetries = s₀.consistencyRetries
        ∧ s.walletSecret = s₀.walletSecret)
      ∧ (∀ resource : ManagedResource,
        resource.nextAction? s = resource.nextAction? s₀)
      ∧ (∀ {p : Pass} {m : PendingAction} {t : List PassEvent}
          {r : Except OperatorError Pass.Outcome},
        p.resource.status = s → p.run.Walk t r → s₀.identity = none →
          s₀.inFlight = some m → isCreateSignature m.signature = true →
            (p.resource.deletionRequested = true →
              p.resource.hardLink = true) →
              p.Unshown (sights t) →
                Instant.age m.since p.now < p.settings.maxWait →
                  p.actionsSent t = [])
      ∧ (∀ d ∈ drives,
        (∀ fault, d.setback? = some (.rejected fault) →
          d.stored.consecutiveFailures
            = d.pass.resource.status.consecutiveFailures)
        ∧ ∀ fault, d.setback? = some (.blocked fault) →
          d.pass.resource.status.consecutiveFailures.toNat < 4294967295 →
          d.stored.consecutiveFailures.toNat
            = d.pass.resource.status.consecutiveFailures.toNat + 1)
      ∧ (s₀.consecutiveFailures.toNat + blockedDrives drives < 4294967296 →
        s.consecutiveFailures.toNat
          = s₀.consecutiveFailures.toNat + blockedDrives drives)
      ∧ ∀ before d between e after fault fault',
        drives = before ++ d :: (between ++ e :: after) →
          d.setback? = some (.rejected fault) →
            (∀ other ∈ between, other.trace = []) →
              e.setback? = some (.rejected fault') →
                fault'.message = fault.message →
                  e.pass.resource.generation = d.pass.resource.generation →
                    e.trace = [] := by
  obtain ⟨hholdings, hfailures⟩ := setbacks_stored run setbacks saves
  have hinFlight :
      s.inFlight = s₀.inFlight := (congrArg Status.inFlight hholdings :)
  have hidentity :
      s.identity = s₀.identity := (congrArg Status.identity hholdings :)
  refine ⟨?_, ?_, ?_, ?_, ?_, hfailures, ?_⟩
  · -- a drive of this kind tells of its setback, or does nothing
    intro d hd call reply hmem
    obtain ⟨setback, hsetback⟩ := Option.isSome_iff_exists.mp (setbacks d hd)
    rcases (Drive.trace_of_setback hsetback (saves d hd)).1 with htrace | htrace
    · rw [htrace] at hmem
      cases hmem
    · rw [htrace] at hmem
      cases List.mem_singleton.mp hmem
  · exact ⟨hidentity, (congrArg Status.lifecycleState hholdings :),
      (congrArg Status.snapshot hholdings :), hinFlight,
      (congrArg Status.waiting hholdings :),
      (congrArg Status.lastCompletedAction hholdings :),
      (congrArg Status.failedAction hholdings :),
      (congrArg Status.consistencyRetries hholdings :),
      (congrArg Status.walletSecret hholdings :)⟩
  · intro resource
    exact ManagedResource.nextAction?_eq_of_grounds
      (congrArg Status.grounds hholdings :)
  · rintro p m t r rfl walk unknown marked create attends unshown young
    obtain ⟨s', quits, -, -⟩ :=
      Pass.quits_of_creating (hidentity.trans unknown) (hinFlight.trans marked)
        create attends unshown young walk
    exact quits.idle
  · intro d hd
    refine ⟨fun fault rejected => ?_, fun fault blocked below => ?_⟩
    · rw [(Drive.trace_of_setback rejected (saves d hd)).2,
        Pass.consecutiveFailures_statusAfter]
      exact UInt32.add_zero _
    · rw [(Drive.trace_of_setback blocked (saves d hd)).2,
        Pass.consecutiveFailures_statusAfter]
      exact Pass.toNat_add_one below
  · rintro before d between e after fault fault' rfl rejected silent again same
      generation
    -- nothing is stored in between, so that the later drive begins with the
    -- status that told of the fault
    obtain ⟨s₁, -, hrest⟩ := run.split
    obtain ⟨s₂, hbetween, hlater⟩ := hrest.tail.split
    have hd : d ∈ before ++ d :: (between ++ e :: after) := by simp
    have he : e ∈ before ++ d :: (between ++ e :: after) := by simp
    have hbegins : e.pass.resource.status = d.stored :=
      hlater.head.trans (hbetween.eq_of_steady fun x hx =>
        x.stored_of_silent (silent x hx))
    exact Drive.trace_of_rejected_again rejected (saves d hd) hbegins again
      (saves e he) same generation

/-- A drive over a database whose spec or control plane may be at fault. -/
def hinderedDrive (status : Status) (seconds : Int)
    (validation connection : Except OperatorError Unit) : Drive :=
  .simulated Simulation.answer
    (.ofDatabase (some "sales") status false ⟨seconds, 0⟩) validation connection
    ({} : Simulation)

theorem status_hinderedDrive (status : Status) (seconds : Int)
    (validation connection : Except OperatorError Unit) :
    (hinderedDrive status seconds validation connection).pass.resource.status
      = status :=
  rfl

/-- A pass that sends a create, the answer to which is lost. -/
def unheardCreate : Turn :=
  .simulated Simulation.answer
    (.ofDatabase (some "sales") {} false ⟨1700000000, 0⟩) losingRemote

/-- The credentials have gone. -/
def missingCredentials : Drive :=
  hinderedDrive unheardCreate.stored 1700000010 (.ok ())
    (.error (.notFound "Secret default/cloud"))

/-- The spec is edited, and is not valid any more. -/
def invalidEdit : Drive :=
  hinderedDrive missingCredentials.stored 1700000020
    (.error (.validation "cpuCoreCount")) (.ok ())

/-- The same spec is looked at again. -/
def invalidEditAgain : Drive :=
  hinderedDrive invalidEdit.stored 1700000030
    (.error (.validation "cpuCoreCount")) (.ok ())

/-- The spec is put right, but the credentials are not. -/
def unusableCredentials : Drive :=
  hinderedDrive invalidEditAgain.stored 1700000040 (.ok ())
    (.error (.invalidConfig "fingerprint"))

/-- After these setbacks the create is still marked, two of them have been
counted, and the second look at the invalid spec has stored nothing. -/
theorem unheard_create_outlasts_setbacks :
    unheardCreate.stored.inFlight
      = some { signature := "Provision", since := "2023-11-14T22:13:20+00:00" }
      ∧ unusableCredentials.stored.inFlight = unheardCreate.stored.inFlight
      ∧ unusableCredentials.stored.consecutiveFailures.toNat
        = unheardCreate.stored.consecutiveFailures.toNat + 2
      ∧ invalidEditAgain.trace = [] := by
  have hrun : Drives unheardCreate.stored
      [missingCredentials, invalidEdit, invalidEditAgain, unusableCredentials]
        unusableCredentials.stored :=
    .cons (status_hinderedDrive ..)
      (.cons (status_hinderedDrive ..)
        (.cons (status_hinderedDrive ..)
          (.cons (status_hinderedDrive ..) .start)))
  have hsetbacks : ∀ d ∈ [missingCredentials, invalidEdit, invalidEditAgain,
      unusableCredentials], d.setback?.isSome = true := by
    decide +kernel
  have hsaves : ∀ d ∈ [missingCredentials, invalidEdit, invalidEditAgain,
    unusableCredentials],
      d.SavesSucceed := by
    decide +kernel
  obtain ⟨-, ⟨-, -, -, hmark, -⟩, -, -, -, hcount, hagain⟩ :=
    setbacks_keep_record hrun hsetbacks hsaves
  have hblocked : blockedDrives [missingCredentials, invalidEdit,
      invalidEditAgain, unusableCredentials] = 2 := by
    decide +kernel
  have hfailed :
      unheardCreate.stored.consecutiveFailures = 1 := by decide +kernel
  rw [hblocked, hfailed] at hcount
  rw [hfailed]
  refine ⟨by decide +kernel, hmark, hcount (by decide), ?_⟩
  exact hagain [missingCredentials] invalidEdit [] invalidEditAgain
    [unusableCredentials] _ _ rfl rfl (List.forall_mem_nil _) rfl rfl rfl

end DatabaseOperator
