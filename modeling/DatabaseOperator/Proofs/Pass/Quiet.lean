import DatabaseOperator.Proofs.Pass.Course
import DatabaseOperator.Proofs.Pass.Settling
import DatabaseOperator.Proofs.Pass.Teardown

/-!
# Exchanges without consequences

Most of what a pass does leaves no trace outside: it reads the remote, and reads
or writes Secrets. What is left are the calls by which an action is sent, and
the writes of the status and of the finalizer. Here it is said which stages are
free of those.

- `Pass.Quiet`: an exchange without consequences.
- `Pass.quiet_of_chooses`, `Pass.quiet_of_walk_locate`: a pass that has not come
  to act has made only such exchanges.
- `Pass.quiet_of_walk_settle`: nor does the ending of a pass that needs no
  action make others.
-/

namespace DatabaseOperator.Pass

variable {p : Pass} {t : List PassEvent}

/-- The pass may look at the object directly: one is on record, or the resource
is being deleted. In any other pass a direct read is the binding of an
object. -/
def readsObject (p : Pass) : Bool :=
  p.resource.deletionRequested || p.resource.status.identity.isSome

/-- An exchange that sends no action, and writes neither status nor
finalizer. -/
inductive Quiet (p : Pass) : PassEvent → Prop where
  | look {id : String} {reply : Reply Snapshot} (known : p.readsObject = true) :
      Quiet p (.remote (.get id) reply)
  | list {filter : ListFilter} {reply : Reply (List Snapshot)} :
      Quiet p (.remote (.list filter) reply)
  | download {id password : String} {reply : Reply ByteArray} :
      Quiet p (.remote (.downloadWallet id password) reply)
  | readSecret {name key : String} {answer : Except OperatorError String} :
      Quiet p (.store (.readSecret name key) answer)
  | secretHasData {name : String} {answer : Except OperatorError Bool} :
      Quiet p (.store (.secretHasData name) answer)
  | writeSecret {name : String} {data : Dict ByteArray}
      {answer : Except OperatorError Unit} :
      Quiet p (.store (.writeSecret name data) answer)

/-- No status is written by the way. -/
theorem saveStatus_not_mem_of_quiet (h : ∀ e ∈ t, p.Quiet e) {s : Status}
    {answer : Except OperatorError Unit} :
    .store (.saveStatus s) answer ∉ t := by
  intro hmem
  cases h _ hmem

/-- So what is stored is stored by the exchanges that follow. -/
theorem saved_mem_of_quiet {t₂ : List PassEvent} {s : Status}
    (h : ∀ e ∈ t, p.Quiet e) (hs : .saved s ∈ t ++ t₂) : .saved s ∈ t₂ :=
  (List.mem_append.mp hs).resolve_left (saveStatus_not_mem_of_quiet h)

/-! ## Observing -/

theorem Recovery.quiet {s : Status} {step : Step} (h : p.Recovery s t step) :
    ∀ e ∈ t, p.Quiet e := by
  cases h with
  | unmarked | irrelevant | repeatable | blind => simp
  | adopted | unseen =>
    intro e he
    obtain rfl := List.mem_singleton.mp he
    exact .list

theorem quiet_of_walk_refresh {s : Status} {id : String} {step : Step}
    (known : p.readsObject = true) (h : (p.refresh s id).Walk t step) :
    ∀ e ∈ t, p.Quiet e := by
  obtain ⟨direct, ⟨-, rfl, -⟩ | ⟨-, reply, rfl, -⟩⟩ := walk_refresh_iff.mp h
  · intro e he
    obtain rfl := List.mem_singleton.mp he
    exact .look known
  · intro e he
    rcases List.mem_cons.mp he with rfl | he
    · exact .look known
    · obtain rfl := List.mem_singleton.mp he
      exact .list

theorem quiet_of_walk_observeRemote {step : Step}
    (h : (p.observeRemote p.initialStatus).Walk t step) :
    ∀ e ∈ t, p.Quiet e := by
  cases hid : p.initialStatus.identity with
  | none => exact ((walk_observeRemote_of_none hid).mp h).quiet
  | some id =>
    refine quiet_of_walk_refresh ?_ ((walk_observeRemote_of_some hid).mp h)
    have hsome : p.resource.status.identity = some id := hid
    simp [readsObject, hsome]

/-- A pass that has chosen what to do has only looked. -/
theorem quiet_of_chooses {s : Status} {action : Option CorrectiveAction}
    (h : p.Chooses t s action) : ∀ e ∈ t, p.Quiet e := by
  obtain ⟨seen, observed, -, -⟩ := h
  exact quiet_of_walk_observeRemote observed

theorem quiet_of_sends {s : Status} {action : CorrectiveAction}
    (h : p.Sends t s action) : ∀ e ∈ t, p.Quiet e := by
  obtain ⟨chosen, hchosen, -⟩ := h
  exact quiet_of_chooses hchosen

theorem quiet_of_walk_readCredentials {action : CorrectiveAction}
    {r : Except OperatorError Credentials}
    (h : (p.readCredentials action).Walk t r) : ∀ e ∈ t, p.Quiet e := by
  intro e he
  obtain ⟨name, key, answer, rfl⟩ := walk_readCredentials h e he
  exact .readSecret

/-- A pass that is about to send an action has looked, and read Secrets. -/
theorem Sends.quiet_readCredentials {t₂ : List PassEvent} {s : Status}
    {action : CorrectiveAction} {r : Except OperatorError Credentials}
    (h : p.Sends t s action)
    (credentials : (p.readCredentials action).Walk t₂ r) :
    ∀ e ∈ t ++ t₂, p.Quiet e :=
  List.forall_mem_append.mpr
    ⟨quiet_of_sends h, quiet_of_walk_readCredentials credentials⟩

/-! ## Locating an object that is to be deleted -/

theorem quiet_of_walk_identify {s : Status} {step : Step}
    (h : (p.identify s).Walk t step) : ∀ e ∈ t, p.Quiet e := by
  cases hid : s.identity with
  | none => exact ((walk_identify_of_none hid).mp h).quiet
  | some id =>
    obtain ⟨rfl, -⟩ := (walk_identify_of_some (by simp [hid])).mp h
    simp

theorem quiet_of_walk_locate {s : Status} {id : String}
    {r : Except RemoteError (Status × Option LifecycleState)}
    (known : p.readsObject = true) (h : (p.locate s id).Walk t r) :
    ∀ e ∈ t, p.Quiet e := by
  obtain ⟨direct, ⟨-, rfl, -⟩ | ⟨-, reply, rfl, -⟩⟩ := walk_locate_iff.mp h
  · intro e he
    obtain rfl := List.mem_singleton.mp he
    exact .look known
  · intro e he
    rcases List.mem_cons.mp he with rfl | he
    · exact .look known
    · obtain rfl := List.mem_singleton.mp he
      exact .list

theorem quiet_of_knows {s : Status} {id : String} (h : p.Knows t s id) :
    ∀ e ∈ t, p.Quiet e :=
  quiet_of_walk_identify h.1

/-! ## Settling -/

/-- A wallet on its way to its Secret calls for no more than that Secret, the
password and the wallet. -/
theorem quiet_of_materialization {target : WalletTarget} {identity : String}
    {r : Except WalletError WalletOutcome}
    (h : Materialization target identity t r) : ∀ e ∈ t, p.Quiet e := by
  cases h with
  | unchecked | present | passwordless => simpa using .secretHasData
  | unread => simpa using ⟨.secretHasData, .readSecret⟩
  | undelivered | empty =>
    simpa using ⟨.secretHasData, .readSecret, .download⟩
  | unwritten | written =>
    simpa using ⟨.secretHasData, .readSecret, .download, .writeSecret⟩

/-- A pass that needs no action reads and writes Secrets at most, and may
download a wallet. -/
theorem quiet_of_walk_settle {s : Status} {r : Status × Duration}
    (h : (p.settle s).Walk t r) : ∀ e ∈ t, p.Quiet e := by
  cases settles_of_walk h with
  | unseen | reported | plain => simp
  | pending _ _ _ _ _ missing => exact quiet_of_materialization missing
  | equipped _ _ _ _ _ stored => exact quiet_of_materialization stored

/-- So does one that has found nothing to be done. -/
theorem Chooses.quiet_settle {t₂ : List PassEvent} {s : Status}
    {r : Status × Duration} (h : p.Chooses t s none)
    (settling : (p.settle s).Walk t₂ r) : ∀ e ∈ t ++ t₂, p.Quiet e :=
  List.forall_mem_append.mpr ⟨quiet_of_chooses h, quiet_of_walk_settle settling⟩

end DatabaseOperator.Pass
