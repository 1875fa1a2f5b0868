import DatabaseOperator.Proofs.Pass.Driving
import DatabaseOperator.Proofs.Pass.Sent
import DatabaseOperator.Reconciliation

/-!
# What a reconciliation asks of the cluster

The store of a pass is kept in the cluster, so each of its calls to the store is
made of calls to the cluster's API. Of these the status is one patch, over the
version last seen, and no other call changes the version that is remembered.
Since a pass stores the mark of its action first of all, that patch names the
version with which the pass has begun.

- `Reconciliation.passOver`: the pass of a reconciliation.
- `ClusterStore.walk_saveStatus_ok`: how a status is stored.
- `ClusterStore.eq_of_quiet`: exchanges without consequences leave the version
  as it is.
- `Reconciliation.sentBy`: the action that an exchange of a reconciliation
  sends.
- `Reconciliation.save_before_send`: what a reconciliation has asked right
  before it sends an action.
-/

namespace DatabaseOperator

/-- A call of a reconciliation with what became of it. -/
abbrev OperatorEvent : Type :=
  Exchange OperatorCall OperatorCall.Answer

/-- A call to the cluster's API, made for a reconciliation. -/
def OperatorEvent.ofCluster (e : Exchange ClusterCall ClusterCall.Answer) :
    OperatorEvent :=
  ⟨.cluster e.question, e.answer⟩

/-- A computation that calls the cluster's API alone makes these calls and no
others. -/
theorem ClusterProgram.walk_toOperator_iff {α : Type}
    {program : ClusterProgram α} {u : List OperatorEvent} {a : α} :
    (ClusterProgram.toOperator program).Walk u a
      ↔ ∃ t, program.Walk t a ∧ u = t.map .ofCluster := by
  constructor
  · intro h
    induction program generalizing u with
    | done b =>
      obtain ⟨rfl, rfl⟩ := Program.walk_done_iff.mp h
      exact ⟨[], .done a, rfl⟩
    | ask call next ih =>
      obtain ⟨reply, rest, rfl, hrest⟩ := Program.walk_ask_iff.mp h
      obtain ⟨t, walk, rfl⟩ := ih reply hrest
      exact ⟨⟨call, reply⟩ :: t, Program.walk_ask_iff.mpr ⟨reply, t, rfl, walk⟩,
        rfl⟩
  · rintro ⟨t, walk, rfl⟩
    induction walk with
    | done a => exact .done a
    | ask reply _ ih => exact Program.walk_ask_iff.mpr ⟨reply, _, rfl, ih⟩

/-- None of them goes to a control plane. -/
theorem ClusterProgram.remote_not_mem_toOperator {α : Type}
    {program : ClusterProgram α} {u : List OperatorEvent} {a : α}
    (h : (ClusterProgram.toOperator program).Walk u a) {call : RemoteCall}
    {reply : Reply call.Answer} : ⟨.remote call, reply⟩ ∉ u := by
  obtain ⟨t, -, rfl⟩ := walk_toOperator_iff.mp h
  intro hmem
  obtain ⟨e, -, he⟩ := List.mem_map.mp hmem
  cases congrArg Exchange.question he

/-- A call whose object has a name and whose address is a target is sent. -/
theorem ClusterCall.send_eq_query {call : ClusterCall} {target : RequestTarget}
    (named : call.object.name.isEmpty = false)
    (htarget : call.target? = .ok target) : call.send = Program.query call := by
  unfold send
  rw [named, htarget]
  rfl

/-- A call that succeeds was sent. -/
theorem ClusterCall.walk_send_ok {call : ClusterCall} {document : Json}
    {t : List (Exchange ClusterCall ClusterCall.Answer)}
    (h : call.send.Walk t (.ok document)) : t = [⟨call, .ok document⟩] := by
  unfold send at h
  split at h
  next =>
    obtain ⟨-, hresult⟩ := Program.walk_done_iff.mp h
    cases hresult
  next =>
    split at h
    next => exact Program.walk_query_iff.mp h
    next =>
      obtain ⟨-, hresult⟩ := Program.walk_done_iff.mp h
      cases hresult

namespace ClusterStore

variable {s s' : ClusterStore} {status : Status}

/-! ## Calls to the store -/

/-- The patch by which a status is stored: it names the version last seen. -/
def savePatch (s : ClusterStore) (status : Status) : ClusterCall :=
  .patchStatus s.object (statusPatch status s.version)

/-- A status is stored with one patch of the resource. -/
theorem walk_saveStatus_ok {t : List (Exchange ClusterCall ClusterCall.Answer)}
    (h : (s.saveStatus status).Walk t (.ok (), s')) :
    ∃ document, t = [⟨s.savePatch status, .ok document⟩] := by
  obtain ⟨t₁, result, t₂, rfl, h₁, h₂⟩ := Program.walk_bind_iff.mp h
  cases result with
  | error e =>
    obtain ⟨-, hresult⟩ := Program.walk_done_iff.mp h₂
    cases hresult
  | ok document =>
    have hnil : t₂ = [] := by
      simp only at h₂
      split at h₂ <;> exact (Program.walk_done_iff.mp h₂).1
    refine ⟨document, ?_⟩
    rw [hnil, List.append_nil]
    exact ClusterCall.walk_send_ok h₁

section Sent

variable (hsend : (s.savePatch status).send
    = Program.query (s.savePatch status))

include hsend

/-- After a write the version last seen is that of the answer. -/
theorem walk_saveStatus_of_answered {document : Json} {m : Metadata}
    (hread : s.metadata? document = some m) :
    (s.saveStatus status).Walk [⟨s.savePatch status, .ok document⟩]
      (.ok (), { s with version := m.resourceVersion }) := by
  unfold saveStatus
  rw [show
    (ClusterCall.patchStatus s.object (statusPatch status s.version)).send = _
      from hsend]
  refine Program.walk_ask_iff.mpr ⟨.ok document, [], rfl, ?_⟩
  unfold readAnswer Program.bind
  simp only [hread]
  exact .done _

/-- A write that is refused is a failure of the store. -/
theorem walk_saveStatus_of_refused (e : ClusterError) :
    (s.saveStatus status).Walk [⟨s.savePatch status, .error e⟩]
    (.error (.cluster e), s) := by
  unfold saveStatus
  rw [show
    (ClusterCall.patchStatus s.object (statusPatch status s.version)).send = _
      from hsend]
  exact Program.walk_ask_iff.mpr ⟨.error e, [], rfl, .done _⟩

end Sent

theorem eq_of_walk_keeping {α : Type} {action : ClusterAction α}
    {result : Except OperatorError α}
    {t : List (Exchange ClusterCall ClusterCall.Answer)}
    (h : (s.keeping action).Walk t (result, s')) : s' = s := by
  obtain ⟨t₁, result', t₂, rfl, -, h₂⟩ := Program.walk_bind_iff.mp h
  obtain ⟨-, hresult⟩ := Program.walk_done_iff.mp h₂
  exact (Prod.mk.inj hresult).2

/-- An exchange without consequences leaves the version last seen as it is. -/
theorem eq_of_quiet {p : Pass} {e : PassEvent} {u : List OperatorEvent}
    (quiet : p.Quiet e) (h : (s.answer e.question).Walk u (e.answer, s')) :
    s' = s := by
  cases quiet with
  | look | list | download =>
    obtain ⟨_, _, _, hrest⟩ := Program.walk_ask_iff.mp h
    exact (Prod.mk.inj (Program.walk_done_iff.mp hrest).2).2
  | readSecret | secretHasData | writeSecret =>
    obtain ⟨t, walk, -⟩ := ClusterProgram.walk_toOperator_iff.mp h
    exact eq_of_walk_keeping walk

theorem eq_of_all_quiet {p : Pass} {t : List PassEvent} {u : List OperatorEvent}
    (quiet : ∀ e ∈ t, p.Quiet e)
    (h : Program.Answering ClusterStore.answer s t u s') : s' = s := by
  induction h with
  | nil => rfl
  | cons first _ ih =>
    obtain rfl := eq_of_quiet (quiet _ (List.mem_cons_self ..)) first
    exact ih fun e he => quiet e (List.mem_cons_of_mem _ he)

/-- What was asked before a call to the control plane is what the pass has asked
before it, with the same call. -/
theorem split_of_remote {t : List PassEvent}
    {u before after : List OperatorEvent} {call : RemoteCall}
    {reply : Reply call.Answer}
    (h : Program.Answering ClusterStore.answer s t u s')
    (hu : u = before ++ ⟨.remote call, reply⟩ :: after) :
    ∃ t₁ t₂ s₁, t = t₁ ++ .remote call reply :: t₂
      ∧ Program.Answering ClusterStore.answer s t₁ before s₁ := by
  obtain ⟨t₁, ⟨question, answer⟩, t₂, u₁, u₂, u₃, s₁, s₂, rfl, rfl, answering,
    walk⟩ := h.split hu
  cases question with
  | store call' =>
    have hmem :
        ⟨.remote call, reply⟩ ∈ u₂ ++ ⟨.remote call, reply⟩ :: u₃ := by simp
    exact absurd hmem (ClusterProgram.remote_not_mem_toOperator walk)
  | remote call' =>
    obtain ⟨reply', rest, htrace, hrest⟩ := Program.walk_ask_iff.mp walk
    obtain ⟨rfl, hresult⟩ := Program.walk_done_iff.mp hrest
    cases u₂ with
    | nil =>
      cases htrace
      obtain rfl := (Prod.mk.inj hresult).1
      exact ⟨t₁, t₂, s₁, rfl, by simpa using answering⟩
    | cons e u₂ =>
      have hlength := congrArg List.length htrace
      simp at hlength

end ClusterStore

/-! ## Passes -/

/-- Only a pass that takes place calls the control plane. -/
theorem Pass.walk_run_of_drive {p : Pass}
    {validation connection : Except OperatorError Unit} {t : List PassEvent}
    {driven : Driven} {call : RemoteCall} {reply : Reply call.Answer}
    (h : (p.drive validation connection).Walk t driven)
    (hmem : .remote call reply ∈ t) : ∃ result, p.run.Walk t result := by
  cases Pass.driving_of_walk h with
  | passed walk => exact ⟨_, walk⟩
  | unchanged => cases hmem
  | reported | detached => cases List.mem_singleton.mp hmem

/-- A pass asks right before it sends an action for its mark to be stored, over
the version with which it has begun. -/
theorem ClusterStore.save_before_send {s s' : ClusterStore} {p : Pass}
    {t : List PassEvent} {r : Except OperatorError Pass.Outcome}
    {u before after : List OperatorEvent} {call : RemoteCall}
    {reply : Reply call.Answer} {action : CorrectiveAction} (h : p.run.Walk t r)
    (answering : Program.Answering ClusterStore.answer s t u s')
    (hu : u = before ++ ⟨.remote call, reply⟩ :: after)
    (hsent : p.sentBy (.remote call reply) = some action) :
    ∃ looked marked document,
      before = looked ++ [⟨.cluster (s.savePatch marked), .ok document⟩]
        ∧ marked.inFlight = some (p.pending action.signature) := by
  obtain ⟨t₁, t₂, s₁, ht, hbefore⟩ := split_of_remote answering hu
  obtain ⟨looked, marked, call', reply', rfl, he, sent⟩ :=
    Pass.sent_of_walk h ht hsent
  obtain ⟨u₁, u₂, s₂, rfl, hlooked, hsave⟩ := hbefore.of_append
  -- the mark is the first status that is stored, and so the version is still
  -- the first one
  obtain rfl := eq_of_all_quiet sent.quiet hlooked
  cases hsave with
  | cons first rest =>
    cases rest
    obtain ⟨saves, walk, rfl⟩ := ClusterProgram.walk_toOperator_iff.mp first
    obtain ⟨document, rfl⟩ := walk_saveStatus_ok walk
    refine ⟨u₁, marked, document, rfl, ?_⟩
    obtain ⟨marked', hmem, hmark⟩ :=
      (Pass.shape_of_walk h).marked_before ht hsent
    cases List.mem_singleton.mp (Pass.saved_mem_of_quiet sent.quiet hmem)
    exact hmark

/-! ## Reconciliations -/

namespace Reconciliation

variable {r : Reconciliation} {u before after : List OperatorEvent}
    {driven : Driven} {action : CorrectiveAction}

/-- The pass of a reconciliation, with the compartment that the connection
brings. -/
def passOver (r : Reconciliation) (compartment : Option String) : Pass where
  settings := r.settings
  resource := r.resourceFor compartment
  now := r.now

/-- The action that an exchange of a reconciliation sends, if it sends one. -/
def sentBy (r : Reconciliation) (e : OperatorEvent) : Option CorrectiveAction :=
  match e with
  | ⟨.remote call, reply⟩ => (r.passOver none).sentBy (.remote call reply)
  | _ => none

/-- The compartment has no part in which action a call sends. -/
theorem sentBy_passOver (r : Reconciliation) (compartment : Option String)
    (call : RemoteCall) (reply : Reply call.Answer) :
    (r.passOver compartment).sentBy (.remote call reply)
      = r.sentBy ⟨.remote call, reply⟩ := by
  have hreads :
      (r.passOver compartment).readsObject = (r.passOver none).readsObject := by
    obtain ⟨settings, database, now⟩ := r
    cases database <;> cases compartment <;> rfl
  cases call with
  | get id =>
    show (if (r.passOver compartment).readsObject then none
      else some (CorrectiveAction.bind id)) = _
    rw [hreads]
    rfl
  | _ => rfl

/-- A reconciliation that calls the control plane has connected to it, and
carries its pass out. -/
theorem walk_run_of_remote (h : r.run.Walk u driven) {call : RemoteCall}
    {reply : Reply call.Answer} (hmem : ⟨.remote call, reply⟩ ∈ u) :
    ∃ connection compartment rest store s t result,
      u = ⟨.connect r.database, connection⟩ :: rest
      ∧ ClusterStore.ofDatabase? r.database = .ok store
      ∧ (r.passOver compartment).run.Walk t result
      ∧ Program.Answering ClusterStore.answer store t rest s := by
  unfold run at h
  split at h
  next =>
    obtain ⟨connection, rest, rfl, walk⟩ := Program.walk_ask_iff.mp h
    have hmem : ⟨.remote call, reply⟩ ∈ rest := by simpa using hmem
    unfold pass at walk
    split at walk
    next =>
      obtain ⟨rfl, -⟩ := Program.walk_done_iff.mp walk
      cases hmem
    next store hstore =>
      obtain ⟨u₁, ⟨driven', s⟩, u₂, rfl, carrying, hend⟩ :=
        Program.walk_bind_iff.mp walk
      obtain ⟨rfl, -⟩ := Program.walk_done_iff.mp hend
      rw [List.append_nil] at hmem ⊢
      obtain ⟨t, driving, answering⟩ :=
        Program.walk_substituteWith_iff.mp carrying
      obtain ⟨before, after, hsplit⟩ := List.append_of_mem hmem
      obtain ⟨t₁, t₂, s₁, rfl, -⟩ :=
        ClusterStore.split_of_remote answering hsplit
      have hcall :
          .remote call reply ∈ t₁ ++ .remote call reply :: t₂ := by simp
      obtain ⟨result, running⟩ := Pass.walk_run_of_drive driving hcall
      exact ⟨connection, _, u₁, store, s, _, result, rfl, hstore, running,
        answering⟩
  next =>
    split at h
    next =>
      obtain ⟨rfl, -⟩ := Program.walk_done_iff.mp h
      cases hmem
    next =>
      obtain ⟨u₁, result, u₂, rfl, walk, hend⟩ := Program.walk_bind_iff.mp h
      obtain ⟨rfl, -⟩ := Program.walk_done_iff.mp hend
      rw [List.append_nil] at hmem
      exact absurd hmem (ClusterProgram.remote_not_mem_toOperator walk)

/-- A reconciliation of a valid database with the finalizer is its pass, once it
has connected. -/
theorem walk_run_of_pass (guarded : r.isGuarded = true)
    (valid : r.database.validate = .ok ()) {store s : ClusterStore}
    (hstore : ClusterStore.ofDatabase? r.database = .ok store)
    {compartment : Option String} {t : List PassEvent}
    {result : Except OperatorError Pass.Outcome}
    (walk : (r.passOver compartment).run.Walk t result)
    (answering : Program.Answering ClusterStore.answer store t u s) :
    r.run.Walk (⟨.connect r.database, .ok compartment⟩ :: u)
      (.passed result) := by
  have driving : ((r.passOver compartment).drive (.ok ()) (.ok ())).Walk t
      (.passed result) := by
    have hrun : (r.passOver compartment).drive (.ok ()) (.ok ())
        = (r.passOver compartment).run.bind fun result =>
          .done (.passed result) := by
      unfold Pass.drive
      cases (r.passOver compartment).resource.deletionRequested <;> rfl
    rw [hrun, ← List.append_nil t]
    exact walk.append (.done _)
  have carrying :
      (store.carryOut ((r.passOver compartment).drive (.ok ()) (.ok ()))).Walk u
        (.passed result) := by
    have walk : Program.Walk _ u (Driven.passed result, s) :=
      Program.walk_substituteWith_iff.mpr ⟨t, driving, answering⟩
    rw [← List.append_nil u]
    exact walk.append (.done _)
  unfold run
  rw [if_pos guarded]
  refine Program.walk_ask_iff.mpr ⟨.ok compartment, u, rfl, ?_⟩
  unfold pass
  rw [hstore, valid]
  exact carrying

/-- A reconciliation asks right before it sends an action for the mark of the
action to be stored, over the version of the database that it looks at. -/
theorem save_before_send (h : r.run.Walk u driven) {e : OperatorEvent}
    (hu : u = before ++ e :: after) (hsent : r.sentBy e = some action) :
    ∃ store looked marked document,
      ClusterStore.ofDatabase? r.database = .ok store
      ∧ before = looked ++ [⟨.cluster (store.savePatch marked), .ok document⟩]
      ∧ marked.inFlight
        = some { signature := action.signature, since := r.now.timestamp } := by
  obtain ⟨question, reply⟩ := e
  cases question with
  | cluster call | connect db => cases hsent
  | remote call =>
    have hmem : ⟨.remote call, reply⟩ ∈ u := by rw [hu]; simp
    obtain ⟨connection, compartment, rest, store, s, t, result, rfl, hstore,
        running, answering⟩ :=
      walk_run_of_remote h hmem
    cases before with
    | nil => cases congrArg Exchange.question (List.cons.inj hu).1
    | cons e before =>
      have hsent := (r.sentBy_passOver compartment call reply).trans hsent
      obtain ⟨looked, marked, document, rfl, hmark⟩ :=
        ClusterStore.save_before_send running answering
          (List.cons.inj hu).2 hsent
      exact ⟨store, e :: looked, marked, document, hstore, rfl, hmark⟩

end Reconciliation

end DatabaseOperator
