import DatabaseOperator.Proofs.Pass.Stages

/-!
# How a pass settles

The ending of a pass that needs no action, taken apart once: what is asked and
stored for a wallet, and the status that the pass ends with.

- `Materialization`, `materialization_of_walk`: the ways in which a wallet gets
  to its Secret, or does not.
- `Materialization.holdsWallet`: a wallet that is not missing is in its Secret.
- `Pass.Settles`, `Pass.settles_of_walk`: the ways in which such an ending goes.
- `Pass.Settles.eq_of_reported`, `Pass.Settles.eq_of_calm`: what it comes to in a
  state that needs no wallet.
-/

namespace DatabaseOperator

variable {t : List PassEvent}

/-! ## Wallets -/

/-- What comes of a wallet: the exchanges, and whether it is stored. Each way
goes one question further than the one before it. -/
inductive Materialization (target : WalletTarget) (identity : String) :
    List PassEvent → Except WalletError WalletOutcome → Prop where
  /-- The Secret cannot be looked into. -/
  | unchecked {e : OperatorError} :
      Materialization target identity
        [.store (.secretHasData target.secretName) (.error e)]
        (.error (.store e))
  /-- The Secret has content. -/
  | present :
      Materialization target identity
        [.store (.secretHasData target.secretName) (.ok true)]
        (.ok .alreadyPresent)
  /-- There is nothing to protect the wallet with. -/
  | passwordless (unset : target.password = none) :
      Materialization target identity
        [.store (.secretHasData target.secretName) (.ok false)]
        (.error .passwordNotSet)
  /-- The password cannot be read. -/
  | unread {password : SecretKeyRef} {e : OperatorError}
      (set : target.password = some password) :
      Materialization target identity
        [.store (.secretHasData target.secretName) (.ok false),
          .store (.readSecret password.name password.key) (.error e)]
            (.error (.store e))
  /-- The remote does not deliver the wallet. -/
  | undelivered {password : SecretKeyRef} {text : String}
      {reply : Reply ByteArray} {e : RemoteError}
      (set : target.password = some password)
      (failed : reply.settle "wallet download timed out" = .error e) :
      Materialization target identity
        [.store (.secretHasData target.secretName) (.ok false),
          .store (.readSecret password.name password.key) (.ok text),
          .remote (.downloadWallet identity text) reply] (.error (.download e))
  /-- The wallet has nothing in it. -/
  | empty {password : SecretKeyRef} {text : String} {bytes : ByteArray}
      (set : target.password = some password) (empty : bytes.size = 0) :
      Materialization target identity
        [.store (.secretHasData target.secretName) (.ok false),
          .store (.readSecret password.name password.key) (.ok text),
          .remote (.downloadWallet identity text) (.answered bytes)]
            (.error .empty)
  /-- The Secret cannot be written. -/
  | unwritten {password : SecretKeyRef} {text : String} {bytes : ByteArray}
      {e : OperatorError} (set : target.password = some password)
      (full : bytes.size ≠ 0) :
      Materialization target identity
        [.store (.secretHasData target.secretName) (.ok false),
          .store (.readSecret password.name password.key) (.ok text),
          .remote (.downloadWallet identity text) (.answered bytes),
          .store
            (.writeSecret target.secretName (Dict.ofList [(walletKey, bytes)]))
              (.error e)] (.error (.store e))
  /-- The Secret is written. -/
  | written {password : SecretKeyRef} {text : String} {bytes : ByteArray}
      (set : target.password = some password) (full : bytes.size ≠ 0) :
      Materialization target identity
        [.store (.secretHasData target.secretName) (.ok false),
          .store (.readSecret password.name password.key) (.ok text),
          .remote (.downloadWallet identity text) (.answered bytes),
          .store
            (.writeSecret target.secretName (Dict.ofList [(walletKey, bytes)]))
              (.ok ())] (.ok .written)

theorem materialization_of_walk {target : WalletTarget} {identity : String}
    {r : Except WalletError WalletOutcome}
    (h : (materializeWallet target identity).Walk t r) :
    Materialization target identity t r := by
  -- one stage after the other: the content, the password, the download, the
  -- Secret
  unfold materializeWallet at h
  obtain ⟨answer, t₁, rfl, h₁⟩ := Pass.walk_askStore_bind_iff.mp h
  match answer with
  | .error e =>
    obtain ⟨rfl, rfl⟩ := Program.walk_pure_iff.mp h₁
    exact .unchecked
  | .ok true =>
    obtain ⟨rfl, rfl⟩ := Program.walk_pure_iff.mp h₁
    exact .present
  | .ok false =>
    simp only at h₁
    split at h₁
    next unset =>
      obtain ⟨rfl, rfl⟩ := Program.walk_pure_iff.mp h₁
      exact .passwordless unset
    next password set =>
      unfold downloadWallet at h₁
      obtain ⟨answer, t₂, rfl, h₂⟩ := Pass.walk_askStore_bind_iff.mp h₁
      cases answer with
      | error e =>
        obtain ⟨rfl, rfl⟩ := Program.walk_pure_iff.mp h₂
        exact .unread set
      | ok text =>
        obtain ⟨t₃, result, t₄, rfl, hask, h₃⟩ := Program.walk_bind_iff.mp h₂
        obtain ⟨reply, rest, rfl, hrest⟩ := Program.walk_ask_iff.mp hask
        obtain ⟨rfl, rfl⟩ := Program.walk_done_iff.mp hrest
        cases hr : Reply.settle "wallet download timed out" reply with
        | error e =>
          rw [hr] at h₃
          obtain ⟨rfl, rfl⟩ := Program.walk_pure_iff.mp h₃
          exact .undelivered set hr
        | ok bytes =>
          rw [hr] at h₃
          obtain rfl : reply = .answered bytes := by
            cases reply <;> cases hr
            rfl
          simp only [storeWallet] at h₃
          split at h₃
          next empty =>
            obtain ⟨rfl, rfl⟩ := Program.walk_pure_iff.mp h₃
            exact .empty set empty
          next full =>
            obtain ⟨answer, t₅, rfl, h₅⟩ := Pass.walk_askStore_bind_iff.mp h₃
            cases answer with
            | error e =>
              obtain ⟨rfl, rfl⟩ := Program.walk_pure_iff.mp h₅
              exact .unwritten set full
            | ok _ =>
              obtain ⟨rfl, rfl⟩ := Program.walk_pure_iff.mp h₅
              exact .written set full

/-- The exchanges show that a Secret has content: it was there, or was written
and is not empty. -/
inductive HoldsWallet (name : String) (t : List PassEvent) : Prop where
  | present (present : .store (.secretHasData name) (.ok true) ∈ t)
  | written {bytes : ByteArray} (full : bytes.size ≠ 0)
      (written : .store (.writeSecret name (Dict.ofList [(walletKey, bytes)]))
        (.ok ()) ∈ t)

theorem HoldsWallet.mono {name : String} {t' : List PassEvent}
    (h : HoldsWallet name t) (hsub : ∀ e ∈ t, e ∈ t') :
    HoldsWallet name t' := by
  cases h with
  | present present => exact .present (hsub _ present)
  | written full written => exact .written full (hsub _ written)

namespace Materialization

variable {target : WalletTarget} {identity : String}
    {r : Except WalletError WalletOutcome}

/-- A wallet that is not missing is in its Secret. -/
theorem holdsWallet {outcome : WalletOutcome}
    (h : Materialization target identity t (.ok outcome)) :
    HoldsWallet target.secretName t := by
  generalize hr : Except.ok outcome = r at h
  cases h with
  | present => exact .present (by simp)
  | written _ full => exact .written full (by simp)
  | _ => cases hr

/-- The remote is asked for the wallet of the object, and for nothing else. -/
theorem eq_download {call : RemoteCall} {reply : Reply call.Answer}
    (h : Materialization target identity t r) (hmem : .remote call reply ∈ t) :
    ∃ text, call = .downloadWallet identity text := by
  cases h with
  | unchecked | present | passwordless | unread => simp at hmem
  | undelivered | empty | unwritten | written =>
    obtain ⟨rfl, -⟩ := by simpa using hmem
    exact ⟨_, rfl⟩

end Materialization

/-! ## Settling -/

namespace Pass

variable {p : Pass} {s : Status}

/-- The ways in which a pass ends that needs no action, from the status that
holds no obstacles any more. -/
inductive Settles (p : Pass) (s : Status) : List PassEvent → Status × Duration →
    Prop where
  /-- No state was observed. -/
  | unseen (unseen : s.lifecycleState = none) :
      Settles p s []
        (s.reportProgressing p.stamp .pending Reason.awaitingConfirmation
          "no remote object yet", p.settings.resyncInterval)
  /-- The state is one to be waited for, or one that the object does not
  leave. -/
  | reported {state : LifecycleState} {s' : Status} {d : Duration}
      (seen : s.lifecycleState = some state)
      (reported : p.reportState s state = .stop s' d) : Settles p s [] (s', d)
  /-- The wallet is missing. -/
  | pending {state : LifecycleState} {target : WalletTarget} {identity : String}
      {t : List PassEvent} {e : WalletError}
      (seen : s.lifecycleState = some state)
      (calm : p.reportState s state = .proceed s) (ready : state.isReady = true)
      (wanted : p.resource.wallet = some target)
      (known : s.identity = some identity)
      (missing : Materialization target identity t (.error e)) :
      Settles p s t
        ((countFailure s).reportRetrying p.stamp Reason.walletPending
          ("wallet not materialized: " ++ e.message),
          p.backoffDelay (countFailure s))
  /-- The wallet is stored. -/
  | equipped {state : LifecycleState} {target : WalletTarget}
      {identity : String} {t : List PassEvent} {outcome : WalletOutcome}
      (seen : s.lifecycleState = some state)
      (calm : p.reportState s state = .proceed s) (ready : state.isReady = true)
      (wanted : p.resource.wallet = some target)
      (known : s.identity = some identity)
      (stored : Materialization target identity t (.ok outcome)) :
      Settles p s t
        (p.reportConverged { s with walletSecret := some target.secretName }
          state, p.settings.resyncInterval)
  /-- No wallet is asked for: the state has none, none is declared, or there is
  no object to have one. -/
  | plain {state : LifecycleState} (seen : s.lifecycleState = some state)
      (calm : p.reportState s state = .proceed s)
      (unasked : state.isReady = false ∨ p.resource.wallet = none
        ∨ s.identity = none) :
      Settles p s [] (p.reportConverged s state, p.settings.resyncInterval)

/-- A state that is none of the special ones leaves the status as it is. -/
theorem eq_of_reportState_eq_proceed {state : LifecycleState} {s' : Status}
    (h : p.reportState s state = .proceed s') : s' = s := by
  unfold reportState at h
  simp only at h
  repeat' split at h
  all_goals cases h
  rfl

theorem settles_of_walk {r : Status × Duration} (h : (p.settle s).Walk t r) :
    p.Settles (p.completeOneShot (p.forgetObstacles s)) t r := by
  unfold settle at h
  simp only at h
  split at h
  next unseen =>
    obtain ⟨rfl, rfl⟩ := Program.walk_pure_iff.mp h
    exact .unseen unseen
  next state seen =>
    split at h
    next reported =>
      obtain ⟨rfl, rfl⟩ := Program.walk_pure_iff.mp h
      exact .reported seen reported
    next s' calm =>
      obtain rfl := eq_of_reportState_eq_proceed calm
      split at h
      next ready =>
        obtain ⟨t₁, step, t₂, rfl, hbring, hrest⟩ := Program.walk_bind_iff.mp h
        unfold bringWallet at hbring
        split at hbring
        next target identity wanted known =>
          obtain ⟨t₃, result, t₄, rfl, hwallet, hstep⟩ :=
            Program.walk_bind_iff.mp hbring
          have hmaterial := materialization_of_walk hwallet
          cases result with
          | ok outcome =>
            obtain ⟨rfl, rfl⟩ := Program.walk_pure_iff.mp hstep
            obtain ⟨rfl, rfl⟩ := Program.walk_pure_iff.mp hrest
            simpa using Settles.equipped seen calm ready wanted known hmaterial
          | error e =>
            obtain ⟨rfl, rfl⟩ := Program.walk_pure_iff.mp hstep
            obtain ⟨rfl, rfl⟩ := Program.walk_pure_iff.mp hrest
            simpa using Settles.pending seen calm ready wanted known hmaterial
        next unasked =>
          obtain ⟨rfl, rfl⟩ := Program.walk_done_iff.mp hbring
          obtain ⟨rfl, rfl⟩ := Program.walk_pure_iff.mp hrest
          refine .plain seen calm (.inr ?_)
          -- a declared wallet and an object on record would have been taken
          -- together
          cases hwallet : p.resource.wallet with
          | none => exact .inl rfl
          | some target =>
            cases hid : (p.completeOneShot (p.forgetObstacles s)).identity with
            | none => exact .inr rfl
            | some id => exact absurd hid (unasked target id hwallet)
      next idle =>
        obtain ⟨rfl, rfl⟩ := Program.walk_pure_iff.mp h
        exact .plain seen calm (.inl (by simpa using idle))

/-- A state that ends the pass by its report leaves nothing else to be done. -/
theorem Settles.eq_of_reported {state : LifecycleState} {s' reported : Status}
    {d d' : Duration} (h : p.Settles s t (s', d))
    (seen : s.lifecycleState = some state)
    (reports : p.reportState s state = .stop reported d') : s' = reported := by
  cases h with
  | unseen unseen => cases seen.symm.trans unseen
  | reported seen' reports' =>
    cases seen.symm.trans seen'
    cases reports.symm.trans reports'
    rfl
  | pending seen' calm | equipped seen' calm | plain seen' calm =>
    cases seen.symm.trans seen'
    cases reports.symm.trans calm

/-- Any other state that has no wallet is reported as converged. -/
theorem Settles.eq_of_calm {state : LifecycleState} {s' : Status} {d : Duration}
    (h : p.Settles s t (s', d)) (seen : s.lifecycleState = some state)
    (calm : p.reportState s state = .proceed s)
    (walletless : state.isReady = false) : s' = p.reportConverged s state := by
  cases h with
  | unseen unseen => cases seen.symm.trans unseen
  | reported seen' reports =>
    cases seen.symm.trans seen'
    cases calm.symm.trans reports
  | pending seen' _ ready | equipped seen' _ ready =>
    cases seen.symm.trans seen'
    rw [walletless] at ready
    cases ready
  | plain seen' =>
    cases seen.symm.trans seen'
    rfl

/-- Settling asks the remote for the wallet of the object on record at most. -/
theorem Settles.eq_download {r : Status × Duration} {call : RemoteCall}
    {reply : Reply call.Answer} (h : p.Settles s t r)
    (hmem : .remote call reply ∈ t) :
    ∃ id text, call = .downloadWallet id text ∧ s.identity = some id := by
  cases h with
  | unseen | reported | plain => cases hmem
  | pending _ _ _ _ known missing =>
    obtain ⟨text, rfl⟩ := missing.eq_download hmem
    exact ⟨_, text, rfl, known⟩
  | equipped _ _ _ _ known stored =>
    obtain ⟨text, rfl⟩ := stored.eq_download hmem
    exact ⟨_, text, rfl, known⟩

end Pass

end DatabaseOperator
