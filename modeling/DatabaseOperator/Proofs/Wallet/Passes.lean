import DatabaseOperator.Proofs.Pass.AtRest
import DatabaseOperator.Proofs.Pass.Recording
import DatabaseOperator.Proofs.Wallet.Secrets

/-!
# Wallets on record

A pass looks into the Secret of a wallet only when it has nothing else to do,
and once at most. So what came of the wallet is seen in the exchanges, and it is
this that the status goes by: the Secret is named there only if the wallet is
stored, and a resource whose wallet is missing is not reported as ready.

- `Pass.BringsWallet`: what came of the wallet of a resource in a pass.
- `Pass.settles_of_brings`: a pass in which that is asked settles by it.
- `Pass.walletSecret_of_entry`: where the Secret on record comes from.
- `wallet_stored_or_missing`: what holds of Secrets and of the status, whatever
  store and remote answer.
-/

namespace DatabaseOperator

namespace Pass

variable {p : Pass} {s s' : Status} {t t₁ t₂ before : List PassEvent}
    {r : Except OperatorError Outcome} {d : Duration} {target : WalletTarget}
    {result : Except WalletError WalletOutcome}

/-- The exchanges contain all that was asked for the wallet of the resource,
with what came of it. -/
def BringsWallet (p : Pass) (t : List PassEvent) (target : WalletTarget)
    (result : Except WalletError WalletOutcome) : Prop :=
  ∃ identity before asked after, p.resource.wallet = some target
    ∧ t = before ++ asked ++ after
    ∧ (materializeWallet target identity).Walk asked result

/-! ## The Secret on record -/

theorem walletSecret_forgetFailed (p : Pass) (s : Status) :
    (p.forgetFailed s).walletSecret = s.walletSecret := by
  show (p.forgetFailed s).facts.walletSecret = _
  rw [facts_forgetFailed]
  rfl

theorem walletSecret_forgetObstacles (p : Pass) (s : Status) :
    (p.forgetObstacles s).walletSecret = s.walletSecret := by
  show (p.forgetObstacles s).facts.walletSecret = _
  rw [facts_forgetObstacles]
  rfl

theorem walletSecret_completeOneShot (p : Pass) (s : Status) :
    (p.completeOneShot s).walletSecret = s.walletSecret := by
  unfold completeOneShot
  split
  next => split <;> rfl
  next => rfl

theorem walletSecret_reportState (p : Pass) (s : Status)
    (state : LifecycleState) :
    (p.reportState s state).status.walletSecret = s.walletSecret := by
  unfold reportState
  simp only
  repeat' split
  all_goals rfl

theorem walletSecret_afterAnswer (p : Pass) (s : Status)
    (action : CorrectiveAction)
    (answer : Except RemoteError (Option Snapshot)) :
    (p.afterAnswer s action answer).1.walletSecret = s.walletSecret := by
  cases answer with
  | ok found => exact (amends_afterSuccess p s action found).walletSecret
  | error e =>
    show (p.afterFailure s action e).1.walletSecret = s.walletSecret
    rcases afterFailure_cases p s action e with amends
      | ⟨s', reason, message, same, heq⟩
    · exact amends.walletSecret
    · have hsecret : s'.walletSecret = s.walletSecret :=
        Status.walletSecret_eq_of_journal same
      rw [heq]
      exact hsecret

theorem Chooses.walletSecret {action : Option CorrectiveAction}
    (h : p.Chooses t s action) :
    s.walletSecret = p.resource.status.walletSecret := by
  have hsame : s.walletSecret = p.initialStatus.walletSecret :=
    Status.walletSecret_eq_of_journal h.journal
  exact hsame

theorem Sends.walletSecret {action : CorrectiveAction}
    (h : p.Sends t s action) :
    s.walletSecret = p.resource.status.walletSecret := by
  obtain ⟨chosen, hchosen, -, -, rfl⟩ := h
  exact (walletSecret_forgetFailed p chosen).trans hchosen.walletSecret

/-- Settling names the Secret of a wallet that is stored, and leaves the one on
record otherwise. -/
theorem Settles.walletSecret {settled : Status × Duration}
    (h : p.Settles s t settled) :
    settled.1.walletSecret = s.walletSecret
      ∨ ∃ target identity outcome, p.resource.wallet = some target
        ∧ Materialization target identity t (.ok outcome)
        ∧ settled.1.walletSecret = some target.secretName := by
  cases h with
  | unseen | pending | plain => exact .inl rfl
  | @reported state _ _ _ reported =>
    have hkept := walletSecret_reportState p s state
    rw [reported] at hkept
    exact .inl hkept
  | equipped _ _ _ wanted _ stored => exact .inr ⟨_, _, _, wanted, stored, rfl⟩

/-- The Secret on record was there before, or the wallet has just been found in
it or stored. -/
theorem walletSecret_of_entry (h : p.Entry before s) :
    s.walletSecret = p.resource.status.walletSecret
      ∨ ∃ target outcome, s.walletSecret = some target.secretName
        ∧ p.BringsWallet before target (.ok outcome) := by
  cases h with
  | amended amends => exact .inl amends.walletSecret
  | @settled t₁ t₂ rest chosenStatus _ _ chosen settling =>
    rcases (settles_of_walk settling).walletSecret with hkept
      | ⟨target, identity, outcome, wanted, stored, hsecret⟩
    · rw [walletSecret_completeOneShot, walletSecret_forgetObstacles,
        chosen.walletSecret] at hkept
      exact .inl hkept
    · exact .inr ⟨target, outcome, hsecret, identity, t₁, t₂, rest, wanted, rfl,
        stored.walk⟩
  | declined chosen _ => exact .inl chosen.walletSecret
  | waited chosen _ _ =>
    exact .inl
      ((amends_waitFor ..).walletSecret.trans
        ((walletSecret_forgetFailed ..).trans chosen.walletSecret))
  | illegal chosen _ =>
    exact .inl ((walletSecret_forgetFailed ..).trans chosen.walletSecret)
  | uncredited sends | marked sends => exact .inl sends.walletSecret
  | answered sends =>
    exact .inl ((walletSecret_afterAnswer ..).trans sends.walletSecret)

/-! ## Where a wallet is asked for -/

/-- The content of a Secret is asked for. -/
def AsksContent (e : PassEvent) : Prop :=
  ∃ name answer, e = .store (.secretHasData name) answer

theorem not_asksContent_of_looks (h : ∀ e ∈ t, Looks e) :
    ∀ e ∈ t, ¬ AsksContent e := by
  rintro e he ⟨name, answer, rfl⟩
  cases h _ he

theorem not_asksContent_of_secretReads (h : ∀ e ∈ t, IsSecretRead e) :
    ∀ e ∈ t, ¬ AsksContent e := by
  rintro e he ⟨name, answer, rfl⟩
  obtain ⟨_, _, _, hread⟩ := h _ he
  cases hread

theorem not_asksContent_of_finish {g : Progress} (h : (finish g d).Walk t r) :
    ∀ e ∈ t, ¬ AsksContent e := by
  rintro e he ⟨name, answer, rfl⟩
  rcases walk_finish_iff.mp h with ⟨-, rfl, -⟩ | ⟨-, answer, rfl, -⟩
  · cases he
  · cases List.mem_singleton.mp he

theorem not_asksContent_of_release {g : Progress} (h : (release g).Walk t r) :
    ∀ e ∈ t, ¬ AsksContent e := by
  rintro e he ⟨name, answer, rfl⟩
  obtain ⟨answer, rfl, -⟩ := walk_release_iff.mp h
  cases List.mem_singleton.mp he

/-- What is sent, and the mark before it, asks for no content. -/
theorem not_asksContent_of_sent {marked : Status} {call : RemoteCall}
    {reply : Reply call.Answer} (before : ∀ e ∈ t₁, ¬ AsksContent e)
    (after : ∀ e ∈ t₂, ¬ AsksContent e) :
    ∀ e ∈ t₁ ++ .saved marked :: .remote call reply :: t₂, ¬ AsksContent e := by
  refine List.forall_mem_append.mpr
    ⟨before,
      List.forall_mem_cons.mpr ⟨?_, List.forall_mem_cons.mpr ⟨?_, after⟩⟩⟩
  · rintro ⟨_, _, h⟩
    cases h
  · rintro ⟨_, _, h⟩
    cases h

theorem Chooses.not_asksContent {action : Option CorrectiveAction}
    (h : p.Chooses t s action) : ∀ e ∈ t, ¬ AsksContent e := by
  obtain ⟨seen, observed, -, -⟩ := h
  exact not_asksContent_of_looks (looks_of_walk_observeRemote observed)

theorem Sends.not_asksContent {action : CorrectiveAction}
    {c : Except OperatorError Credentials} (h : p.Sends t₁ s action)
    (credentials : (p.readCredentials action).Walk t₂ c) :
    ∀ e ∈ t₁ ++ t₂, ¬ AsksContent e := by
  obtain ⟨chosen, hchosen, -⟩ := h
  exact List.forall_mem_append.mpr
    ⟨hchosen.not_asksContent,
      not_asksContent_of_secretReads (walk_readCredentials credentials)⟩

/-- A deletion asks for no content. -/
theorem Teardown.not_asksContent (h : p.Teardown t r) :
    ∀ e ∈ t, ¬ AsksContent e := by
  cases h with
  | detached _ ending => exact not_asksContent_of_release ending
  | awaited _ identified ending =>
    exact List.forall_mem_append.mpr
      ⟨not_asksContent_of_looks (looks_of_walk_identify identified),
        not_asksContent_of_finish ending⟩
  | objectless _ identified _ ending =>
    exact List.forall_mem_append.mpr
      ⟨not_asksContent_of_looks (looks_of_walk_identify identified),
        not_asksContent_of_release ending⟩
  | known _ knows teardown =>
    refine List.forall_mem_append.mpr
      ⟨not_asksContent_of_looks (looks_of_walk_identify knows.1), ?_⟩
    cases teardown with
    | unread located _ ending | given located _ ending =>
      exact List.forall_mem_append.mpr
        ⟨not_asksContent_of_looks (looks_of_walk_locate located),
          not_asksContent_of_finish ending⟩
    | gone located _ ending =>
      exact List.forall_mem_append.mpr
        ⟨not_asksContent_of_looks (looks_of_walk_locate located),
          not_asksContent_of_release ending⟩
    | unmarked located _ =>
      refine List.forall_mem_append.mpr
        ⟨not_asksContent_of_looks (looks_of_walk_locate located), ?_⟩
      rintro e he ⟨_, _, rfl⟩
      cases List.mem_singleton.mp he
    | deleted located _ ending | kept located _ _ _ ending =>
      exact not_asksContent_of_sent
        (not_asksContent_of_looks (looks_of_walk_locate located))
        (not_asksContent_of_finish ending)
    | vanished located _ _ ending =>
      exact not_asksContent_of_sent
        (not_asksContent_of_looks (looks_of_walk_locate located))
        (not_asksContent_of_release ending)

/-- A pass that asks for the content of a Secret has nothing to do but to
settle, and asks then. -/
theorem Course.settles_of_asksContent (h : p.Course t r) {e : PassEvent}
    (he : e ∈ t) (asks : AsksContent e) :
    ∃ t₁ t₂ t₃ s s' d, t = t₁ ++ (t₂ ++ t₃) ∧ p.Chooses t₁ s none
      ∧ (p.settle s).Walk t₂ (s', d)
      ∧ (p.quits s' d).Walk t₃ r ∧ e ∈ t₂ := by
  have never : (∀ e ∈ t, ¬ AsksContent e) → False := fun h => h e he asks
  cases h with
  | stopped observed ending | held observed _ ending =>
    exact (never (List.forall_mem_append.mpr
      ⟨not_asksContent_of_looks (looks_of_walk_observeRemote observed),
        not_asksContent_of_finish ending⟩)).elim
  | settled chosen settling ending =>
    refine ⟨_, _, _, _, _, _, rfl, chosen, settling, ending, ?_⟩
    rcases List.mem_append.mp he with hlooked | he
    · exact absurd asks (chosen.not_asksContent e hlooked)
    · rcases List.mem_append.mp he with hsettling | hend
      · exact hsettling
      · exact absurd asks (not_asksContent_of_finish ending e hend)
  | declined chosen _ ending | waited chosen _ _ ending
  | illegal chosen _ _ ending =>
    exact (never
      (List.forall_mem_append.mpr
        ⟨chosen.not_asksContent, not_asksContent_of_finish ending⟩)).elim
  | uncredited sends credentials ending =>
    rw [← List.append_assoc] at never
    exact (never (List.forall_mem_append.mpr
      ⟨sends.not_asksContent credentials,
        not_asksContent_of_finish ending⟩)).elim
  | unmarked sends credentials =>
    rw [← List.append_assoc] at never
    refine (never
      (List.forall_mem_append.mpr ⟨sends.not_asksContent credentials, ?_⟩)).elim
    rintro e he ⟨_, _, rfl⟩
    cases List.mem_singleton.mp he
  | sent sends credentials _ ending =>
    rw [← List.append_assoc] at never
    exact (never (not_asksContent_of_sent (sends.not_asksContent credentials)
      (not_asksContent_of_finish ending))).elim

/-- What is asked while settling is asked for a wallet. -/
theorem Settles.materialization_of_mem {settled : Status × Duration}
    {e : PassEvent} (h : p.Settles s t settled) (he : e ∈ t) :
    ∃ target identity result, p.resource.wallet = some target
      ∧ Materialization target identity t result := by
  cases h with
  | unseen | reported | plain => cases he
  | pending _ _ _ wanted _ missing => exact ⟨_, _, _, wanted, missing⟩
  | equipped _ _ _ wanted _ stored => exact ⟨_, _, _, wanted, stored⟩

/-- A pass in which something has come of a wallet settles by just that. -/
theorem settles_of_brings (h : p.run.Walk t r)
    (brings : p.BringsWallet t target result) :
    ∃ t₁ t₂ t₃ s settled identity, t = t₁ ++ (t₂ ++ t₃) ∧ p.Chooses t₁ s none
      ∧ (p.settle s).Walk t₂ settled
      ∧ (p.quits settled.1 settled.2).Walk t₃ r
      ∧ Materialization target identity t₂ result := by
  obtain ⟨identity, before, asked, after, wanted, rfl, walk⟩ := brings
  obtain ⟨answer, rest, rfl, -⟩ := (materialization_of_walk walk).exists_cons
  have hmem : .store (.secretHasData target.secretName) answer
      ∈ before ++ .store (.secretHasData target.secretName) answer :: rest
        ++ after := by simp
  have stays : p.resource.deletionRequested = false := by
    cases hdel : p.resource.deletionRequested with
    | false => rfl
    | true =>
      exact absurd ⟨_, _, rfl⟩
        ((teardown_of_walk hdel h).not_asksContent _ hmem)
  obtain ⟨t₁, t₂, t₃, s, s', d, htrace, chosen, settling, ending, hasked⟩ :=
    (course_of_walk stays h).settles_of_asksContent hmem ⟨_, _, rfl⟩
  obtain ⟨target', identity', result', wanted', settled⟩ :=
    (settles_of_walk settling).materialization_of_mem hasked
  obtain rfl : target' = target := Option.some.inj (wanted'.symm.trans wanted)
  -- the content is asked for once only, so what was asked for the wallet begins
  -- at the same place
  obtain ⟨answer', rest', rfl, honce⟩ := settled.exists_cons
  have hlater :
      .store (.secretHasData target'.secretName) answer ∉ rest' ++ t₃ := by
    intro hmem
    rcases List.mem_append.mp hmem with hrest | hend
    · exact honce _ _ hrest
    · exact not_asksContent_of_finish ending _ hend ⟨_, _, rfl⟩
  have hfirst : .store (.secretHasData target'.secretName) answer ∉ t₁ :=
      fun hmem =>
    chosen.not_asksContent _ hmem ⟨_, _, rfl⟩
  have hsplit :
      t₁ ++ .store (.secretHasData target'.secretName) answer' :: (rest' ++ t₃)
        = before ++ .store (.secretHasData target'.secretName) answer :: (rest
          ++ after) := by
    simpa using htrace.symm
  obtain ⟨rfl, hanswer, hrest⟩ :=
    (List.append_cons_inj_of_notMem hfirst hlater).mp hsplit
  have hunique := materializeWallet_unique settled.walk walk
    (congrArg₂ List.cons hanswer hrest : _ :: rest' ++ t₃ = _ :: rest ++ after)
  obtain ⟨-, rfl, -⟩ := hunique
  exact ⟨_, _, _, s, (s', d), identity', htrace, chosen, settling,
    ending, settled⟩

/-- A pass in which the wallet is missing leaves a resource that is not ready,
with the Secret on record that there was. -/
theorem withholds_of_missing {e : WalletError} (h : p.run.Walk t r)
    (missing : p.BringsWallet t target (.error e))
    (recorded : OnRecord t r before s) :
    s.Withholds ∧ s.walletSecret = p.resource.status.walletSecret := by
  obtain ⟨t₁, t₂, t₃, chosen, settled, identity, rfl, hchosen, settling, ending,
    failed⟩ := settles_of_brings h missing
  rw [← List.append_assoc] at recorded
  have quiet := hchosen.quiet_settle settling
  obtain ⟨rfl, -⟩ :=
    recorded.of_finish (saveStatus_not_mem_of_quiet quiet) ending
  have hbegin : (p.completeOneShot (p.forgetObstacles chosen)).walletSecret
      = p.resource.status.walletSecret := by
    rw [walletSecret_completeOneShot, walletSecret_forgetObstacles,
      hchosen.walletSecret]
  obtain ⟨answer, rest, hasked, -⟩ := failed.exists_cons
  cases settles_of_walk settling with
  | unseen | reported | plain => cases hasked
  | pending => exact ⟨Status.readyFlag_reportRetrying .., hbegin⟩
  | @equipped _ target' identity' _ outcome _ _ _ wanted _ stored =>
    -- what was asked for the wallet tells whether it is there
    obtain ⟨_, _, _, _, wanted', -, -⟩ := missing
    obtain rfl : target' = target := Option.some.inj (wanted.symm.trans wanted')
    have hexchanges : t₂ ++ [] = t₂ ++ [] := rfl
    obtain ⟨-, himpossible, -⟩ :=
      materializeWallet_unique stored.walk failed.walk hexchanges
    cases himpossible

end Pass

/-- **Wallets are stored once, and named only where they are.** Whatever wallet
is wanted, and whatever the store and the remote answer:

1. a wallet is taken to be there only if its Secret has content; then nothing
   else is asked and nothing is written;
2. it is taken to be written only if the Secret had no content, and holds now,
   alone under its key, the bytes that the remote has answered, of which there
   are some;
3. if it cannot be stored, for whichever reason, every Secret is as it was;
4. once it is stored, the remote is not asked again, and the Secrets stay.

In a pass, the Secret is put on record only after it was found to have content,
or written. If the wallet is missing, then whatever the pass stores or ends with
says that the resource is not ready, and names the Secret that was on record
before. The phase of a pass whose wallet could not be stored stays as it was,
also where it was that of a ready resource: only the condition that tells of
readiness is withheld. -/
theorem wallet_stored_or_missing :
    (∀ (target : WalletTarget) (identity : String)
        (secrets secrets' : Dict Secret) (t : List PassEvent)
        (result : Except WalletError WalletOutcome),
      (materializeWallet target identity).Walk t result →
        Serving secrets t secrets' →
          (result = .ok .alreadyPresent →
            hasContent secrets target.secretName = true
              ∧ t = [.store (.secretHasData target.secretName) (.ok true)]
              ∧ secrets' = secrets)
          ∧ (result = .ok .written →
            hasContent secrets target.secretName = false
              ∧ ∃ password text bytes secret, target.password = some password
                ∧ bytes.size ≠ 0
                ∧ t = [.store (.secretHasData target.secretName) (.ok false),
                    .store (.readSecret password.name password.key) (.ok text),
                    .remote (.downloadWallet identity text) (.answered bytes),
                    .store
                      (.writeSecret target.secretName
                        (Dict.ofList [(walletKey, bytes)])) (.ok ())]
                ∧ secret.Carries (Dict.ofList [(walletKey, bytes)])
                ∧ secrets' = secrets.insert target.secretName secret)
          ∧ (∀ e, result = .error e → secrets' = secrets)
          ∧ ∀ outcome, result = .ok outcome →
            ∀ identity' t' result' secrets'',
              (materializeWallet target identity').Walk t' result' →
                Serving secrets' t' secrets'' →
                  (∀ call reply, .remote call reply ∉ t')
                    ∧ secrets'' = secrets')
      ∧ ∀ (p : Pass) (t : List PassEvent)
          (r : Except OperatorError Pass.Outcome), p.run.Walk t r →
        (∀ before s, Pass.OnRecord t r before s →
          s.walletSecret = p.resource.status.walletSecret
            ∨ ∃ target outcome, s.walletSecret = some target.secretName
              ∧ p.BringsWallet before target (.ok outcome))
        ∧ ∀ target e, p.BringsWallet t target (.error e) →
          ∀ before s, Pass.OnRecord t r before s →
            s.Withholds ∧ s.walletSecret = p.resource.status.walletSecret := by
  constructor
  · intro target identity secrets secrets' t result walk serving
    have goes := materialization_of_walk walk
    refine ⟨?_, ?_, ?_, ?_⟩
    · rintro rfl
      exact goes.present_of_ok serving
    · rintro rfl
      exact goes.written_of_ok serving
    · rintro e rfl
      exact goes.unchanged_of_error serving
    · rintro outcome rfl identity' t' result' secrets'' walk' serving'
      obtain ⟨⟨answer, rfl⟩, hsame⟩ :=
        (materialization_of_walk walk').again serving' (goes.hasContent serving)
      exact ⟨by simp, hsame⟩
  · intro p t r h
    constructor
    · intro before s recorded
      exact Pass.walletSecret_of_entry (Pass.entry_of_onRecord h recorded)
    · intro target e missing before s recorded
      exact Pass.withholds_of_missing h missing recorded

/-! ## A wallet that is stored, and one that is missing -/

/-- A wallet with a password. -/
def salesTarget : WalletTarget where
  secretName := "sales-wallet"
  password := some { name := "sales-password", key := "password" }

/-- A store that holds the password. -/
def salesSecrets : Dict Secret :=
  Dict.ofList
    [("sales-password",
      { stringData := some (Dict.ofList [("password", "swordfish")]) })]

/-- The Secret of the wallet once it is written. -/
def salesWallet : Secret where
  data := some (Dict.ofList [(walletKey, ⟨#[80, 75]⟩)])

/-- What is asked for the wallet there. -/
def salesExchanges : List PassEvent :=
  [.store (.secretHasData "sales-wallet") (.ok false),
    .store (.readSecret "sales-password" "password") (.ok "swordfish"),
    .remote (.downloadWallet "ocid1.adb.1" "swordfish") (.answered ⟨#[80, 75]⟩),
    .store
      (.writeSecret "sales-wallet" (Dict.ofList [(walletKey, ⟨#[80, 75]⟩)]))
        (.ok ())]

/-- A pass over a database whose wallet has no password. -/
def pendingTurn : Turn :=
  .simulated Simulation.answer
    (Pass.walletedPass { identity := some "ocid1.adb.1" } ⟨1700000000, 0⟩)
    (Pass.stateRemote .available)

/-- The wallet is written once and then found; in a pass over the database that
has no password it stays missing. -/
theorem wallet_written_then_found :
    hasContent salesSecrets "sales-wallet" = false
      ∧ (materializeWallet salesTarget "ocid1.adb.1").Walk salesExchanges
        (.ok .written)
      ∧ Serving salesSecrets salesExchanges
        (salesSecrets.insert "sales-wallet" salesWallet)
      ∧ (∀ identity t result secrets,
        (materializeWallet salesTarget identity).Walk t result →
          Serving (salesSecrets.insert "sales-wallet" salesWallet) t secrets →
            (∀ call reply, .remote call reply ∉ t)
              ∧ secrets = salesSecrets.insert "sales-wallet" salesWallet)
      ∧ pendingTurn.pass.BringsWallet pendingTurn.trace
        { secretName := "sales-wallet" } (.error .passwordNotSet)
      ∧ pendingTurn.stored.Withholds
      ∧ pendingTurn.stored.walletSecret = none := by
  have full : (⟨#[80, 75]⟩ : ByteArray).size ≠ 0 := by decide
  have secured : salesTarget.password
    = some { name := "sales-password", key := "password" } := rfl
  have goes : Materialization salesTarget "ocid1.adb.1" salesExchanges
      (.ok .written) := by
    unfold salesExchanges
    exact .written secured full
  have carries : salesWallet.Carries (Dict.ofList [(walletKey, ⟨#[80, 75]⟩)]) :=
    fun _ _ held => held
  have serving : Serving salesSecrets salesExchanges
      (salesSecrets.insert "sales-wallet" salesWallet) :=
    .cons .looked
      (.cons (.read rfl) (.cons .remote (.cons (.written carries) (.nil _))))
  obtain ⟨hwallets, hpasses⟩ := wallet_stored_or_missing
  obtain ⟨-, hwritten, -, hagain⟩ :=
    hwallets salesTarget "ocid1.adb.1" _ _ _ _ goes.walk serving
  obtain ⟨hmissing, -⟩ := hwritten rfl
  obtain ⟨found, htrace⟩ : ∃ found, pendingTurn.trace
      = [.remote (.get "ocid1.adb.1") (.answered found)]
        ++ [.store (.secretHasData "sales-wallet") (.ok false)]
        ++ [.saved pendingTurn.stored] := ⟨_, rfl⟩
  have brings : pendingTurn.pass.BringsWallet pendingTurn.trace
      { secretName := "sales-wallet" } (.error .passwordNotSet) :=
    ⟨"ocid1.adb.1", _, _, _, rfl, htrace,
      (Materialization.passwordless rfl).walk⟩
  obtain ⟨-, hpending⟩ :=
    hpasses pendingTurn.pass pendingTurn.trace _ pendingTurn.walk
  obtain ⟨hwithholds, hsecret⟩ := hpending _ _ brings _ _ (.stored htrace)
  exact ⟨hmissing, goes.walk, serving, hagain _ rfl, brings,
    hwithholds, hsecret⟩

end DatabaseOperator
