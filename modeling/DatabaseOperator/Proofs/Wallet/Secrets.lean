import DatabaseOperator.Proofs.Dict
import DatabaseOperator.Proofs.Pass.Settling

/-!
# Wallets and the Secrets of a store

Seen from its Secrets, a store answers by what it holds, takes what is written,
and is changed by nothing else. So a wallet that is not stored leaves every
Secret as it was, and one that is stored is never fetched again.

- `Serves`, `Serving`: the exchanges with a store that holds Secrets, and the
  Secrets that it holds afterwards.
- `Serving.eq_of_unwritten`: only a write that succeeds changes them.
- `Materialization.unchanged_of_error`: a wallet that is not stored has changed
  nothing.
- `Materialization.hasContent`, `Materialization.again`: a wallet that is stored
  is there, and is left alone.
- `materializeWallet_unique`: the exchanges settle what comes of a wallet.
-/

namespace DatabaseOperator

variable {secrets secrets' secrets'' : Dict Secret} {t t₁ t₂ : List PassEvent}
    {e : PassEvent} {name : String}

/-- The Secret holds what was written, be it alone or beside other entries. -/
def Secret.Carries (s : Secret) (data : Dict ByteArray) : Prop :=
  ∀ key bytes, data.get? key = some bytes →
    s.data.bind (·.get? key) = some bytes

/-- The Secret of a name is there and has content. -/
def hasContent (secrets : Dict Secret) (name : String) : Bool :=
  (secrets.get? name).any Secret.hasData

/-- A call to a store that holds some Secrets, with its answer, and the Secrets
afterwards. A call that fails changes nothing, and one that succeeds is answered
by what the Secrets hold. -/
inductive Serves : Dict Secret → PassEvent → Dict Secret → Prop where
  | refused {secrets : Dict Secret} {call : StoreCall} {e : OperatorError} :
      Serves secrets (.store call (.error e)) secrets
  | looked {secrets : Dict Secret} {name : String} :
      Serves secrets
        (.store (.secretHasData name) (.ok (hasContent secrets name))) secrets
  | read {secrets : Dict Secret} {name key text : String}
      (holds : (secrets.get? name).bind (·.read? key) = some text) :
      Serves secrets (.store (.readSecret name key) (.ok text)) secrets
  | written {secrets : Dict Secret} {name : String} {data : Dict ByteArray}
      {secret : Secret} (carries : secret.Carries data) :
      Serves secrets (.store (.writeSecret name data) (.ok ()))
        (secrets.insert name secret)
  | saved {secrets : Dict Secret} {status : Status} :
      Serves secrets (.saved status) secrets
  | released {secrets : Dict Secret} :
      Serves secrets (.store .releaseFinalizer (.ok ())) secrets
  | remote {secrets : Dict Secret} {call : RemoteCall}
      {reply : Reply call.Answer} : Serves secrets (.remote call reply) secrets

/-- Exchanges one after the other, with a store that holds some Secrets at first
and others in the end. -/
inductive Serving : Dict Secret → List PassEvent → Dict Secret → Prop where
  | nil (secrets : Dict Secret) : Serving secrets [] secrets
  | cons {secrets secrets' secrets'' : Dict Secret} {e : PassEvent}
      {t : List PassEvent} (first : Serves secrets e secrets')
      (rest : Serving secrets' t secrets'') : Serving secrets (e :: t) secrets''

/-- A Secret is written. -/
def IsWrite (e : PassEvent) : Prop :=
  ∃ name data, e = .store (.writeSecret name data) (.ok ())

theorem Serves.eq_of_not_isWrite (h : Serves secrets e secrets')
    (unwritten : ¬ IsWrite e) : secrets' = secrets := by
  cases h with
  | written => exact absurd ⟨_, _, rfl⟩ unwritten
  | refused | looked | read | saved | released | remote => rfl

/-- Only a write that succeeds changes the Secrets. -/
theorem Serving.eq_of_unwritten (h : Serving secrets t secrets')
    (unwritten : ∀ e ∈ t, ¬ IsWrite e) : secrets' = secrets := by
  induction h with
  | nil => rfl
  | cons first _ ih =>
    obtain ⟨hfirst, hrest⟩ := List.forall_mem_cons.mp unwritten
    rw [ih hrest, first.eq_of_not_isWrite hfirst]

theorem Serves.hasContent_eq {found : Bool}
    (h : Serves secrets (.store (.secretHasData name) (.ok found)) secrets') :
    hasContent secrets name = found := by
  cases h
  rfl

/-! ## A wallet and its Secret -/

/-- A Secret with a wallet in it has content. -/
theorem Secret.hasData_of_carries {secret : Secret} {bytes : ByteArray}
    (full : bytes.size ≠ 0)
    (carries : secret.Carries (Dict.ofList [(walletKey, bytes)])) :
    secret.hasData = true := by
  have hheld :
      (Dict.ofList [(walletKey, bytes)]).get? walletKey = some bytes := by
    have honce : ([(walletKey, bytes)].map Prod.fst).Nodup :=
      List.nodup_singleton walletKey
    rw [Dict.get?_ofList honce]
    exact Dict.lookIn_cons_self ..
  obtain ⟨data, hdata, hbytes⟩ :=
    Option.bind_eq_some_iff.mp (carries walletKey bytes hheld)
  have hvalue :
      bytes ∈ data.values := Dict.mem_values_iff.mpr ⟨walletKey, hbytes⟩
  have hany : data.values.any (fun bytes => bytes.size != 0) = true :=
    List.any_eq_true.mpr ⟨bytes, hvalue, by simpa using full⟩
  simp [hasData, hdata, hany]

namespace Materialization

variable {target : WalletTarget} {identity identity' : String}
    {r r' : Except WalletError WalletOutcome}

/-- The first question is for the content of the Secret. -/
theorem exists_cons (h : Materialization target identity t r) :
    ∃ answer rest, t = .store (.secretHasData target.secretName) answer :: rest
      ∧ ∀ name answer, .store (.secretHasData name) answer ∉ rest := by
  cases h <;> exact ⟨_, _, rfl, by simp⟩

/-- A wallet that is not stored has changed no Secret. -/
theorem unchanged_of_error {e : WalletError}
    (h : Materialization target identity t (.error e))
    (serving : Serving secrets t secrets') : secrets' = secrets := by
  refine serving.eq_of_unwritten ?_
  generalize hr : Except.error e = r at h
  cases h with
  | present | written => cases hr
  | unchecked | passwordless | unread | undelivered | empty | unwritten =>
    simp [IsWrite]

/-- A wallet that was there already is there, and nothing else was asked. -/
theorem present_of_ok
    (h : Materialization target identity t (.ok .alreadyPresent))
    (serving : Serving secrets t secrets') :
    hasContent secrets target.secretName = true
      ∧ t = [.store (.secretHasData target.secretName) (.ok true)]
      ∧ secrets' = secrets := by
  generalize hr : Except.ok WalletOutcome.alreadyPresent = r at h
  cases h with
  | present =>
    have hsame := serving.eq_of_unwritten (by simp [IsWrite])
    cases serving with
    | cons first _ => exact ⟨first.hasContent_eq, rfl, hsame⟩
  | _ => cases hr

/-- A wallet that is written now was missing, and is what the remote answered,
alone under its key. -/
theorem written_of_ok (h : Materialization target identity t (.ok .written))
    (serving : Serving secrets t secrets') :
    hasContent secrets target.secretName = false
      ∧ ∃ password text bytes secret, target.password = some password
        ∧ bytes.size ≠ 0
        ∧ t = [.store (.secretHasData target.secretName) (.ok false),
            .store (.readSecret password.name password.key) (.ok text),
            .remote (.downloadWallet identity text) (.answered bytes),
            .store
              (.writeSecret target.secretName
                (Dict.ofList [(walletKey, bytes)])) (.ok ())]
        ∧ secret.Carries (Dict.ofList [(walletKey, bytes)])
        ∧ secrets' = secrets.insert target.secretName secret := by
  generalize hr : Except.ok WalletOutcome.written = r at h
  cases h with
  | @written password text bytes set full =>
    cases serving with
    | cons looked rest =>
      have hmissing := looked.hasContent_eq
      obtain rfl := looked.eq_of_not_isWrite (by simp [IsWrite])
      cases rest with
      | cons read rest =>
        obtain rfl := read.eq_of_not_isWrite (by simp [IsWrite])
        cases rest with
        | cons downloaded rest =>
          obtain rfl := downloaded.eq_of_not_isWrite (by simp [IsWrite])
          cases rest with
          | cons wrote rest =>
            cases rest
            cases wrote with
            | @written _ _ secret carries =>
              exact ⟨hmissing, password, text, bytes, secret, set, full, rfl,
                carries, rfl⟩
  | _ => cases hr

/-- A wallet that is not missing is in its Secret. -/
theorem hasContent {outcome : WalletOutcome}
    (h : Materialization target identity t (.ok outcome))
    (serving : Serving secrets t secrets') :
    hasContent secrets' target.secretName = true := by
  cases outcome with
  | alreadyPresent =>
    obtain ⟨hcontent, -, rfl⟩ := h.present_of_ok serving
    exact hcontent
  | written =>
    obtain ⟨-, password, text, bytes, secret, -, full, -, carries, rfl⟩ :=
      h.written_of_ok serving
    unfold DatabaseOperator.hasContent
    rw [Dict.get?_insert_self]
    exact Secret.hasData_of_carries full carries

/-- A Secret with content is left alone: nothing is asked but whether it has
content. -/
theorem again (h : Materialization target identity t r)
    (serving : Serving secrets t secrets')
    (content : DatabaseOperator.hasContent secrets target.secretName = true) :
    (∃ answer, t = [.store (.secretHasData target.secretName) answer])
      ∧ secrets' = secrets := by
  have hfound : ∀ {rest}, t
      = .store (.secretHasData target.secretName) (.ok false) :: rest →
        False := by
    rintro rest rfl
    cases serving with
    | cons first _ =>
      rw [first.hasContent_eq] at content
      cases content
  cases h with
  | unchecked | present =>
    exact ⟨⟨_, rfl⟩, serving.eq_of_unwritten (by simp [IsWrite])⟩
  | passwordless | unread | undelivered | empty | unwritten | written =>
    exact (hfound rfl).elim

end Materialization

/-- What comes of a wallet that is delivered is what becomes of its bytes. -/
theorem walk_materializeWallet_of_delivered {target : WalletTarget}
    {identity text : String} {password : SecretKeyRef} {bytes : ByteArray}
    {r : Except WalletError WalletOutcome}
    (set : target.password = some password)
    (stored : (storeWallet target.secretName bytes).Walk t r) :
    (materializeWallet target identity).Walk
      ([.store (.secretHasData target.secretName) (.ok false),
        .store (.readSecret password.name password.key) (.ok text),
        .remote (.downloadWallet identity text) (.answered bytes)] ++ t) r := by
  unfold materializeWallet
  refine Pass.walk_askStore_bind_iff.mpr ⟨_, _, rfl, ?_⟩
  simp only [set]
  refine Pass.walk_askStore_bind_iff.mpr ⟨_, _, rfl, ?_⟩
  exact Program.walk_bind_iff.mpr
    ⟨_, _, _, rfl, Program.walk_ask_done_iff.mpr ⟨_, rfl, rfl⟩, stored⟩

/-- Each of the ways can happen. -/
theorem Materialization.walk {target : WalletTarget} {identity : String}
    {r : Except WalletError WalletOutcome}
    (h : Materialization target identity t r) :
    (materializeWallet target identity).Walk t r := by
  cases h with
  | unchecked | present =>
    exact Pass.walk_askStore_bind_iff.mpr ⟨_, [], rfl, .done _⟩
  | passwordless unset =>
    exact Pass.walk_askStore_bind_iff.mpr ⟨_, [], rfl, by simp [unset]⟩
  | unread set =>
    refine Pass.walk_askStore_bind_iff.mpr ⟨_, _, rfl, ?_⟩
    simp only [set]
    exact Pass.walk_askStore_bind_iff.mpr ⟨_, [], rfl, .done _⟩
  | undelivered set failed =>
    refine Pass.walk_askStore_bind_iff.mpr ⟨_, _, rfl, ?_⟩
    simp only [set]
    refine Pass.walk_askStore_bind_iff.mpr ⟨_, _, rfl, ?_⟩
    refine Program.walk_bind_iff.mpr
      ⟨_, _, [], rfl, Program.walk_ask_done_iff.mpr ⟨_, rfl, rfl⟩, ?_⟩
    rw [failed]
    exact .done _
  | empty set empty =>
    exact walk_materializeWallet_of_delivered set (by simp [storeWallet, empty])
  | unwritten set full | written set full =>
    refine walk_materializeWallet_of_delivered set ?_
    unfold storeWallet
    rw [if_neg full]
    exact Pass.walk_askStore_bind_iff.mpr ⟨_, [], rfl, .done _⟩

/-! ## Exchanges that settle what comes of a wallet -/

section Unique

variable {target : WalletTarget} {identity identity' : String}
    {u u' : List PassEvent} {r r' : Except WalletError WalletOutcome}

/-- Two downloads with the same exchanges go the same way: the object that is
asked for shows in the exchanges. -/
theorem downloadWallet_unique {password : SecretKeyRef}
    (h : (downloadWallet name password identity).Walk t₁ r)
    (h' : (downloadWallet name password identity').Walk t₂ r')
    (htrace : t₁ ++ u = t₂ ++ u') : t₁ = t₂ ∧ r = r' ∧ u = u' := by
  unfold downloadWallet at h h'
  obtain ⟨answer, s₁, rfl, hrest⟩ := Pass.walk_askStore_bind_iff.mp h
  obtain ⟨answer', s₂, rfl, hrest'⟩ := Pass.walk_askStore_bind_iff.mp h'
  obtain ⟨hread, hafter⟩ := List.cons.inj htrace
  cases hread
  cases answer with
  | error e =>
    obtain ⟨rfl, rfl, rfl⟩ := hrest.unique hrest' hafter
    exact ⟨rfl, rfl, rfl⟩
  | ok text =>
    obtain ⟨t₃, result, t₄, rfl, hask, hlater⟩ := Program.walk_bind_iff.mp hrest
    obtain ⟨t₅, result', t₆, rfl, hask', hlater'⟩ :=
      Program.walk_bind_iff.mp hrest'
    obtain ⟨reply, rfl, rfl⟩ := Program.walk_ask_done_iff.mp hask
    obtain ⟨reply', rfl, rfl⟩ := Program.walk_ask_done_iff.mp hask'
    obtain ⟨hdownload, hend⟩ := List.cons.inj hafter
    cases hdownload
    obtain ⟨rfl, rfl, rfl⟩ := hlater.unique hlater' hend
    exact ⟨rfl, rfl, rfl⟩

/-- The exchanges settle what comes of a wallet and where that is over,
whichever object it is for. -/
theorem materializeWallet_unique
    (h : (materializeWallet target identity).Walk t₁ r)
    (h' : (materializeWallet target identity').Walk t₂ r')
    (htrace : t₁ ++ u = t₂ ++ u') : t₁ = t₂ ∧ r = r' ∧ u = u' := by
  unfold materializeWallet at h h'
  obtain ⟨answer, s₁, rfl, hrest⟩ := Pass.walk_askStore_bind_iff.mp h
  obtain ⟨answer', s₂, rfl, hrest'⟩ := Pass.walk_askStore_bind_iff.mp h'
  obtain ⟨hlook, hafter⟩ := List.cons.inj htrace
  cases hlook
  have hsame : s₁ = s₂ ∧ r = r' ∧ u = u' := by
    match answer with
    | .error e | .ok true => exact hrest.unique hrest' hafter
    | .ok false =>
      cases hpassword : target.password with
      | none =>
        simp only [hpassword] at hrest hrest'
        exact hrest.unique hrest' hafter
      | some password =>
        simp only [hpassword] at hrest hrest'
        exact downloadWallet_unique hrest hrest' hafter
  obtain ⟨rfl, rfl, rfl⟩ := hsame
  exact ⟨rfl, rfl, rfl⟩

end Unique

end DatabaseOperator
