import DatabaseOperator.Gateway.Body
import DatabaseOperator.Proofs.Coupling
import DatabaseOperator.Proofs.Pass.Teardown
import DatabaseOperator.Proofs.Pass.WriteAhead

/-!
# What credentials bear on

A pass reads Secrets for the name and the password of an administrator and for
the password of a wallet, and hands what it has read to the remote. Nothing else
depends on those texts: two passes over the same resource whose calls are
answered alike, but for other texts in the Secrets, make the same calls but for
the credentials in them, store the same statuses, and end the same way.

- `Pass.Credentials.Agree`, `Pass.coupled_carryOut`: an action that is sent with
  other credentials.
- `Pass.coupled_settle`: a wallet that is downloaded with another password.
- `Pass.coupled_run`, `Pass.credentials_unseen`: whole passes.
-/

namespace DatabaseOperator

namespace Pass

open Program (Coupled BothRead)

variable {p : Pass} {s : Status}

/-! ## Stages that read no Secret -/

theorem not_isSecretRead_of_looks {e : PassEvent} (h : Looks e) :
    ¬ IsSecretRead e := by
  rintro ⟨name, key, answer, rfl⟩
  cases h

theorem not_isSecretRead_of_walk_finish {g : Progress} {d : Duration}
    {t : List PassEvent} {r : Except OperatorError Outcome}
    (h : (finish g d).Walk t r) : ∀ e ∈ t, ¬ IsSecretRead e := by
  rintro e he ⟨name, key, answer, rfl⟩
  rcases walk_finish_iff.mp h with ⟨-, rfl, -⟩ | ⟨-, answer, rfl, -⟩
    <;> simp at he

theorem not_isSecretRead_of_walk_release {g : Progress} {t : List PassEvent}
    {r : Except OperatorError Outcome} (h : (release g).Walk t r) :
    ∀ e ∈ t, ¬ IsSecretRead e := by
  rintro e he ⟨name, key, answer, rfl⟩
  obtain ⟨answer, rfl, -⟩ := walk_release_iff.mp h
  simp at he

theorem ObjectTeardown.not_isSecretRead {id : String} {t : List PassEvent}
    {r : Except OperatorError Outcome} (h : p.ObjectTeardown s id t r) :
    ∀ e ∈ t, ¬ IsSecretRead e := by
  have looked {t₁ : List PassEvent}
      {found : Except RemoteError (Status × Option LifecycleState)}
      (located : (p.locate s id).Walk t₁ found) : ∀ e ∈ t₁, ¬ IsSecretRead e :=
    fun e he => not_isSecretRead_of_looks (looks_of_walk_locate located e he)
  cases h with
  | unread located _ ending | given located _ ending =>
    exact List.forall_mem_append.mpr
      ⟨looked located, not_isSecretRead_of_walk_finish ending⟩
  | gone located _ ending =>
    exact List.forall_mem_append.mpr
      ⟨looked located, not_isSecretRead_of_walk_release ending⟩
  | unmarked located =>
    refine List.forall_mem_append.mpr ⟨looked located, ?_⟩
    simp [IsSecretRead]
  | deleted located _ ending | kept located _ _ _ ending =>
    refine List.forall_mem_append.mpr ⟨looked located, ?_⟩
    simpa [IsSecretRead] using not_isSecretRead_of_walk_finish ending
  | vanished located _ _ ending =>
    refine List.forall_mem_append.mpr ⟨looked located, ?_⟩
    simpa [IsSecretRead] using not_isSecretRead_of_walk_release ending

/-- Deleting takes no credentials. -/
theorem Teardown.not_isSecretRead {t : List PassEvent}
    {r : Except OperatorError Outcome} (h : p.Teardown t r) :
    ∀ e ∈ t, ¬ IsSecretRead e := by
  have looked {t₁ : List PassEvent} {step : Step}
      (identified : (p.identify p.deletingStatus).Walk t₁ step) : ∀ e ∈ t₁,
        ¬ IsSecretRead e :=
    fun e he => not_isSecretRead_of_looks
      (looks_of_walk_identify identified e he)
  cases h with
  | detached _ ending => exact not_isSecretRead_of_walk_release ending
  | awaited _ identified ending =>
    exact List.forall_mem_append.mpr
      ⟨looked identified, not_isSecretRead_of_walk_finish ending⟩
  | objectless _ identified _ ending =>
    exact List.forall_mem_append.mpr
      ⟨looked identified, not_isSecretRead_of_walk_release ending⟩
  | known _ knows teardown =>
    exact List.forall_mem_append.mpr ⟨looked knows.1, teardown.not_isSecretRead⟩

theorem coupled_observeRemote (p : Pass) (s : Status) :
    Coupled Eq (p.observeRemote s) (p.observeRemote s) :=
  .self fun _ _ walk e he => not_isSecretRead_of_looks
    (looks_of_walk_observeRemote walk e he)

theorem coupled_finish (g : Progress) (d : Duration) :
    Coupled Eq (finish g d) (finish g d) :=
  .self fun _ _ walk => not_isSecretRead_of_walk_finish walk

/-! ## Sending -/

/-- Credentials without their texts. -/
def Credentials.redacted (c : Credentials) : Credentials where
  adminName := c.adminName.map fun _ => ""
  adminPassword := c.adminPassword.map fun _ => ""

/-- The credentials of two runs for one action: there are the same ones, and
none for an action that needs none. -/
def Credentials.Agree (action : CorrectiveAction) (c c' : Credentials) : Prop :=
  c.redacted = c'.redacted ∧ (action.createsObject = false → c = c')

theorem coupled_readReference (reference : Option SecretKeyRef) :
    Coupled (fun r r' => r.map (Option.map fun _ => "")
      = r'.map (Option.map fun _ => ""))
      (readReference reference) (readReference reference) := by
  cases reference with
  | none => exact .done rfl
  | some reference =>
    refine (Program.coupled_readSecret reference.name reference.key).bind
      fun r r' both => ?_
    cases r with
    | ok text =>
      cases r' with
      | ok text' => exact .done rfl
      | error e => cases both
    | error e =>
      cases r' with
      | ok text' => cases both
      | error e' =>
        cases both
        exact .done rfl

/-- Two runs that read credentials fail alike, or come to credentials that
agree. -/
def CredentialsRead (action : CorrectiveAction)
    (r r' : Except OperatorError Credentials) : Prop :=
  (∃ e, r = .error e ∧ r' = .error e)
    ∨ ∃ c c', r = .ok c ∧ r' = .ok c' ∧ Credentials.Agree action c c'

theorem coupled_readCredentials (p : Pass) (action : CorrectiveAction) :
    Coupled (CredentialsRead action) (p.readCredentials action)
      (p.readCredentials action) := by
  unfold readCredentials
  split
  next creates =>
    refine (coupled_readReference p.resource.adminName).bind
      fun name name' names => ?_
    match name, name' with
    | .error e, .error e' =>
      cases names
      exact .done (.inl ⟨e, rfl, rfl⟩)
    | .error _, .ok _ | .ok _, .error _ => cases names
    | .ok name, .ok name' =>
      refine (coupled_readReference p.resource.adminPassword).bind
        fun password password' passwords => ?_
      match password, password' with
      | .error e, .error e' =>
        cases passwords
        exact .done (.inl ⟨e, rfl, rfl⟩)
      | .error _, .ok _ | .ok _, .error _ => cases passwords
      | .ok password, .ok password' =>
        refine .done (.inr ⟨_, _, rfl, rfl, ?_, fun none => ?_⟩)
        · exact congrArg₂ Credentials.mk (Except.ok.inj names)
            (Except.ok.inj passwords)
        · simp [creates] at none
  next =>
    exact .done (.inr ⟨_, _, rfl, rfl, rfl, fun _ => rfl⟩)

/-- What the answer to a call amounts to is seen without credentials. -/
theorem answerOf_redacted (p : Pass) (call : RemoteCall)
    (reply : Reply call.Answer) :
    p.answerOf call.redacted (call.redactedReply reply)
      = p.answerOf call reply := by
  cases call <;> rfl

theorem answerOf_eq_of_redacted_eq {call call' : RemoteCall}
    {reply : Reply call.Answer} {reply' : Reply call'.Answer}
    (h : (Exchange.remote call reply).redacted
      = (Exchange.remote call' reply').redacted) :
    p.answerOf call reply = p.answerOf call' reply' := by
  have same {c c' : RemoteCall} {r : Reply c.Answer} {r' : Reply c'.Answer}
      (heq : Exchange.remote c r = Exchange.remote c' r') : p.answerOf c r
        = p.answerOf c' r' := by
    cases heq
    rfl
  rw [← answerOf_redacted, ← answerOf_redacted p call']
  exact same h

/-- Credentials that agree make the same call, but for their texts. -/
theorem callOf_agree {identity : Option String} {action : CorrectiveAction}
    {c c' : Credentials} (agree : Credentials.Agree action c c') :
    (p.callOf identity action c).map RemoteCall.redacted
      = (p.callOf identity action c').map RemoteCall.redacted := by
  obtain ⟨texts, same⟩ := agree
  cases action with
  | provision =>
    have hpassword := congrArg Credentials.adminPassword texts
    have hrequest :
        (p.provisionRequest c).redacted = (p.provisionRequest c').redacted := by
      simpa [provisionRequest, ProvisionRequest.redacted, Credentials.redacted]
        using hpassword
    unfold callOf provisionCall
    cases p.resource.cloneSource with
    | none => simp [RemoteCall.redacted, hrequest]
    | some source => simp [RemoteCall.redacted, hrequest]
  | pdb request =>
    cases hmakes : request.action.isProvisioning with
    | false => rw [same hmakes]
    | true =>
      have hname := congrArg Credentials.adminName texts
      have hpassword := congrArg Credentials.adminPassword texts
      have hrequest :
          (request.withCredentials c.adminName c.adminPassword).redacted
            = (request.withCredentials c'.adminName
              c'.adminPassword).redacted :=
        congrArg₂ request.withCredentials hname hpassword
      obtain ⟨kind⟩ := request
      cases kind <;> first
        | exact congrArg (fun r => some (RemoteCall.createPdb r)) hrequest
        | exact congrArg (fun r => some (RemoteCall.clonePdb r)) hrequest
        | exact congrArg (fun r => some (RemoteCall.plugPdb r)) hrequest
        | cases hmakes
  | bind | updateAttributes | changeState | delete => rfl

/-- Without its call an action is not sent at all. -/
theorem carryOut_of_callOf_eq_none {identity : Option String}
    {action : CorrectiveAction} {c : Credentials}
    (h : p.callOf identity action c = none) :
    p.carryOut identity action c
      = .done (.error (.permanent "no remote identity recorded")) := by
  cases action with
  | provision | bind | pdb => cases h
  | updateAttributes | changeState | delete =>
    obtain rfl := Option.map_eq_none_iff.mp h
    rfl

theorem coupled_carryOut (p : Pass) (identity : Option String)
    (action : CorrectiveAction) {c c' : Credentials}
    (agree : Credentials.Agree action c c') :
    Coupled Eq (p.carryOut identity action c)
      (p.carryOut identity action c') := by
  have hcalls : (p.callOf identity action c).map RemoteCall.redacted
      = (p.callOf identity action c').map RemoteCall.redacted :=
        callOf_agree agree
  cases hcall : p.callOf identity action c with
  | none =>
    rw [hcall] at hcalls
    rw [carryOut_of_callOf_eq_none hcall,
      carryOut_of_callOf_eq_none (Option.map_eq_none_iff.mp hcalls.symm)]
    exact .done rfl
  | some call =>
    rw [hcall] at hcalls
    obtain ⟨call', hcall', hredacted⟩ := Option.map_eq_some_iff.mp hcalls.symm
    intro t r t' r' walk walk' alike
    obtain ⟨reply, rfl, rfl⟩ := (walk_carryOut_iff hcall).mp walk
    obtain ⟨reply', rfl, rfl⟩ := (walk_carryOut_iff hcall').mp walk'
    have hhead := alike.head (congrArg PassCall.remote hredacted.symm)
    exact ⟨by rw [List.map_singleton, List.map_singleton, hhead],
      answerOf_eq_of_redacted_eq hhead⟩

theorem coupled_dispatch (p : Pass) (s persisted : Status)
    (action : CorrectiveAction) :
    Coupled Eq (p.dispatch s persisted action)
      (p.dispatch s persisted action) := by
  unfold dispatch
  refine (coupled_readCredentials p action).bind fun r r' read => ?_
  obtain ⟨e, rfl, rfl⟩ | ⟨c, c', rfl, rfl, agree⟩ := read
  · exact coupled_finish _ _
  · refine (Program.coupled_askStore (by simp)).bind fun answer answer' same =>
      ?_
    obtain rfl := same
    cases answer with
    | error e => exact .done rfl
    | ok _ =>
      refine (coupled_carryOut p _ action agree).bind fun result result' same =>
        ?_
      obtain rfl := same
      cases result <;> exact coupled_finish _ _

/-! ## Settling -/

theorem coupled_storeWallet (name : String) (bytes : ByteArray) :
    Coupled Eq (storeWallet name bytes) (storeWallet name bytes) := by
  unfold storeWallet
  split
  next => exact .done rfl
  next =>
    refine (Program.coupled_askStore (by simp)).bind fun answer answer' same =>
      ?_
    obtain rfl := same
    cases answer <;> exact .done rfl

/-- The password of a wallet goes into the call that downloads it, and nowhere
else. -/
theorem coupled_askWallet (timeout id text text' : String) :
    Coupled Eq (askRemote timeout (.downloadWallet id text))
      (askRemote timeout (.downloadWallet id text')) := by
  intro t r t' r' walk walk' alike
  obtain ⟨reply, rfl, rfl⟩ := Program.walk_ask_done_iff.mp walk
  obtain ⟨reply', rfl, rfl⟩ := Program.walk_ask_done_iff.mp walk'
  have hhead := alike.head rfl
  refine ⟨by rw [List.map_singleton, List.map_singleton, hhead], ?_⟩
  cases hhead
  rfl

theorem coupled_downloadWallet (name : String) (password : SecretKeyRef)
    (id : String) :
    Coupled Eq (downloadWallet name password id)
      (downloadWallet name password id) := by
  unfold downloadWallet
  refine (Program.coupled_readSecret password.name password.key).bind
    fun r r' both => ?_
  match r, r' with
  | .error e, .error e' =>
    cases both
    exact .done rfl
  | .error _, .ok _ | .ok _, .error _ => cases both
  | .ok text, .ok text' =>
    refine (coupled_askWallet _ id text text').bind fun wallet wallet' same =>
      ?_
    obtain rfl := same
    cases wallet with
    | error e => exact .done rfl
    | ok bytes => exact coupled_storeWallet name bytes

theorem coupled_materializeWallet (target : WalletTarget) (id : String) :
    Coupled Eq (materializeWallet target id) (materializeWallet target id) := by
  unfold materializeWallet
  refine (Program.coupled_askStore (by simp)).bind fun answer answer' same => ?_
  obtain rfl := same
  match answer with
  | .error e => exact .done rfl
  | .ok true => exact .done rfl
  | .ok false =>
    cases target.password with
    | none => exact .done rfl
    | some password =>
      exact coupled_downloadWallet target.secretName password id

theorem coupled_bringWallet (p : Pass) (s : Status) :
    Coupled Eq (p.bringWallet s) (p.bringWallet s) := by
  unfold bringWallet
  split
  next target id _ _ =>
    refine (coupled_materializeWallet target id).bind fun result result' same =>
      ?_
    obtain rfl := same
    cases result <;> exact .done rfl
  next => exact .done rfl

theorem coupled_settle (p : Pass) (s : Status) :
    Coupled Eq (p.settle s) (p.settle s) := by
  unfold settle
  simp only
  split
  next => exact .done rfl
  next state _ =>
    split
    next => exact .done rfl
    next s' _ =>
      split
      next =>
        refine (coupled_bringWallet p s').bind fun step step' same => ?_
        obtain rfl := same
        cases step <;> exact .done rfl
      next => exact .done rfl

/-! ## Whole passes -/

theorem coupled_act (p : Pass) (s persisted : Status)
    (action : CorrectiveAction) :
    Coupled Eq (p.act s persisted action) (p.act s persisted action) := by
  unfold act
  split
  next => exact coupled_finish _ _
  next =>
    simp only
    split
    next => exact coupled_dispatch p _ persisted action
    next => exact coupled_finish _ _
    next => exact coupled_finish _ _

/-- Two runs of a pass that are answered alike look alike, and end the same
way. -/
theorem coupled_run (p : Pass) : Coupled Eq p.run p.run := by
  cases hdel : p.resource.deletionRequested with
  | true =>
    exact .self fun _ _ walk => (teardown_of_walk hdel walk).not_isSecretRead
  | false =>
    rw [run_eq_of_stays hdel]
    refine (coupled_observeRemote p p.initialStatus).bind fun step step' same =>
      ?_
    obtain rfl := same
    unfold onward
    cases step with
    | stop s d => exact coupled_finish _ _
    | proceed seen =>
      simp only
      split
      next => exact coupled_finish _ _
      next s _ =>
        split
        next =>
          refine (coupled_settle p s).bind fun settled settled' same => ?_
          obtain rfl := same
          exact coupled_finish _ _
        next action _ => exact coupled_act p s p.resource.status action

/-- Credentials bear on nothing but the calls that they are meant for. Two runs
of a pass whose corresponding calls are answered alike, but for other texts in
the Secrets, have the same result; they store the same statuses, conditions
included, and make the same calls to the remote, but for the credentials in
them. -/
theorem credentials_unseen {t t' : List PassEvent}
    {r r' : Except OperatorError Outcome} (h : p.run.Walk t r)
    (h' : p.run.Walk t' r') (alike : AnsweredAlike t t') :
    r = r' ∧ t.map Exchange.redacted = t'.map Exchange.redacted
      ∧ t.filterMap Exchange.savedStatus? = t'.filterMap Exchange.savedStatus?
      ∧ (t.filterMap Exchange.remoteCall?).map RemoteCall.redacted
        = (t'.filterMap Exchange.remoteCall?).map RemoteCall.redacted
      ∧ ∀ (request : PdbRequest) (name password : Option String),
        (request.withCredentials name password).signature = request.signature
          ∧ Gateway.actionBody (request.withCredentials name password)
            = Gateway.actionBody request := by
  obtain ⟨htrace, hresult⟩ := coupled_run p t r t' r' h h' alike
  -- what is stored and what is called can be told without credentials
  have saved (u : List PassEvent) :
      u.filterMap Exchange.savedStatus?
        = (u.map Exchange.redacted).filterMap Exchange.savedStatus? := by
    rw [List.filterMap_map]
    exact congrArg (List.filterMap · u)
      (funext fun e => (Exchange.savedStatus?_redacted e).symm)
  have called (u : List PassEvent) :
      (u.filterMap Exchange.remoteCall?).map RemoteCall.redacted
        = (u.map Exchange.redacted).filterMap Exchange.remoteCall? := by
    rw [List.map_filterMap, List.filterMap_map]
    exact congrArg (List.filterMap · u)
      (funext fun e => (Exchange.remoteCall?_redacted e).symm)
  refine ⟨hresult, htrace, ?_, ?_, fun request name password => ⟨?_, ?_⟩⟩
  · rw [saved t, saved t', htrace]
  · rw [called t, called t', htrace]
  · exact request.signature_withCredentials name password
  · exact Gateway.actionBody_withCredentials request name password

end Pass

/-! ## A password of a database -/

/-- A store with one Secret, which holds the password of an administrator. -/
def passwordStore (text : String) : SimulatedStore :=
  { secrets :=
      Dict.ofList [("admin", Dict.ofList [("password", text.toUTF8)])] }

theorem passwordStore_sameButTexts {text text' : String} (h : text ≠ "")
    (h' : text' ≠ "") :
    (passwordStore text).SameButTexts (passwordStore text') where
  saved := rfl
  failures := rfl
  log := rfl
  secrets := by
    intro name
    unfold passwordStore
    rw [Dict.get?_ofList (by simp), Dict.get?_ofList (by simp)]
    by_cases hname : "admin" = name
    · subst hname
      rw [Dict.lookIn_cons_self, Dict.lookIn_cons_self]
      refine .some fun key => ?_
      rw [Dict.get?_ofList (by simp), Dict.get?_ofList (by simp)]
      by_cases hkey : "password" = key
      · subst hkey
        rw [Dict.lookIn_cons_self, Dict.lookIn_cons_self]
        exact .some (by simp [h, h'])
      · rw [Dict.lookIn_cons_of_ne hkey, Dict.lookIn_cons_of_ne hkey]
        exact .none
    · rw [Dict.lookIn_cons_of_ne hname, Dict.lookIn_cons_of_ne hname]
      exact .none

/-- A remote that makes the databases it is asked for, and answers nothing
else. -/
def makingRemote (s : Unit) (c : RemoteCall) : Reply c.Answer × Unit :=
  match c with
  | .create request =>
    (.answered
      { id := "ocid1", state := .provisioning,
        attributes := request.attributes }, s)
  | _ => (.hung, s)

/-- Its answers do not depend on credentials. -/
theorem redacted_makingRemote (c : RemoteCall) :
    (Exchange.remote c (makingRemote () c).1).redacted
      = Exchange.remote c.redacted (makingRemote () c.redacted).1 := by
  cases c <;> rfl

namespace Pass

/-- A pass over a new database whose password is in that Secret. -/
def passwordPass : Pass :=
  { firstPass with
    resource :=
      { firstPass.resource with
        adminPassword := some { name := "admin", key := "password" } } }

/-- That pass, with a text in the Secret. -/
def passwordTurn (text : String) : Turn :=
  .simulated (answerBeside makingRemote) passwordPass ((), passwordStore text)

/-- With two passwords it sends two different calls, and stores the same
statuses. -/
theorem passwordTurn_unseen :
    (passwordTurn "tiger").trace.filterMap Exchange.remoteCall?
        = [.create
          { attributes := { displayName := some "sales" }
            adminPassword := some "tiger"
            retryToken := some "sales-7" }]
      ∧ (passwordTurn "lion").trace.filterMap Exchange.remoteCall?
        = [.create
          { attributes := { displayName := some "sales" }
            adminPassword := some "lion"
            retryToken := some "sales-7" }]
      ∧ AnsweredAlike (passwordTurn "tiger").trace (passwordTurn "lion").trace
      ∧ (passwordTurn "tiger").result = (passwordTurn "lion").result
      ∧ (passwordTurn "tiger").trace.filterMap Exchange.savedStatus?
        = (passwordTurn "lion").trace.filterMap Exchange.savedStatus?
      ∧ ((passwordTurn "tiger").trace.filterMap Exchange.savedStatus?).length
        = 2 := by
  have stores : (passwordStore "tiger").SameButTexts (passwordStore "lion") :=
    passwordStore_sameButTexts (by decide) (by decide)
  have machines : AnswerAlike (fun s s' => s.1 = s'.1 ∧ s.2.SameButTexts s'.2)
      (answerBeside makingRemote) (answerBeside makingRemote) := by
    refine answerAlike_beside fun s s' c c' _ h => ⟨?_, rfl⟩
    rw [redacted_makingRemote c, redacted_makingRemote c', h]
  have alike : AnsweredAlike (passwordTurn "tiger").trace
      (passwordTurn "lion").trace := by
    refine answeredAlike_transcript machines ?_ passwordPass.run
      passwordPass.run
    exact ⟨rfl, stores⟩
  obtain ⟨hresult, -, hsaved, -, -⟩ :=
    credentials_unseen (passwordTurn "tiger").walk
      (passwordTurn "lion").walk alike
  refine ⟨?_, ?_, alike, hresult, hsaved, ?_⟩
  · decide +kernel
  · decide +kernel
  · decide +kernel

end Pass

end DatabaseOperator
