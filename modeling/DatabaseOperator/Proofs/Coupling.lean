import DatabaseOperator.Proofs.Dict
import DatabaseOperator.Proofs.Pass.Sending
import DatabaseOperator.Simulation.Store

/-!
# Programs that cannot be told apart by their Secrets

Two runs are compared that differ in what Secrets hold, and so in the
credentials of the calls they make. Without those the runs can look the same,
and whatever is the same in both does not depend on what the Secrets hold.

- `RemoteCall.redacted`, `Exchange.redacted`: what is left of a call, or of an
  exchange, without credentials.
- `AnsweredAlike`: two runs whose corresponding calls are answered alike.
- `Program.Coupled`: two programs that cannot be told apart by such runs. It
  passes from programs to their sequence, and a program that reads no Secret is
  coupled to itself.
- `answeredAlike_transcript`: machines that answer alike make such runs.
- `SimulatedStore.SameButTexts`, `answerAlike_beside`: stores that differ in the
  texts of their Secrets, each beside a remote, are such machines.
-/

namespace DatabaseOperator

/-! ## Calls without credentials -/

/-- What is sent to make a database, without the text of the password. Whether
there is one is left to be seen. -/
def ProvisionRequest.redacted (r : ProvisionRequest) : ProvisionRequest :=
  { r with adminPassword := r.adminPassword.map fun _ => "" }

/-- A request without the texts of its credentials. -/
def PdbRequest.redacted (r : PdbRequest) : PdbRequest :=
  r.withCredentials (r.adminName.map fun _ => "")
    (r.adminPassword.map fun _ => "")

namespace RemoteCall

/-- A call without the texts of its credentials. The calls that make an object
carry some, and so does the download of a wallet. -/
def redacted : RemoteCall → RemoteCall
  | create r => create r.redacted
  | cloneDatabase source r => cloneDatabase source r.redacted
  | downloadWallet id _ => downloadWallet id ""
  | createPdb r => createPdb r.redacted
  | clonePdb r => clonePdb r.redacted
  | plugPdb r => plugPdb r.redacted
  | call => call

/-- The reply to a call, as one to the call without credentials. -/
def redactedReply : (c : RemoteCall) → Reply c.Answer → Reply c.redacted.Answer
  | get _, r | list _, r | create _, r | cloneDatabase _ _, r | update _ _,
  r | changeState _ _, r | delete _, r
  | downloadWallet _ _, r | createPdb _, r | clonePdb _, r | plugPdb _,
  r | unplugPdb _, r | modifyPdb _, r
  | deletePdb _, r | mapPdb _, r => r

end RemoteCall

/-- A call of a pass without credentials. -/
def PassCall.redacted : PassCall → PassCall
  | remote call => remote call.redacted
  | store call => store call

namespace Exchange

/-- An exchange without credentials: neither what the remote was sent, nor what
a Secret was found to hold. -/
def redacted : PassEvent → PassEvent
  | ⟨.remote call, reply⟩ => ⟨.remote call.redacted, call.redactedReply reply⟩
  | ⟨.store (.readSecret name key), answer⟩ =>
    ⟨.store (.readSecret name key), answer.map fun _ => ""⟩
  | ⟨.store call, answer⟩ => ⟨.store call, answer⟩

theorem question_redacted (e : PassEvent) :
    e.redacted.question = e.question.redacted := by
  unfold redacted
  split <;> rfl

/-- The status that an exchange was to store. -/
def savedStatus? : PassEvent → Option Status
  | ⟨.store (.saveStatus s), _⟩ => some s
  | _ => none

/-- The call that an exchange made to the remote. -/
def remoteCall? : PassEvent → Option RemoteCall
  | ⟨.remote call, _⟩ => some call
  | _ => none

theorem savedStatus?_redacted (e : PassEvent) :
    e.redacted.savedStatus? = e.savedStatus? := by
  unfold redacted
  split <;> rfl

theorem remoteCall?_redacted (e : PassEvent) :
    e.redacted.remoteCall? = e.remoteCall?.map RemoteCall.redacted := by
  obtain ⟨question, answer⟩ := e
  cases question with
  | remote call => rfl
  | store call => cases call <;> rfl

end Exchange

/-! ## Runs that are answered alike -/

/-- As long as two runs have looked alike, and make calls that differ in
credentials at most, these are answered alike: only the text that is found in a
Secret may be another. -/
def AnsweredAlike (t t' : List PassEvent) : Prop :=
  ∀ before e after before' e' after', t = before ++ e :: after →
    t' = before' ++ e' :: after' →
      before.map Exchange.redacted = before'.map Exchange.redacted →
        e.question.redacted = e'.question.redacted → e.redacted = e'.redacted

namespace AnsweredAlike

variable {t₁ t₂ t₁' t₂' t t' : List PassEvent} {e e' : PassEvent}

theorem left (h : AnsweredAlike (t₁ ++ t₂) (t₁' ++ t₂')) :
    AnsweredAlike t₁ t₁' := by
  intro before e after before' e' after' ht ht'
  refine h before e (after ++ t₂) before' e' (after' ++ t₂') ?_ ?_
  · rw [ht, List.append_assoc, List.cons_append]
  · rw [ht', List.append_assoc, List.cons_append]

theorem right (h : AnsweredAlike (t₁ ++ t₂) (t₁' ++ t₂'))
    (alike : t₁.map Exchange.redacted = t₁'.map Exchange.redacted) :
    AnsweredAlike t₂ t₂' := by
  intro before e after before' e' after' ht ht' hbefore
  refine h (t₁ ++ before) e after (t₁' ++ before') e' after' ?_ ?_ ?_
  · rw [ht, List.append_assoc]
  · rw [ht', List.append_assoc]
  · rw [List.map_append, List.map_append, alike, hbefore]

theorem head (h : AnsweredAlike (e :: t) (e' :: t'))
    (question : e.question.redacted = e'.question.redacted) :
    e.redacted = e'.redacted :=
  h [] e t [] e' t' rfl rfl rfl question

theorem tail (h : AnsweredAlike (e :: t) (e' :: t'))
    (alike : e.redacted = e'.redacted) : AnsweredAlike t t' := by
  have hcons : AnsweredAlike ([e] ++ t) ([e'] ++ t') := h
  refine hcons.right ?_
  rw [List.map_singleton, List.map_singleton, alike]

end AnsweredAlike

/-! ## Programs that cannot be told apart -/

namespace Program

variable {α β γ δ : Type} {R : α → β → Prop} {Q : γ → δ → Prop}

/-- Runs of two programs that are answered alike look alike from beginning to
end, and have results that belong together. -/
def Coupled (R : α → β → Prop) (p : PassProgram α) (p' : PassProgram β) :
    Prop :=
  ∀ t a t' b, p.Walk t a → p'.Walk t' b → AnsweredAlike t t' →
    t.map Exchange.redacted = t'.map Exchange.redacted ∧ R a b

theorem Coupled.done {a : α} {b : β} (h : R a b) :
    Coupled R (done a) (done b) := by
  intro t a' t' b' walk walk' _
  obtain ⟨rfl, rfl⟩ := walk_done_iff.mp walk
  obtain ⟨rfl, rfl⟩ := walk_done_iff.mp walk'
  exact ⟨rfl, h⟩

/-- One program after another: what follows the first begins when the runs have
looked alike so far. -/
theorem Coupled.bind {p : PassProgram α} {p' : PassProgram β}
    {f : α → PassProgram γ} {f' : β → PassProgram δ} (first : Coupled R p p')
    (rest : ∀ a b, R a b → Coupled Q (f a) (f' b)) :
    Coupled Q (p >>= f) (p' >>= f') := by
  intro t c t' d walk walk' alike
  obtain ⟨t₁, a, t₂, rfl, h₁, h₂⟩ := walk_bind_iff.mp walk
  obtain ⟨t₁', b, t₂', rfl, h₁', h₂'⟩ := walk_bind_iff.mp walk'
  obtain ⟨hfirst, hab⟩ := first t₁ a t₁' b h₁ h₁' alike.left
  obtain ⟨hrest, hcd⟩ := rest a b hab t₂ c t₂' d h₂ h₂' (alike.right hfirst)
  exact ⟨by rw [List.map_append, List.map_append, hfirst, hrest], hcd⟩

/-- An exchange that is no look into a Secret tells its answer even without
credentials. -/
theorem eq_of_redacted_eq {question : PassCall} {a a' : question.Answer}
    (visible : ¬ Pass.IsSecretRead ⟨question, a⟩)
    (h : (⟨question, a⟩ : PassEvent).redacted
      = (⟨question, a'⟩ : PassEvent).redacted) : a = a' := by
  cases question with
  | remote call => cases call <;> (cases h; rfl)
  | store call =>
    cases call with
    | readSecret name key => exact absurd ⟨name, key, a, rfl⟩ visible
    | saveStatus | releaseFinalizer | secretHasData | writeSecret =>
      cases h
      rfl

/-- A program that reads no Secret cannot be told apart from itself. -/
theorem Coupled.self {p : PassProgram α}
    (unread : ∀ t a, p.Walk t a → ∀ e ∈ t, ¬ Pass.IsSecretRead e) :
    Coupled Eq p p := by
  induction p with
  | done a => exact .done rfl
  | ask question next ih =>
    intro t b t' b' walk walk' alike
    obtain ⟨answer, rest, rfl, hrest⟩ := walk_ask_iff.mp walk
    obtain ⟨answer', rest', rfl, hrest'⟩ := walk_ask_iff.mp walk'
    have hhead := alike.head rfl
    obtain rfl := eq_of_redacted_eq (unread _ _ walk _ List.mem_cons_self) hhead
    obtain ⟨htail, rfl⟩ := ih answer
      (fun u a hwalk e he => unread _ _ (.ask answer hwalk) e
        (List.mem_cons_of_mem _ he))
      rest b rest' b' hrest hrest' (alike.tail hhead)
    exact ⟨by rw [List.map_cons, List.map_cons, htail], rfl⟩

/-- A question to the store that is not for a Secret. -/
theorem coupled_askStore {call : StoreCall}
    (h : ∀ name key, call ≠ .readSecret name key) :
    Coupled Eq (askStore call) (askStore call) := by
  refine .self fun t answer walk e he => ?_
  obtain rfl := Pass.walk_askStore_iff.mp walk
  obtain rfl := List.mem_singleton.mp he
  rintro ⟨name, key, answer', heq⟩
  cases call with
  | readSecret name' key' => exact h name' key' rfl
  | saveStatus | releaseFinalizer | secretHasData | writeSecret => cases heq

/-- Two answers to a question for a Secret: either both have a text, or there is
the same failure. -/
def BothRead (r r' : Except OperatorError String) : Prop :=
  r.map (fun _ => "") = r'.map fun _ => ""

theorem coupled_readSecret (name key : String) :
    Coupled BothRead (askStore (.readSecret name key))
      (askStore (.readSecret name key)) := by
  intro t r t' r' walk walk' alike
  obtain rfl := Pass.walk_askStore_iff.mp walk
  obtain rfl := Pass.walk_askStore_iff.mp walk'
  have hhead := alike.head rfl
  refine ⟨by rw [List.map_singleton, List.map_singleton, hhead], ?_⟩
  simpa [Exchange.redacted, BothRead] using hhead

end Program

/-! ## Stores that differ in texts -/

section Machines

variable {σ σ' α β : Type} {R : σ → σ' → Prop}
    {answer : σ → (c : PassCall) → c.Answer × σ}
    {answer' : σ' → (c : PassCall) → c.Answer × σ'} {s : σ} {s' : σ'}

/-- Two machines in states that belong together answer calls alike that differ
in credentials at most, and come to states that belong together. -/
def AnswerAlike (R : σ → σ' → Prop) (answer : σ → (c : PassCall) → c.Answer × σ)
    (answer' : σ' → (c : PassCall) → c.Answer × σ') : Prop :=
  ∀ s s' c c', R s s' → c.redacted = c'.redacted →
    (⟨c, (answer s c).1⟩ : PassEvent).redacted
      = (⟨c', (answer' s' c').1⟩ : PassEvent).redacted
      ∧ R (answer s c).2 (answer' s' c').2

/-- What two such machines answer to two programs is answered alike. -/
theorem answeredAlike_transcript (machines : AnswerAlike R answer answer')
    (states : R s s') (p : PassProgram α) (p' : PassProgram β) :
    AnsweredAlike (p.transcript answer s) (p'.transcript answer' s') := by
  intro before
  induction before generalizing s s' p p' with
  | nil =>
    intro e after before' e' after' ht ht' hbefore question
    obtain rfl := List.map_eq_nil_iff.mp hbefore.symm
    cases p with
    | done => cases ht
    | ask c next =>
      cases p' with
      | done => cases ht'
      | ask c' next' =>
        obtain ⟨rfl, -⟩ := List.cons.inj ht
        obtain ⟨rfl, -⟩ := List.cons.inj ht'
        exact (machines s s' c c' states question).1
  | cons first before ih =>
    intro e after before' e' after' ht ht' hbefore question
    cases before' with
    | nil => cases hbefore
    | cons first' before' =>
      obtain ⟨hfirst, hlater⟩ := List.cons.inj hbefore
      cases p with
      | done => cases ht
      | ask c next =>
        cases p' with
        | done => cases ht'
        | ask c' next' =>
          obtain ⟨rfl, hrest⟩ := List.cons.inj ht
          obtain ⟨rfl, hrest'⟩ := List.cons.inj ht'
          -- the first calls looked alike, so the machines are still in states
          -- that belong together
          have hcall := congrArg Exchange.question hfirst
          rw [Exchange.question_redacted, Exchange.question_redacted] at hcall
          exact ih (machines s s' c c' states hcall).2 _ _ e after before' e'
            after' hrest hrest' hlater question

end Machines

namespace SimulatedStore

/-- Two Secrets have the same keys, and the same of them are empty. -/
def SameButText (data data' : Dict ByteArray) : Prop :=
  ∀ key, Option.Rel (fun bytes bytes' => bytes.size = 0 ↔ bytes'.size = 0)
    (data.get? key) (data'.get? key)

theorem SameButText.refl (data : Dict ByteArray) : SameButText data data := by
  intro key
  cases data.get? key with
  | none => exact .none
  | some bytes => exact .some Iff.rfl

theorem SameButText.symm {data data' : Dict ByteArray}
    (h : SameButText data data') : SameButText data' data := by
  intro key
  have hkey := h key
  generalize data.get? key = held, data'.get? key = held' at hkey ⊢
  cases hkey with
  | none => exact .none
  | some same => exact .some same.symm

/-- A Secret with content has it under the same key as the other one. -/
theorem SameButText.content {data data' : Dict ByteArray}
    (h : SameButText data data')
    (content : (data.values.any fun bytes => bytes.size != 0) = true) :
    (data'.values.any fun bytes => bytes.size != 0) = true := by
  obtain ⟨bytes, hmem, hfull⟩ := List.any_eq_true.mp content
  obtain ⟨key, hkey⟩ := Dict.mem_values_iff.mp hmem
  have hboth := h key
  rw [hkey] at hboth
  cases hboth' : data'.get? key with
  | none =>
    rw [hboth'] at hboth
    cases hboth
  | some bytes' =>
    rw [hboth'] at hboth
    cases hboth with
    | some same =>
      refine List.any_eq_true.mpr
        ⟨bytes', Dict.mem_values_iff.mpr ⟨key, hboth'⟩, ?_⟩
      simpa [same] using hfull

/-- Two stores differ in nothing but the texts in their Secrets. -/
structure SameButTexts (s s' : SimulatedStore) : Prop where
  saved : s.saved = s'.saved
  failures : s.failures = s'.failures
  log : s.log = s'.log
  secrets : ∀ name, Option.Rel SameButText (s.secrets.get? name)
    (s'.secrets.get? name)

namespace SameButTexts

variable {s s' : SimulatedStore}

theorem hasData_eq (h : s.SameButTexts s') (name : String) :
    s.hasData name = s'.hasData name := by
  have hname := h.secrets name
  unfold hasData
  generalize s.secrets.get? name = held, s'.secrets.get? name = held' at hname ⊢
  cases hname with
  | none => rfl
  | some same => exact Bool.eq_iff_iff.mpr ⟨same.content, same.symm.content⟩

theorem bothRead (h : s.SameButTexts s') (name key : String) :
    Program.BothRead (s.readSecret name key) (s'.readSecret name key) := by
  have hname := h.secrets name
  unfold readSecret
  generalize s.secrets.get? name = held, s'.secrets.get? name = held' at hname ⊢
  cases hname with
  | none => rfl
  | @some data data' same =>
    have hkey := same key
    simp only [Option.bind_some]
    generalize data.get? key = value, data'.get? key = value' at hkey ⊢
    cases hkey with
    | none => rfl
    | some => rfl

theorem insert (h : s.SameButTexts s') (name : String) (data : Dict ByteArray) :
    { s with secrets := s.secrets.insert name data }.SameButTexts
      { s' with secrets := s'.secrets.insert name data } where
  saved := h.saved
  failures := h.failures
  log := h.log
  secrets := by
    intro other
    by_cases hname : other = name
    · subst hname
      rw [Dict.get?_insert_self, Dict.get?_insert_self]
      exact .some (.refl data)
    · rw [Dict.get?_insert_of_ne hname, Dict.get?_insert_of_ne hname]
      exact h.secrets other

/-- Such stores answer alike, and go on as such stores. -/
theorem perform (h : s.SameButTexts s') (c : StoreCall) :
    (Exchange.store c (s.perform c).1).redacted
      = (Exchange.store c (s'.perform c).1).redacted
      ∧ (s.perform c).2.SameButTexts (s'.perform c).2 := by
  cases c with
  | saveStatus status => exact ⟨rfl, ⟨rfl, h.failures, h.log, h.secrets⟩⟩
  | releaseFinalizer => exact ⟨rfl, h⟩
  | readSecret name key =>
    refine ⟨?_, h⟩
    simpa [SimulatedStore.perform, Exchange.redacted, Program.BothRead]
      using h.bothRead name key
  | secretHasData name =>
    refine ⟨?_, h⟩
    simpa [SimulatedStore.perform, Exchange.redacted] using h.hasData_eq name
  | writeSecret name data => exact ⟨rfl, h.insert name data⟩

theorem dueFailure (h : s.SameButTexts s') (name : String) :
    (s.dueFailure name).1 = (s'.dueFailure name).1
      ∧ (s.dueFailure name).2.SameButTexts (s'.dueFailure name).2 := by
  unfold SimulatedStore.dueFailure
  rw [h.failures]
  split
  next due later _ => exact ⟨rfl, ⟨h.saved, rfl, h.log, h.secrets⟩⟩
  next => exact ⟨rfl, h⟩

theorem handle (h : s.SameButTexts s') (c : StoreCall) :
    (Exchange.store c (s.handle c).1).redacted
      = (Exchange.store c (s'.handle c).1).redacted
      ∧ (s.handle c).2.SameButTexts (s'.handle c).2 := by
  have noted : { s with log := c :: s.log }.SameButTexts
      { s' with log := c :: s'.log } :=
    ⟨h.saved, h.failures, congrArg (c :: ·) h.log, h.secrets⟩
  obtain ⟨hdue, hleft⟩ := noted.dueFailure c.name
  unfold SimulatedStore.handle
  generalize SimulatedStore.dueFailure { s with log := c :: s.log } c.name
    = found at hdue hleft ⊢
  generalize SimulatedStore.dueFailure { s' with log := c :: s'.log } c.name
    = found' at hdue hleft ⊢
  obtain ⟨due, left⟩ := found
  obtain ⟨due', left'⟩ := found'
  obtain rfl : due = due' := hdue
  cases due with
  | some e => exact ⟨rfl, hleft⟩
  | none => exact hleft.perform c

end SameButTexts

end SimulatedStore

/-! ## A remote beside such a store -/

/-- What a pass meets that has a remote and a store in memory. -/
def answerBeside {σ : Type} (remote : σ → (c : RemoteCall) → Reply c.Answer × σ)
    (s : σ × SimulatedStore) : (c : PassCall) → c.Answer × (σ × SimulatedStore)
  | .remote call => ((remote s.1 call).1, ((remote s.1 call).2, s.2))
  | .store call => ((s.2.handle call).1, (s.1, (s.2.handle call).2))

/-- Beside stores that differ in texts, remotes that answer alike make
surroundings that do. -/
theorem answerAlike_beside {σ σ' : Type} {R : σ → σ' → Prop}
    {remote : σ → (c : RemoteCall) → Reply c.Answer × σ}
    {remote' : σ' → (c : RemoteCall) → Reply c.Answer × σ'}
    (remotes : ∀ s s' c c', R s s' → c.redacted = c'.redacted →
      (Exchange.remote c (remote s c).1).redacted
        = (Exchange.remote c' (remote' s' c').1).redacted
          ∧ R (remote s c).2 (remote' s' c').2) :
    AnswerAlike (fun s s' => R s.1 s'.1 ∧ s.2.SameButTexts s'.2)
      (answerBeside remote) (answerBeside remote') := by
  intro s s' c c' states hcalls
  cases c with
  | remote call =>
    cases c' with
    | remote call' =>
      obtain ⟨hevent, hstate⟩ :=
        remotes s.1 s'.1 call call' states.1 (PassCall.remote.inj hcalls)
      exact ⟨hevent, hstate, states.2⟩
    | store call' => cases hcalls
  | store call =>
    cases c' with
    | remote call' => cases hcalls
    | store call' =>
      obtain rfl := PassCall.store.inj hcalls
      obtain ⟨hevent, hstore⟩ := states.2.handle call
      exact ⟨hevent, states.1, hstore⟩

end DatabaseOperator
