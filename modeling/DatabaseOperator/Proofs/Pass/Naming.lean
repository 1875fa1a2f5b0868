import DatabaseOperator.Proofs.Pass.Guard
import DatabaseOperator.Proofs.Pass.Settling

/-!
# The object that a pass is about

A pass finds out first which object it is about: the one on record, or one that
it adopts as the outcome of a lost create. From then on it names no other,
whatever the remote says of identities. Only a pass that knows of no object may
be told of one, by the answer to what it sends.

- `RemoteCall.subject?`: the object that a call changes, or whose wallet it
  fetches.
- `Pass.Learns`: the ways in which a pass comes to know an identity.
- `Pass.KeepsTo`: a pass names one object and records it, or learns of one.
- `Pass.keepsTo_of_walk`: every pass does.
- `Pass.identity_of_target`: a call that changes an object names the one that is
  stored at that time.
-/

namespace DatabaseOperator

namespace RemoteCall

/-- The object that a call changes, or whose wallet it fetches. -/
def subject? : RemoteCall → Option String
  | downloadWallet id _ => some id
  | call => call.target?

/-- The call makes an object, or maps one that exists. -/
def givesIdentity : RemoteCall → Bool
  | create _ | cloneDatabase _ _ | createPdb _ | clonePdb _ | plugPdb _
  | mapPdb _ => true
  | _ => false

end RemoteCall

theorem Looks.subject?_eq_none {call : RemoteCall} {reply : Reply call.Answer}
    (h : Looks (.remote call reply)) : call.subject? = none := by
  cases h <;> rfl

namespace Pass

variable {p : Pass} {t t₁ t₂ : List PassEvent}
    {r : Except OperatorError Outcome} {s : Status} {id : String}
    {known : Option String}

/-- The ways in which a pass comes to know an identity that was not on
record. -/
inductive Learns (p : Pass) (id : String) (t : List PassEvent) : Prop where
  /-- It was answered to a call that makes or maps an object. -/
  | answered {call : RemoteCall} {answer : call.Answer} {found : Snapshot}
      (gives : call.givesIdentity = true)
      (mem : .remote call (.answered answer) ∈ t)
      (reported : call.reported answer = some found) (same : found.id = id)
  /-- It is declared, and the object was found under it. -/
  | bound {found : Snapshot} (declared : p.resource.adoptIdentity = some id)
      (mem : .remote (.get id) (.answered found) ∈ t)
  /-- It belongs to the only live object that was listed under the name of the
  resource, while the mark of a create was stored. -/
  | adopted (adopts : p.Adopts id t)

/-- A pass keeps to the object that it knows: it names no other, and records no
other. Without one it names none, and records one that it has learned of as the
last thing it does. -/
structure KeepsTo (p : Pass) (known : Option String) (t : List PassEvent) :
    Prop where
  subject : ∀ {call : RemoteCall} {reply : Reply call.Answer} {id : String},
    .remote call reply ∈ t → call.subject? = some id → known = some id
  kept : ∀ {id : String} {s : Status}, known = some id → .saved s ∈ t →
    s.identity = some id
  learned : ∀ {id : String} {t₁ t₂ : List PassEvent} {s : Status}, known
    = none → t = t₁ ++ .saved s :: t₂ → s.identity = some id →
      p.Learns id t ∧ t₂ = []

/-- All that a pass stores that sends nothing knows the same object. -/
theorem KeepsTo.of_same
    (subject : ∀ {call : RemoteCall} {reply : Reply call.Answer} {id : String},
      .remote call reply ∈ t → call.subject? = some id → known = some id)
    (same : ∀ {s : Status}, .saved s ∈ t → s.identity = known) :
    p.KeepsTo known t where
  subject := subject
  kept hknown hs := (same hs).trans hknown
  learned hnone ht hid := by
    rw [same (ht ▸ List.mem_append_right _ (List.mem_cons_self ..)), hnone]
      at hid
    cases hid

/-! ## Observing -/

theorem subject?_of_looks (h : ∀ e ∈ t, Looks e) {call : RemoteCall}
    {reply : Reply call.Answer} (hmem : .remote call reply ∈ t) :
    call.subject? = none :=
  (h _ hmem).subject?_eq_none

/-- The search for a lost create leaves a pass without an object, or adopts
one. -/
theorem Recovery.adopts {step : Step}
    (hnone : p.resource.status.identity = none)
    (hbegin : s.Inherits p.resource.status) (h : p.Recovery s t₁ step) :
    step.status.identity = none
      ∨ ∃ id, step.status.identity = some id ∧ p.Adopts id (t₁ ++ t₂) := by
  have hunknown : s.identity = none := hbegin.1.trans hnone
  rcases h.inherits_or_adopts with hkept
    | ⟨pending, reply, found, hmark, hcreate, named, rfl, sole, rfl⟩
  · exact .inl (hkept.1.trans hunknown)
  · have hmarks : p.resource.status.MarksCreate :=
      Status.MarksCreate.of_inherits ⟨pending, hmark, hcreate⟩ hbegin
    exact .inr ⟨found.id, identity_observe_of_none hunknown found, hnone,
      hmarks, named, reply, found, t₂, rfl, sole, rfl⟩

/-- The object that a pass knows after it has looked is the one on record, or
one that it has adopted. -/
theorem identity_of_walk_observeRemote {step : Step}
    (h : (p.observeRemote p.initialStatus).Walk t₁ step) :
    step.status.identity = p.resource.status.identity
      ∨ ∃ id, step.status.identity = some id ∧ p.Adopts id (t₁ ++ t₂) := by
  cases hid : p.resource.status.identity with
  | some id => exact .inl ((inherits_of_walk_observeRemote hid h).1.trans hid)
  | none =>
    have hunknown : p.initialStatus.identity = none := hid
    have hbegin : p.initialStatus.Inherits p.resource.status := ⟨rfl, .inl rfl⟩
    exact ((walk_observeRemote_of_none hunknown).mp h).adopts hid hbegin

theorem identity_of_walk_identify {step : Step}
    (h : (p.identify p.deletingStatus).Walk t₁ step) :
    step.status.identity = p.resource.status.identity
      ∨ ∃ id, step.status.identity = some id ∧ p.Adopts id (t₁ ++ t₂) := by
  cases hid : p.resource.status.identity with
  | some id =>
    have hknown : p.deletingStatus.identity = some id := hid
    obtain ⟨-, rfl⟩ := (walk_identify_of_some (by rw [hknown]; rfl)).mp h
    exact .inl hknown
  | none =>
    have hunknown : p.deletingStatus.identity = none := hid
    have hbegin : p.deletingStatus.Inherits p.resource.status := ⟨rfl, .inl rfl⟩
    exact ((walk_identify_of_none hunknown).mp h).adopts hid hbegin

/-! ## Sending -/

/-- No action fetches a wallet. -/
theorem subject?_callOf {action : CorrectiveAction} {identity : Option String}
    {c : Credentials} {call : RemoteCall}
    (h : p.callOf identity action c = some call) :
    call.subject? = call.target? := by
  cases action with
  | provision =>
    cases h
    unfold provisionCall
    split <;> rfl
  | bind _ =>
    cases h
    rfl
  | updateAttributes _ | changeState _ | delete _ =>
    obtain ⟨_, -, rfl⟩ := Option.map_eq_some_iff.mp h
    rfl
  | pdb request =>
    cases h
    obtain ⟨action⟩ := request
    cases action <;> rfl

/-- An answer that reports an object gives its identity to a status without
one. -/
theorem identity_afterSuccess (hnone : s.identity = none)
    (action : CorrectiveAction) (found : Option Snapshot) :
    (p.afterSuccess s action found).1.identity = found.map Snapshot.id := by
  have hseen : ∀ found : Snapshot,
      (observe { s with consecutiveFailures := 0 } found).identity
        = some found.id :=
    identity_observe_of_none (s := { s with consecutiveFailures := 0 }) hnone
  unfold afterSuccess
  cases found with
  | none =>
    cases action with
    | pdb request => exact (inherits_completePdb _ request).1.trans hnone
    | _ => exact hnone
  | some found =>
    cases action with
    | pdb request =>
      exact (inherits_completePdb _ request).1.trans (hseen found)
    | _ => exact hseen found

/-- What a pass that knows of no object sends makes one, or maps one, or looks
for the one that is declared. -/
theorem givesIdentity_or_bind {action : CorrectiveAction} {c : Credentials}
    {call : RemoteCall} (first : p.resource.firstAction? = some action)
    (target : p.callOf none action c = some call) :
    call.givesIdentity = true
      ∨ ∃ id, p.resource.adoptIdentity = some id ∧ call = .get id := by
  rcases ManagedResource.firstAction?_cases first
    with rfl | ⟨id, declared, rfl⟩ | ⟨request, -, rfl, gives⟩
  · cases target
    unfold provisionCall
    split <;> exact .inl rfl
  · cases target
    exact .inr ⟨id, declared, rfl⟩
  · cases target
    obtain ⟨action⟩ := request
    cases action <;> first | exact .inl rfl | cases gives

/-- What the answer says of the object is learned. -/
theorem learns_of_answerOf {action : CorrectiveAction} {c : Credentials}
    {call : RemoteCall} {reply : Reply call.Answer} {found : Option Snapshot}
    (first : p.resource.firstAction? = some action)
    (target : p.callOf none action c = some call)
    (hmem : .remote call reply ∈ t) (answer : p.answerOf call reply = .ok found)
    (hid : found.map Snapshot.id = some id) : p.Learns id t := by
  obtain ⟨answer, rfl, hreported⟩ := answerOf_eq_ok_iff.mp answer
  obtain ⟨seen, rfl, rfl⟩ := Option.map_eq_some_iff.mp hid
  rcases givesIdentity_or_bind first target with gives | ⟨id, declared, rfl⟩
  · exact .answered gives hmem hreported rfl
  · cases hreported
    exact .bound declared hmem

/-! ## Whole passes -/

/-- A pass that ends with the object it knows keeps to that object. -/
theorem keepsTo_of_quits {d : Duration} (quiet : ∀ e ∈ t₁, p.Quiet e)
    (hid : s.identity = known)
    (subject : ∀ {call : RemoteCall} {reply : Reply call.Answer} {id : String},
      .remote call reply ∈ t₁ → call.subject? = some id → known = some id)
    (ending : (p.quits s d).Walk t₂ r) : p.KeepsTo known (t₁ ++ t₂) := by
  refine .of_same (fun hmem => ?_) fun hs => ?_
  · exact subject
      ((List.mem_append.mp hmem).resolve_right
        (remote_not_mem_of_walk_finish ending))
  · rw [eq_of_saved_mem_quits quiet ending hs, hid]

/-- Around a call that was marked, the mark is stored, and at the very end the
status that the pass has come to. -/
theorem eq_of_split_at_saved {call : RemoteCall} {reply : Reply call.Answer}
    {marked : Status} {g : Progress} {d : Duration}
    {before after : List PassEvent} (quiet : ∀ e ∈ t₁, p.Quiet e)
    (ending : (finish g d).Walk t₂ r)
    (ht : t₁ ++ .saved marked :: .remote call reply :: t₂
      = before ++ .saved s :: after) :
    s = marked ∨ s = g.status ∧ after = [] := by
  obtain ⟨rest, -, hrest⟩ :=
    split_of_not_mem ht (saveStatus_not_mem_of_quiet quiet)
  match rest, hrest with
  | [], hrest =>
    cases (List.cons.inj hrest).1
    exact .inl rfl
  | [_], hrest => cases (List.cons.inj (List.cons.inj hrest).2).1
  | _ :: _ :: rest, hrest =>
    -- the ending stores one status at most
    have hend : t₂ = rest ++ .saved s :: after :=
      (List.cons.inj (List.cons.inj hrest).2).2
    refine .inr ⟨eq_of_saved_mem_finish ending (by rw [hend]; simp), ?_⟩
    rcases walk_finish_iff.mp ending with ⟨-, rfl, -⟩ | ⟨-, answer, rfl, -⟩
    · simp at hend
    · exact (List.append_eq_singleton_iff.mp hend.symm).elim
        (fun h => (List.cons.inj h.2).2) fun h => by simp at h

/-- A pass that has sent an action keeps to the object that it sent it with. -/
theorem Sends.keepsTo {t₃ : List PassEvent} {action : CorrectiveAction}
    {c : Credentials} {call : RemoteCall} {reply : Reply call.Answer}
    (hdel : p.resource.deletionRequested = false) (sends : p.Sends t₁ s action)
    (credentials : (p.readCredentials action).Walk t₂ (.ok c))
    (target : p.callOf s.identity action c = some call)
    (ending : (p.sentEnding s action call reply).Walk t₃ r) :
    p.KeepsTo s.identity
      (t₁ ++ t₂
        ++ .saved (p.markDispatched s action) :: .remote call reply :: t₃) := by
  obtain ⟨seen, observed, needed, hkept⟩ := sends.inherits
  have quiet := sends.quiet_readCredentials credentials
  refine ⟨fun {call' reply' id} hmem hsubject => ?_, fun {id s'} hid hs => ?_,
    fun {id u₁ u₂ s'} hnone ht hid => ?_⟩
  · -- only the call of the action has a subject
    rcases List.mem_append.mp hmem with hmem | hmem
    · rcases List.mem_append.mp hmem with hmem | hmem
      · rw [subject?_of_looks (looks_of_walk_observeRemote observed) hmem]
          at hsubject
        cases hsubject
      · exact absurd hmem (remote_not_mem_of_walk_readCredentials credentials)
    · rcases List.mem_cons.mp (List.mem_of_ne_of_mem (by simp) hmem) with hmem
        | hmem
      · cases hmem
        exact target?_callOf target
          ((subject?_callOf target).symm.trans hsubject)
      · exact absurd hmem (remote_not_mem_of_walk_finish ending)
  · -- neither the mark nor the answer changes an identity on record
    have hmarked : (p.markDispatched s action).identity = some id := hid
    rcases eq_of_saved_mem_sent (saveStatus_not_mem_of_quiet quiet) ending hs
      with rfl | rfl
    · exact hmarked
    · exact (inherits_afterAnswer hmarked action _).1.trans hmarked
  · -- an identity that was not known when the action was sent is told by the
    -- answer
    have hunknown : (p.markDispatched s action).identity = none := hnone
    rcases eq_of_split_at_saved quiet ending ht with rfl | ⟨rfl, rfl⟩
    · rw [hunknown] at hid
      cases hid
    · refine ⟨?_, rfl⟩
      have hseen : seen.identity = none := hkept.1.symm.trans hnone
      rw [ManagedResource.nextAction?_of_unidentified hdel hseen] at needed
      rw [hnone] at target
      cases hanswer : p.answerOf call reply with
      | ok found =>
        rw [hanswer] at hid
        exact learns_of_answerOf needed target (by simp) hanswer
          ((identity_afterSuccess hunknown action found).symm.trans hid)
      | error e =>
        rw [hanswer] at hid
        rw [show (p.afterAnswer _ action (.error e)).1.identity = none from
          (inherits_afterFailure p _ action e).1.trans hunknown] at hid
        cases hid

/-- Looking around calls for no object in particular. -/
theorem subject_of_observed {step : Step} {call : RemoteCall}
    {reply : Reply call.Answer} {id : String}
    (observed : (p.observeRemote p.initialStatus).Walk t step)
    (hmem : .remote call reply ∈ t) (hsubject : call.subject? = some id) :
    known = some id := by
  rw [subject?_of_looks (looks_of_walk_observeRemote observed) hmem] at hsubject
  cases hsubject

/-- A pass that sends nothing asks for the wallet of the object that it has
observed, if for anything. -/
theorem Rests.keepsTo {d : Duration} (h : p.Rests t₁ s d)
    (ending : (p.quits s d).Walk t₂ r) :
    ∃ u₁ u₂ step, t₁ ++ t₂ = u₁ ++ u₂
      ∧ (p.observeRemote p.initialStatus).Walk u₁ step
      ∧ p.KeepsTo step.status.identity (t₁ ++ t₂) := by
  have quiet := h.quiet
  cases h with
  | stopped observed =>
    exact ⟨t₁, t₂, _, rfl, observed,
      keepsTo_of_quits quiet rfl (subject_of_observed observed) ending⟩
  | @held _ seen _ _ observed held =>
    have hkept := inherits_trackInFlight p seen (p.resource.nextAction? seen)
    rw [held] at hkept
    exact ⟨t₁, t₂, _, rfl, observed,
      keepsTo_of_quits quiet hkept.1 (subject_of_observed observed) ending⟩
  | @settled u₁ u₂ chosen _ _ needed settling =>
    obtain ⟨seen, observed, -, hkept⟩ := needed.inherits
    have hbegin : (p.completeOneShot (p.forgetObstacles chosen)).identity
        = seen.identity :=
      ((inherits_completeOneShot p _).trans
        ((inherits_forgetObstacles p chosen).trans hkept)).1
    refine ⟨u₁, u₂ ++ t₂, .proceed seen, List.append_assoc .., observed, ?_⟩
    refine keepsTo_of_quits quiet
      ((inherits_of_walk_settle settling).1.trans hkept.1)
      (fun hmem hsubject => ?_) ending
    rcases List.mem_append.mp hmem with hmem | hmem
    · exact subject_of_observed observed hmem hsubject
    · obtain ⟨id, text, rfl, hid⟩ := (settles_of_walk settling).eq_download hmem
      cases hsubject
      exact hbegin.symm.trans hid
  | @refrained u₁ u₂ chosen _ action _ needed reads kept =>
    obtain ⟨seen, observed, -, hkept⟩ := needed.inherits
    refine ⟨u₁, u₂ ++ t₂, .proceed seen, List.append_assoc .., observed, ?_⟩
    refine keepsTo_of_quits quiet (kept.trans hkept).1
      (fun hmem hsubject => ?_) ending
    rcases List.mem_append.mp hmem with hmem | hmem
    · exact subject_of_observed observed hmem hsubject
    · -- what else is called for is a Secret
      obtain ⟨_, _, _, hread⟩ := reads _ hmem
      cases hread

/-- Every pass over a resource that stays keeps to the object that it has
observed. -/
theorem Course.keepsTo (hdel : p.resource.deletionRequested = false)
    (h : p.Course t r) :
    ∃ t₁ t₂ step, t = t₁ ++ t₂ ∧ (p.observeRemote p.initialStatus).Walk t₁ step
      ∧ p.KeepsTo step.status.identity t := by
  cases h.conclusion with
  | rested rests ending => exact rests.keepsTo ending
  | @unmarked t₁ _ _ _ _ _ sends credentials =>
    -- nothing is stored, as the mark was refused
    obtain ⟨seen, observed, -, hkept⟩ := sends.inherits
    have quiet := sends.quiet_readCredentials credentials
    refine ⟨t₁, _, .proceed seen, List.append_assoc .., observed,
      .of_same (fun hmem hsubject => ?_) fun hs => ?_⟩
    · rw [List.append_assoc] at hmem
      rcases List.mem_append.mp hmem with hmem | hmem
      · exact subject_of_observed observed hmem hsubject
      · simp [remote_not_mem_of_walk_readCredentials credentials] at hmem
    · exact absurd hs
        (saved_not_mem_append_refused (saveStatus_not_mem_of_quiet quiet))
  | @sent t₁ _ _ s _ _ _ _ _ sends credentials target ending =>
    obtain ⟨seen, observed, -, hkept⟩ := sends.inherits
    refine ⟨t₁, _, .proceed seen, List.append_assoc .., observed, ?_⟩
    rw [show (Step.proceed seen).status.identity = s.identity
      from hkept.1.symm]
    exact sends.keepsTo hdel credentials target ending

/-- The teardown of an object that is known looks around, and deletes that
object. -/
theorem ObjectTeardown.looks_or_deletes {seen : Status} {call : RemoteCall}
    {reply : Reply call.Answer} (h : p.ObjectTeardown seen id t r)
    (hmem : .remote call reply ∈ t) :
    Looks (.remote call reply) ∨ call = .delete id := by
  -- around the mark there is one call, the delete
  have hsent : ∀ {t₁ t₂ : List PassEvent}
      {found : Except RemoteError (Status × Option LifecycleState)}
      {marked : Status} {answer : Reply Unit},
      (p.locate seen id).Walk t₁ found → .remote call reply ∉ t₂ →
        .remote call reply
          ∈ t₁ ++ .saved marked :: .remote (.delete id) answer :: t₂ →
            Looks (.remote call reply) ∨ call = .delete id := by
    intro t₁ t₂ found marked answer located hending hmem
    rcases List.mem_append.mp hmem with hmem | hmem
    · exact .inl (looks_of_walk_locate located _ hmem)
    · rcases List.mem_cons.mp (List.mem_of_ne_of_mem (by simp) hmem) with hmem
        | hmem
      · cases hmem
        exact .inr rfl
      · exact absurd hmem hending
  -- without a mark all calls come from locating the object
  cases h with
  | unread located _ ending | given located _ ending =>
    have hmem :=
      (List.mem_append.mp hmem).resolve_right
        (remote_not_mem_of_walk_finish ending)
    exact .inl (looks_of_walk_locate located _ hmem)
  | gone located _ ending =>
    have hmem :=
      (List.mem_append.mp hmem).resolve_right
        (remote_not_mem_of_walk_release ending)
    exact .inl (looks_of_walk_locate located _ hmem)
  | unmarked located =>
    exact .inl (looks_of_walk_locate located _ (by simpa using hmem))
  | deleted located _ ending | kept located _ _ _ ending =>
    exact hsent located (remote_not_mem_of_walk_finish ending) hmem
  | vanished located _ _ ending =>
    exact hsent located (remote_not_mem_of_walk_release ending) hmem

/-- A deletion keeps to the object that it has identified. If its object is to
stay, it has no word for any. -/
theorem Teardown.keepsTo (h : p.Teardown t r) :
    p.KeepsTo p.resource.status.identity t
      ∨ ∃ t₁ t₂ step, t = t₁ ++ t₂ ∧ (p.identify p.deletingStatus).Walk t₁ step
        ∧ p.KeepsTo step.status.identity t := by
  have hlooks : ∀ {t₁ : List PassEvent} {step : Step} {known : Option String}
      {call : RemoteCall} {reply : Reply call.Answer} {id : String},
      (p.identify p.deletingStatus).Walk t₁ step → .remote call reply ∈ t₁ →
        call.subject? = some id → known = some id := by
    intro t₁ step known call reply id identified hmem hsubject
    rw [subject?_of_looks (looks_of_walk_identify identified) hmem] at hsubject
    cases hsubject
  cases h with
  | detached _ ending =>
    -- nothing is called, and nothing stored
    refine .inl (.of_same (fun hmem => ?_) fun hs => ?_)
    · exact absurd hmem (remote_not_mem_of_walk_release ending)
    · exact absurd hs (saved_not_mem_release ending)
  | awaited _ identified ending =>
    refine .inr ⟨_, _, _, rfl, identified,
      .of_same (fun hmem => ?_) fun hs => ?_⟩
    · exact hlooks identified
        ((List.mem_append.mp hmem).resolve_right
          (remote_not_mem_of_walk_finish ending))
    · have quiet := quiet_of_walk_identify identified
      rw [eq_of_saved_mem_append_finish (saveStatus_not_mem_of_quiet quiet)
        ending hs]
      rfl
  | objectless _ identified _ ending =>
    refine .inr ⟨_, _, _, rfl, identified,
      .of_same (fun hmem => ?_) fun hs => ?_⟩
    · exact hlooks identified
        ((List.mem_append.mp hmem).resolve_right
          (remote_not_mem_of_walk_release ending))
    · have quiet := quiet_of_walk_identify identified
      exact absurd hs (saved_not_mem_append_release
        (saveStatus_not_mem_of_quiet quiet) ending)
  | @known t₁ t₂ seen id _ _ knows teardown =>
    -- only the teardown may name an object, and that is the one identified
    have hseen : (Step.proceed seen).status.identity = some id := knows.2
    refine .inr ⟨t₁, t₂, .proceed seen, rfl, knows.1,
      .of_same (fun hmem hsubject => ?_) fun hs => ?_⟩
    · rcases List.mem_append.mp hmem with hmem | hmem
      · exact hlooks knows.1 hmem hsubject
      · rcases teardown.looks_or_deletes hmem with hlooked | rfl
        · rw [hlooked.subject?_eq_none] at hsubject
          cases hsubject
        · exact hseen.trans hsubject
    · have hs := saved_mem_of_quiet (quiet_of_knows knows) hs
      rcases teardown.inherits knows.2 hs with hkept | hkept
      · exact hkept.1
      · exact hkept.1

/-- Every pass keeps to one object: the one on record, or one that it has
adopted. -/
theorem keepsTo_of_walk (h : p.run.Walk t r) :
    ∃ known, p.KeepsTo known t
      ∧ (known = p.resource.status.identity
        ∨ ∃ id, known = some id ∧ p.Adopts id t) := by
  cases hdel : p.resource.deletionRequested with
  | false =>
    obtain ⟨t₁, t₂, step, rfl, observed, keeps⟩ :=
      (course_of_walk hdel h).keepsTo hdel
    exact ⟨_, keeps, identity_of_walk_observeRemote observed⟩
  | true =>
    rcases (teardown_of_walk hdel h).keepsTo with keeps
      | ⟨t₁, t₂, step, rfl, identified, keeps⟩
    · exact ⟨_, keeps, .inl rfl⟩
    · exact ⟨_, keeps, identity_of_walk_identify identified⟩

/-- A call that changes an object names the one that is stored at that time. -/
theorem identity_of_target {before after : List PassEvent} {call : RemoteCall}
    {reply : Reply call.Answer} (s₀ : Status) (h : p.run.Walk t r)
    (ht : t = before ++ .remote call reply :: after)
    (htarget : call.target? = some id) :
    (storedAfter s₀ before).identity = some id := by
  -- a call that changes an object is an action, so its mark was stored right
  -- before it
  have hsent : ∃ action, p.sentBy (.remote call reply) = some action := by
    cases call <;> first | exact ⟨_, rfl⟩ | cases htarget
  obtain ⟨action, hsent⟩ := hsent
  obtain ⟨looked, marked, call', reply', rfl, hcall, hmarked⟩ :=
    sent_of_walk h ht hsent
  cases hcall
  have hstored : storedAfter s₀ (looked ++ [.saved marked]) = marked := by
    rw [storedAfter_append]
    rfl
  rw [hstored]
  exact hmarked.target htarget

end Pass

end DatabaseOperator
