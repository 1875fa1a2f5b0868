import DatabaseOperator.Proofs.Cluster.Carrying
import DatabaseOperator.Simulation.Store
import DatabaseOperator.Simulation.World

/-!
# Reconciliations that run at the same time

Nothing keeps two reconciliations of one database apart but the version of the
object. A reconciliation begins with a copy of the object, whose version it
names when it stores the mark of an action, and the API refuses a write over a
version that is not the current one. Since each write gives a version that the
object has not had before, the mark is stored only if no one has written the
object since it was read; and of all reconciliations that have read the same
version, one at most can store a mark, and send its action.

- `Deed`, `exchangesOf`: what happens to an object, and what of it belongs to
  one reconciliation.
- `Served`: histories of an object that is served with optimistic concurrency.
- `Served.unwritten`, `Served.eq_of_writes`: a version that is left does not
  come back.
- `Served.save_of_sends`: the write that comes before an action is sent.
- `one_sender_per_version`: all of it for any number of reconciliations, however
  their steps are interleaved.
-/

namespace DatabaseOperator

variable {ι : Type}

/-! ## Histories of an object -/

/-- Something that happens while some reconciliations run: one of them has a
call answered or, without an exchange, someone else does something. If an object
is written by it, that gives the object a version. -/
structure Deed (ι : Type) where
  exchange : Option (ι × OperatorEvent) := none
  written : Option String := none

/-- The exchange of a deed, if it is one of a given reconciliation. -/
def Deed.exchangeOf [DecidableEq ι] (i : ι) (deed : Deed ι) :
    Option OperatorEvent :=
  deed.exchange.bind fun (j, e) => if j = i then some e else none

/-- What one reconciliation has exchanged, in order. -/
def exchangesOf [DecidableEq ι] (i : ι) (deeds : List (Deed ι)) :
    List OperatorEvent :=
  deeds.filterMap (Deed.exchangeOf i)

/-- The versions that an object has had, in order. -/
def versions (v : String) (deeds : List (Deed ι)) : List String :=
  v :: deeds.filterMap Deed.written

/-- The version that an object has come to. -/
def versionAfter (v : String) (deeds : List (Deed ι)) : String :=
  deeds.foldl (fun v deed => deed.written.getD v) v

/-- The change that a call is to make to an object, if it is a patch of it. -/
def ClusterCall.patchOf? (object : ObjectRef) : ClusterCall → Option Json
  | patch o change | patchStatus o change =>
    if o = object then some change else none
  | get _ | apply _ _ => none

/-- The deed is a patch of an object. -/
def Deed.Patches (deed : Deed ι) (object : ObjectRef) (change : Json)
    (answer : Except ClusterError Json) : Prop :=
  ∃ i call, deed.exchange = some (i, ⟨.cluster call, answer⟩)
    ∧ call.patchOf? object = some change

/-- What may happen next to an object that is served with optimistic
concurrency. -/
structure Deed.Allowed (object : ObjectRef) (v : String) (past : List (Deed ι))
    (deed : Deed ι) : Prop where
  /-- Every write gives a version that the object has not had. -/
  fresh : ∀ w, deed.written = some w → w ∉ versions v past
  /-- A patch that is meant for another version than the current one is
  refused. -/
  stale : ∀ change answer w, deed.Patches object change answer →
    SimulatedCluster.version? change = some w → w ≠ versionAfter v past →
      (∃ reason message, answer = .error (.rejected 409 reason message))
        ∧ deed.written = none
  /-- A patch that is accepted is a write. -/
  accepted : ∀ change document, deed.Patches object change (.ok document) →
    deed.written.isSome = true

/-- Histories of an object that is served with optimistic concurrency and begins
with some version. -/
inductive Served (object : ObjectRef) (v : String) : List (Deed ι) → Prop where
  | start : Served object v []
  | step {deeds : List (Deed ι)} {deed : Deed ι} (past : Served object v deeds)
      (allowed : deed.Allowed object v deeds) :
      Served object v (deeds ++ [deed])

variable {object : ObjectRef} {v : String}
    {deeds before after early middle : List (Deed ι)} {deed : Deed ι}

/-- What is no call to the cluster's API, and writes nothing, may always
happen. -/
theorem Deed.allowed_of_aside (hwritten : deed.written = none)
    (hother : ∀ i call answer,
      deed.exchange ≠ some (i, ⟨.cluster call, answer⟩)) :
    deed.Allowed object v deeds := by
  have hpatch : ∀ change answer, ¬ deed.Patches object change answer :=
    fun _ answer ⟨i, call, hexchange, _⟩ => hother i call answer hexchange
  exact ⟨by simp [hwritten], fun _ _ _ h => absurd h (hpatch _ _), fun _ _ h =>
    absurd h (hpatch _ _)⟩

/-- So may a conflict. -/
theorem Deed.allowed_of_conflict (i : ι) (call : ClusterCall)
    (reason message : String) :
    Deed.Allowed object v deeds
      ⟨some (i, ⟨.cluster call, .error (.rejected 409 reason message)⟩),
        none⟩ := by
  refine ⟨by simp, ?_, ?_⟩
  · rintro change answer w ⟨_, _, hexchange, -⟩ - -
    cases hexchange
    exact ⟨⟨reason, message, rfl⟩, rfl⟩
  · rintro change document ⟨_, _, hexchange, -⟩
    cases hexchange

/-- A patch over the current version may be accepted. -/
theorem Deed.allowed_of_current {call : ClusterCall} {change : Json}
    {w : String} (i : ι) (document : Json)
    (hpatch : call.patchOf? object = some change)
    (hcurrent : SimulatedCluster.version? change = some (versionAfter v deeds))
    (fresh : w ∉ versions v deeds) :
    Deed.Allowed object v deeds ⟨some (i, ⟨.cluster call, .ok document⟩),
      some w⟩ := by
  refine ⟨?_, ?_, fun _ _ _ => rfl⟩
  · rintro _ ⟨⟩
    exact fresh
  · rintro change' answer w' ⟨_, _, hexchange, hpatch'⟩ hversion hstale
    cases hexchange
    rw [hpatch] at hpatch'
    obtain rfl := Option.some.inj hpatch'
    exact absurd (Option.some.inj (hversion.symm.trans hcurrent)) hstale

theorem versionAfter_concat (v : String) (deeds : List (Deed ι))
    (deed : Deed ι) :
    versionAfter v (deeds ++ [deed])
      = deed.written.getD (versionAfter v deeds) := by
  simp [versionAfter]

theorem versions_append (v : String) (deeds later : List (Deed ι)) :
    versions v (deeds ++ later)
      = versions v deeds ++ later.filterMap Deed.written := by
  simp [versions]

/-- The last version is one of the versions. -/
theorem versionAfter_mem_versions (v : String) (deeds : List (Deed ι)) :
    versionAfter v deeds ∈ versions v deeds := by
  induction deeds generalizing v with
  | nil => exact List.mem_singleton_self v
  | cons deed deeds ih =>
    show versionAfter (deed.written.getD v) deeds
      ∈ v :: (deed :: deeds).filterMap Deed.written
    rw [List.filterMap_cons]
    cases deed.written with
    | none => exact ih v
    | some w => exact List.mem_cons_of_mem v (ih w)

/-- Every deed was allowed after those before it. -/
theorem Served.allowed (h : Served object v deeds) :
    ∀ before deed after, deeds = before ++ deed :: after →
      Deed.Allowed object v before deed := by
  induction h with
  | start => simp
  | step past allowed ih => exact forall_split_concat_iff.mpr ⟨ih, allowed⟩

/-- After a write the object has none of the versions that it had before. -/
theorem Served.versionAfter_not_mem (h : Served object v deeds)
    (hsplit : deeds = early ++ middle)
    (hwritten : ∃ deed ∈ middle, deed.written ≠ none) :
    versionAfter v deeds ∉ versions v early := by
  induction h generalizing middle with
  | start =>
    obtain ⟨deed, hdeed, -⟩ := hwritten
    rw [(List.append_eq_nil_iff.mp hsplit.symm).2] at hdeed
    cases hdeed
  | @step deeds last _ allowed ih =>
    rcases concat_eq_append_cases hsplit with ⟨rfl, -⟩ | ⟨rest, rfl, hdeeds⟩
    · obtain ⟨deed, hdeed, -⟩ := hwritten
      cases hdeed
    · rw [versionAfter_concat]
      cases hw : last.written with
      | some w =>
        intro hmem
        refine allowed.fresh w hw ?_
        rw [hdeeds, versions_append]
        exact List.mem_append_left _ hmem
      | none =>
        obtain ⟨deed, hdeed, hwrite⟩ := hwritten
        refine ih hdeeds ⟨deed, ?_, hwrite⟩
        rcases List.mem_append.mp hdeed with hdeed | hdeed
        · exact hdeed
        · rw [List.mem_singleton.mp hdeed] at hwrite
          exact absurd hw hwrite

/-- If the object has a version at two times, no one has written it in
between. -/
theorem Served.unwritten (h : Served object v (early ++ middle))
    (hsame : versionAfter v early = versionAfter v (early ++ middle)) :
    ∀ deed ∈ middle, deed.written = none := by
  intro deed hdeed
  refine Classical.byContradiction fun hwritten => ?_
  refine h.versionAfter_not_mem rfl ⟨deed, hdeed, hwritten⟩ ?_
  rw [← hsame]
  exact versionAfter_mem_versions v early

theorem Served.earlier (h : Served object v deeds)
    (hsplit : deeds = early ++ middle) : Served object v early := by
  induction h generalizing middle with
  | start =>
    rw [(List.append_eq_nil_iff.mp hsplit.symm).1]
    exact .start
  | step past allowed ih =>
    rcases concat_eq_append_cases hsplit with ⟨-, rfl⟩ | ⟨rest, -, hdeeds⟩
    · exact .step past allowed
    · exact ih hdeeds

/-- Two writes over the same version are one. -/
theorem Served.eq_of_writes {save save' : Deed ι}
    {early' later later' : List (Deed ι)} (h : Served object v deeds)
    (hsplit : deeds = early ++ save :: later)
    (hsplit' : deeds = early' ++ save' :: later')
    (hwritten : save.written ≠ none) (hwritten' : save'.written ≠ none)
    (hsame : versionAfter v early = versionAfter v early') : save = save' := by
  have hboth := hsplit.symm.trans hsplit'
  rcases List.append_eq_append_iff.mp hboth with ⟨between, hearly, hrest⟩
    | ⟨between, hearly, hrest⟩
  · cases between with
    | nil => exact (List.cons.inj hrest).1
    | cons first between =>
      obtain ⟨rfl, -⟩ := List.cons.inj hrest
      have hpast : Served object v (early ++ save :: between) := by
        rw [← hearly]; exact h.earlier hsplit'
      exact absurd
        (hpast.unwritten (by rw [← hearly, hsame]) save (List.mem_cons_self ..))
        hwritten
  · cases between with
    | nil => exact (List.cons.inj hrest).1.symm
    | cons first between =>
      obtain ⟨rfl, -⟩ := List.cons.inj hrest
      have hpast : Served object v (early' ++ save' :: between) := by
        rw [← hearly]; exact h.earlier hsplit
      exact absurd
        (hpast.unwritten (by rw [← hearly, hsame]) save'
          (List.mem_cons_self ..)) hwritten'

/-! ## Reconciliations of an object -/

/-- The exchanges are those of a reconciliation that has come to its end, or has
not yet. -/
def Reconciliation.Begins (r : Reconciliation) (u : List OperatorEvent) :
    Prop :=
  ∃ rest driven, r.run.Walk (u ++ rest) driven

/-- A reconciliation looks at a copy of an object, which was read at some
version. -/
structure Reconciliation.LooksAt (r : Reconciliation) (object : ObjectRef)
    (version : String) : Prop where
  kind : r.database.kind.objectKind = object.kind
  namespaceName : r.database.metadata.namespaceName = some object.namespaceName
  name : r.database.metadata.anyName = object.name
  version : r.database.metadata.resourceVersion = some version

/-- Such a reconciliation stores a status in the object, over that version. -/
theorem Reconciliation.LooksAt.savePatch_eq {r : Reconciliation} {w : String}
    {store : ClusterStore} (h : r.LooksAt object w)
    (hstore : ClusterStore.ofDatabase? r.database = .ok store)
    (status : Status) :
    store.savePatch status
      = .patchStatus object (statusPatch status (some w)) := by
  unfold ClusterStore.ofDatabase? Metadata.requireNamespace at hstore
  rw [h.namespaceName] at hstore
  obtain rfl := Except.ok.inj hstore
  show ClusterCall.patchStatus ⟨_, _, _⟩ (statusPatch status _) = _
  rw [h.kind, h.name, h.version]

/-- By a deed one of some reconciliations sends an action. -/
def Deed.Sends (deed : Deed ι) (looks : ι → Reconciliation) (i : ι)
    (action : CorrectiveAction) : Prop :=
  ∃ e, deed.exchange = some (i, e) ∧ (looks i).sentBy e = some action

/-- By a deed one of some reconciliations has stored the mark of an action in an
object, over some version of it. -/
def Deed.Marks (deed : Deed ι) (object : ObjectRef) (w : String) (i : ι)
    (pending : PendingAction) : Prop :=
  ∃ marked document,
    deed.exchange
      = some (i, ⟨.cluster (.patchStatus object (statusPatch marked (some w))),
        .ok document⟩)
      ∧ marked.inFlight = some pending

/-- The patch of a status names the version that it is meant for. -/
theorem version?_statusPatch (status : Status) (w : String) :
    SimulatedCluster.version? (statusPatch status (some w)) = some w :=
  rfl

variable [DecidableEq ι] {looks : ι → Reconciliation} {i : ι} {w : String}
    {action : CorrectiveAction}

theorem exchangeOf_eq_some_iff {e : OperatorEvent} :
    deed.exchangeOf i = some e ↔ deed.exchange = some (i, e) := by
  unfold Deed.exchangeOf
  constructor
  · intro h
    obtain ⟨⟨j, e'⟩, hexchange, hsame⟩ := Option.bind_eq_some_iff.mp h
    obtain ⟨hji, he⟩ := Option.ite_none_right_eq_some.mp hsame
    rw [hexchange, hji, Option.some.inj he]
  · intro h
    rw [h]
    simp

/-- Before a reconciliation sends an action, it has stored its mark over the
version that it has read, which was the current one then. -/
theorem Served.save_of_sends (served : Served object v deeds)
    (run : (looks i).Begins (exchangesOf i deeds))
    (hlook : (looks i).LooksAt object w)
    (hsplit : deeds = before ++ deed :: after)
    (hsends : deed.Sends looks i action) :
    ∃ early save later, before = early ++ save :: later
      ∧ save.Marks object w i
        { signature := action.signature, since := (looks i).now.timestamp }
      ∧ save.written ≠ none ∧ versionAfter v early = w := by
  obtain ⟨e, hexchange, hsent⟩ := hsends
  obtain ⟨rest, driven, walk⟩ := run
  have htrace : exchangesOf i deeds ++ rest
      = exchangesOf i before ++ e :: (exchangesOf i after ++ rest) := by
    rw [hsplit]
    simp [exchangesOf, exchangeOf_eq_some_iff.mpr hexchange]
  obtain ⟨store, looked, marked, document, hstore, hlooked, hmark⟩ :=
    Reconciliation.save_before_send walk htrace hsent
  rw [hlook.savePatch_eq hstore] at hlooked
  -- the patch of the mark, among all that has happened
  obtain ⟨early, later, rfl, -, hlater⟩ :=
    List.filterMap_eq_append_iff.mp hlooked
  obtain ⟨others, save, later, rfl, hothers, hsave, -⟩ :=
    List.filterMap_eq_cons_iff.mp hlater
  have hsave := exchangeOf_eq_some_iff.mp hsave
  have hpatches :
      save.Patches object (statusPatch marked (some w)) (.ok document) :=
    ⟨i, _, hsave, by simp [ClusterCall.patchOf?]⟩
  have allowed : save.Allowed object v (early ++ others) := by
    have hsplit :
        deeds = (early ++ others) ++ save :: (later ++ deed :: after) := by
      rw [hsplit]
      simp
    exact served.allowed _ _ _ hsplit
  refine ⟨early ++ others, save, later, (List.append_assoc ..).symm,
    ⟨marked, document, hsave, hmark⟩, ?_, ?_⟩
  · exact Option.isSome_iff_ne_none.mp (allowed.accepted _ _ hpatches)
  · refine Classical.byContradiction fun hstale => ?_
    obtain ⟨⟨_, _, hrefused⟩, -⟩ :=
      allowed.stale _ _ w hpatches (version?_statusPatch marked w) fun hsame =>
        hstale hsame.symm
    cases hrefused

/-- **One sender for each version.** Let an object be served with optimistic
concurrency, and any number of reconciliations run at the same time, their steps
interleaved with each other and with those of anyone else. Then

1. a reconciliation sends an action only after it has stored the mark of this
   action, and when it did so, the object had the version that the
   reconciliation has read: since any time at which it had this version, no one
   had written it;
2. of all reconciliations that have read the same version, one at most sends an
   action. -/
theorem one_sender_per_version (served : Served object v deeds)
    (runs : ∀ i, (looks i).Begins (exchangesOf i deeds)) :
    (∀ (i : ι) (w : String) (before after : List (Deed ι)) (deed : Deed ι)
        (action : CorrectiveAction),
      (looks i).LooksAt object w → deeds = before ++ deed :: after →
        deed.Sends looks i action →
          ∃ early save later, before = early ++ save :: later
            ∧ save.Marks object w i
              { signature := action.signature,
                since := (looks i).now.timestamp }
            ∧ versionAfter v early = w
            ∧ ∀ read since, early = read ++ since → versionAfter v read = w →
              ∀ deed ∈ since, deed.written = none)
      ∧ ∀ (i j : ι) (w : String) (deed deed' : Deed ι)
          (action action' : CorrectiveAction),
        (looks i).LooksAt object w → (looks j).LooksAt object w →
          deed ∈ deeds → deed' ∈ deeds →
            deed.Sends looks i action → deed'.Sends looks j action' → i = j := by
  refine ⟨?_, ?_⟩
  · intro i w before after deed action hlook hsplit hsends
    obtain ⟨early, save, later, rfl, hmarks, -, hversion⟩ :=
      served.save_of_sends (runs i) hlook hsplit hsends
    refine ⟨early, save, later, rfl, hmarks, hversion, ?_⟩
    rintro read since rfl hread
    have hpast : Served object v (read ++ since) :=
      served.earlier (by rw [hsplit, List.append_assoc])
    exact hpast.unwritten (hread.trans hversion.symm)
  · intro i j w deed deed' action action' hlook hlook' hmem hmem' hsends hsends'
    obtain ⟨before, after, hsplit⟩ := List.append_of_mem hmem
    obtain ⟨before', after', hsplit'⟩ := List.append_of_mem hmem'
    obtain ⟨early, save, later, rfl, ⟨_, _, hsave, -⟩, hwritten, hversion⟩ :=
      served.save_of_sends (runs i) hlook hsplit hsends
    obtain ⟨early', save', later', rfl, ⟨_, _, hsave', -⟩, hwritten',
        hversion'⟩ :=
      served.save_of_sends (runs j) hlook' hsplit' hsends'
    rw [List.append_assoc] at hsplit hsplit'
    have hsame := served.eq_of_writes hsplit hsplit' hwritten hwritten'
      (hversion.trans hversion'.symm)
    rw [hsame, hsave'] at hsave
    exact (Prod.mk.inj (Option.some.inj hsave)).1.symm

/-! ## A race -/

/-- A database that has just been declared, as the API holds it at some
version. -/
def declaredDatabase (version : String) : ManagedDatabase :=
  .autonomous
    { metadata :=
        { name := some "sales"
          namespaceName := some "default"
          uid := some "7"
          resourceVersion := some version
          finalizers := some [ResourceKind.autonomousDatabase.finalizer] }
      spec :=
        { details := { displayName := some "sales" },
          settings := { configMapName := "c", secretName := "s" } } }

/-- The object that it is. -/
def declaredObject : ObjectRef where
  kind := .autonomousDatabase
  namespaceName := "default"
  name := "sales"

/-- A reconciliation that looks at it. -/
def racer : Reconciliation where
  settings := {}
  database := declaredDatabase "7"
  now := ⟨1700000000, 0⟩

/-- Its store, with the version last seen. -/
def racerStore (version : String) : ClusterStore where
  kind := .autonomousDatabase
  namespaceName := "default"
  name := "sales"
  owner := .ofMetadata "AutonomousDatabase" (declaredDatabase "7").metadata
  version := some version

theorem send_racerStore (version : String) (status : Status) :
    ((racerStore version).savePatch status).send
      = Program.query ((racerStore version).savePatch status) := by
  -- the address does not depend on the status
  have hsome :
      (RequestTarget.ofText (declaredObject.path ++ "/status?")).toOption.isSome
        = true := by decide +kernel
  cases htarget : RequestTarget.ofText (declaredObject.path ++ "/status?") with
  | error fault =>
    rw [htarget] at hsome
    cases hsome
  | ok target => exact ClusterCall.send_eq_query rfl htarget

/-- A status that the API has stored is answered with the object in its new
version. -/
theorem walk_saveStatus_racerStore (version newer : String) (status : Status) :
    ((racerStore version).saveStatus status).Walk
      [⟨(racerStore version).savePatch status,
        .ok (declaredDatabase newer).toJson⟩] (.ok (), racerStore newer) := by
  obtain ⟨m, hread, hversion⟩ : ∃ m, (racerStore version).metadata?
    (declaredDatabase newer).toJson = some m
      ∧ m.resourceVersion = some newer := ⟨_, rfl, rfl⟩
  have hwalk :=
    ClusterStore.walk_saveStatus_of_answered
      (send_racerStore version status) hread
  rw [hversion] at hwalk
  exact hwalk

/-- A racer that is served stores its mark, sends a create, and stores what came
of it. -/
theorem racer_wins : ∃ marked request found done driven, racer.run.Walk
    [⟨.connect racer.database, .ok none⟩,
      ⟨.cluster (.patchStatus declaredObject (statusPatch marked (some "7"))),
        .ok (declaredDatabase "8").toJson⟩,
      ⟨.remote (.create request), .answered found⟩,
      ⟨.cluster (.patchStatus declaredObject (statusPatch done (some "8"))),
        .ok (declaredDatabase "9").toJson⟩]
    driven := by
  obtain ⟨marked, request, found, done, result, walk⟩ :
      ∃ marked request found done result, (racer.passOver none).run.Walk
        [.saved marked, .remote (.create request) (.answered found),
          .saved done] result :=
    ⟨_, _, _, _, _, Program.walk_transcript Simulation.answer _ {}⟩
  have hmark :=
    ClusterProgram.walk_toOperator_iff.mpr
      ⟨_, walk_saveStatus_racerStore "7" "8" marked, rfl⟩
  have hdone :=
    ClusterProgram.walk_toOperator_iff.mpr
      ⟨_, walk_saveStatus_racerStore "8" "9" done, rfl⟩
  have answering : Program.Answering ClusterStore.answer (racerStore "7")
      [.saved marked, .remote (.create request) (.answered found), .saved done]
        _ (racerStore "9") :=
    .cons hmark (.cons (.ask _ (.done _)) (.cons hdone (.nil _)))
  exact ⟨marked, request, found, done, _,
    Reconciliation.walk_run_of_pass rfl rfl rfl walk answering⟩

/-- A racer whose write of the mark is refused ends with that. -/
theorem racer_loses (e : ClusterError) : ∃ marked driven, racer.run.Walk
    [⟨.connect racer.database, .ok none⟩,
      ⟨.cluster (.patchStatus declaredObject (statusPatch marked (some "7"))),
        .error e⟩] driven := by
  obtain ⟨marked, result, walk⟩ : ∃ marked result,
      (racer.passOver none).run.Walk
        [.store (.saveStatus marked) (.error (.cluster e))] result :=
    ⟨_, _, Program.walk_ask_iff.mpr ⟨_, _, rfl, .done _⟩⟩
  have hrefused := ClusterProgram.walk_toOperator_iff.mpr
    ⟨_, ClusterStore.walk_saveStatus_of_refused (send_racerStore "7" marked) e,
      rfl⟩
  have answering : Program.Answering ClusterStore.answer (racerStore "7")
      [.store (.saveStatus marked) (.error (.cluster e))] _ (racerStore "7") :=
        .cons hrefused (.nil _)
  exact ⟨marked, _, Reconciliation.walk_run_of_pass rfl rfl rfl walk answering⟩

/-- A racer connects. -/
def connecting : OperatorEvent :=
  ⟨.connect racer.database, .ok none⟩

/-- A racer stores its mark over the version that it looked at, and the API
takes it. -/
def marking (marked : Status) : OperatorEvent :=
  ⟨.cluster (.patchStatus declaredObject (statusPatch marked (some "7"))),
    .ok (declaredDatabase "8").toJson⟩

/-- The API refuses a mark over that version. -/
def refusal (marked : Status) : OperatorEvent :=
  ⟨.cluster (.patchStatus declaredObject (statusPatch marked (some "7"))),
    .error (.rejected 409 "Conflict" "sales was modified")⟩

/-- A racer sends its create. -/
def sending (request : ProvisionRequest) (found : Snapshot) : OperatorEvent :=
  ⟨.remote (.create request), .answered found⟩

/-- Both racers connect, one stores its mark, the other one is refused, and the
first sends its action. -/
def race (marked marked' : Status) (request : ProvisionRequest)
    (found : Snapshot) : List (Deed Bool) :=
  [⟨some (true, connecting), none⟩, ⟨some (false, connecting), none⟩,
    ⟨some (true, marking marked), some "8"⟩,
    ⟨some (false, refusal marked'), none⟩,
    ⟨some (true, sending request found), none⟩]

/-- The API has served such a race. -/
theorem served_race (marked marked' : Status) (request : ProvisionRequest)
    (found : Snapshot) :
    Served declaredObject "7" (race marked marked' request found) := by
  refine ((((Served.start.step ?_).step ?_).step ?_).step ?_).step ?_
  · exact Deed.allowed_of_aside rfl (by simp [connecting])
  · exact Deed.allowed_of_aside rfl (by simp [connecting])
  · exact Deed.allowed_of_current true _ rfl rfl (by simp [versions])
  · exact Deed.allowed_of_conflict false _ _ _
  · exact Deed.allowed_of_aside rfl (by simp [sending])

/-- Of two racers that store a mark over the same version, one is refused, and
sends nothing. -/
theorem race_has_one_sender :
    ∃ race : List (Deed Bool), Served declaredObject "7" race
      ∧ (∀ i, racer.Begins (exchangesOf i race))
      ∧ (∃ deed ∈ race, deed.Sends (fun _ => racer) true .provision)
      ∧ (∃ deed ∈ race, ∃ change, deed.Patches declaredObject change
        (.error (.rejected 409 "Conflict" "sales was modified")))
      ∧ ∀ deed ∈ race, ∀ action,
        ¬ deed.Sends (fun _ => racer) false action := by
  obtain ⟨marked, request, found, done, driven, wins⟩ := racer_wins
  obtain ⟨marked', driven', loses⟩ :=
    racer_loses (.rejected 409 "Conflict" "sales was modified")
  have hserved := served_race marked marked' request found
  have hbegins :
      ∀ i, racer.Begins (exchangesOf i (race marked marked' request found))
    | true => ⟨[_], driven, wins⟩
    | false => ⟨[], driven', loses⟩
  have hlook : racer.LooksAt declaredObject "7" := ⟨rfl, rfl, rfl, rfl⟩
  have hsends : Deed.Sends ⟨some (true, sending request found), none⟩
      (fun _ => racer) true .provision :=
    ⟨sending request found, rfl, rfl⟩
  have hmem : ⟨some (true, sending request found), none⟩
    ∈ race marked marked' request found := by simp [race]
  have hrefused : ⟨some (false, refusal marked'), none⟩
    ∈ race marked marked' request found := by simp [race]
  refine ⟨race marked marked' request found, hserved, hbegins,
    ⟨_, hmem, hsends⟩, ⟨_, hrefused, _, false, _, rfl, rfl⟩,
    fun deed hdeed action hsent => ?_⟩
  have hone :=
    (one_sender_per_version hserved hbegins).2 true false "7" _ deed .provision
      action hlook hlook hmem hdeed hsends hsent
  cases hone

end DatabaseOperator
