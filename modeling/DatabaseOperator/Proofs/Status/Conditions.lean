import Mathlib.Data.List.Infix
import Mathlib.Data.List.Nodup
import DatabaseOperator.Proofs.Status.Reports

/-!
# Conditions under any number of reports

A report revises conditions where they stand and adds the ones that are missing
at the end. So no type ever stands twice, and what others have written is not
touched. Each report speaks at most once about a type, which is why the time of
the last transition is the time of the last report that turned the condition.

- `Status.flag`, `Status.turned`: what is said under a type, and since when.
- `Report`, `Report.on`: the reports as data.
- `Report.settings`, `Report.on_eq`: what a report sets. All that is proved
  about reports is proved from it.
- `turned_on`: a report moves the time of a condition exactly if it turns the
  condition.
- `Status.reported`, `Turns`, `turned_reported`: the same over a sequence of
  reports.
- `conditions_reported`: what holds of the conditions after any sequence of
  reports.
-/

namespace DatabaseOperator

/-- The types of conditions that reports are about. -/
def ConditionType.own : List String :=
  [ready, progressing, failed]

/-- Two of them that are not to hold together: a resource that is ready has
nothing under way, and has not failed. -/
def ConditionType.Excludes (type other : String) : Prop :=
  type ∈ own ∧ other ∈ own ∧ type ≠ other ∧ (type = ready ∨ other = ready)

theorem ConditionType.Excludes.symm {type other : String}
    (h : Excludes type other) : Excludes other type :=
  ⟨h.2.1, h.1, h.2.2.1.symm, h.2.2.2.symm⟩

theorem ConditionType.excludes_ready {other : String}
    (h : other ∈ [progressing, failed]) : Excludes ready other := by
  refine ⟨List.mem_cons_self, List.mem_cons_of_mem _ h, ?_, .inl rfl⟩
  rintro rfl
  revert h
  decide

theorem flagText_inj {value value' : Bool} :
    flagText value = flagText value' ↔ value = value' := by
  cases value <;> cases value' <;> decide

/-! ## One condition is set -/

section Setting

variable {stamp : Stamp} {type status reason message : String}
    {cs before : List Condition}

/-- Conditions of other types that stand in front stay there, as they are. -/
theorem setCondition_append_of_notMem (h : type ∉ before.map Condition.type)
    (after : List Condition) :
    setCondition stamp type status reason message (before ++ after)
      = before ++ setCondition stamp type status reason message after := by
  induction before with
  | nil => rfl
  | cons c rest ih =>
    rw [List.map_cons, List.mem_cons, not_or] at h
    have hother : c.type ≠ type := fun same => h.1 same.symm
    rw [List.cons_append, setCondition, if_neg hother, ih h.2, List.cons_append]

/-- The types stay as they are, or the one that is missing comes last. -/
theorem map_type_setCondition (stamp : Stamp)
    (type status reason message : String) (cs : List Condition) :
    (setCondition stamp type status reason message cs).map Condition.type
      = if type ∈ cs.map Condition.type then cs.map Condition.type
        else cs.map Condition.type ++ [type] := by
  induction cs with
  | nil => rfl
  | cons c rest ih =>
    unfold setCondition
    by_cases same : c.type = type
    · rw [if_pos same]
      simp [Condition.type_revise, same]
    · have hiff : type ∈ (c :: rest).map Condition.type
          ↔ type ∈ rest.map Condition.type := by
        rw [List.map_cons, List.mem_cons]
        exact or_iff_right fun h => same h.symm
      rw [if_neg same, List.map_cons, ih]
      simp only [hiff]
      split <;> rfl

theorem nodup_types_setCondition (h : (cs.map Condition.type).Nodup) :
    ((setCondition stamp type status reason message cs).map
      Condition.type).Nodup := by
  rw [map_type_setCondition]
  split
  next => exact h
  next missing =>
    exact List.nodup_append.mpr ⟨h, List.nodup_singleton _, by grind⟩

theorem mem_types_setCondition {c : Condition}
    (h : c ∈ setCondition stamp type status reason message cs) :
    c.type = type ∨ c.type ∈ cs.map Condition.type := by
  have hmem := List.mem_map_of_mem (f := Condition.type) h
  rw [map_type_setCondition] at hmem
  split at hmem
  next => exact .inr hmem
  next => exact (List.mem_append.mp hmem).symm.imp_left List.mem_singleton.mp

/-- Where no type stands twice, every condition is the one of its type. -/
theorem find?_of_mem (distinct : (cs.map Condition.type).Nodup) {c : Condition}
    (h : c ∈ cs) : cs.find? (fun other => other.type == c.type) = some c := by
  induction cs with
  | nil => cases h
  | cons first rest ih =>
    obtain ⟨hfresh, hrest⟩ := List.nodup_cons.mp distinct
    rcases List.mem_cons.mp h with rfl | later
    · simp
    · have hother : first.type ≠ c.type := by
        intro same
        exact hfresh (same ▸ List.mem_map_of_mem later)
      rw [List.find?_cons, beq_eq_false_iff_ne.mpr hother]
      exact ih hrest later

/-- What is set is new, or has the time that it had if it says the same. -/
theorem find?_setCondition_time (stamp : Stamp)
    (type status reason message : String) (cs : List Condition) :
    ((setCondition stamp type status reason message cs).find? fun c =>
      c.type == type).map Condition.lastTransitionTime
      = if (cs.find? fun c => c.type == type).map Condition.status = some status
        then (cs.find? fun c => c.type == type).map Condition.lastTransitionTime
        else some stamp.now.timestamp := by
  induction cs with
  | nil => simp [setCondition]
  | cons c rest ih =>
    unfold setCondition
    split
    next same =>
      simp only [List.find?_cons, Condition.type_revise, same, beq_self_eq_true,
        Option.map_some, Option.some.injEq]
      show some (if c.status = status then _ else _) = _
      split <;> rfl
    next other =>
      simp only [List.find?_cons, beq_eq_false_iff_ne.mpr other]
      exact ih

end Setting

namespace Status

variable {s s' : Status} {stamp : Stamp} {type other reason message : String}
    {value : Bool}

/-- What is said under a type of condition, if anything. -/
def flag (s : Status) (type : String) : Option String :=
  (s.condition? type).map Condition.status

/-- Since when it is said. -/
def turned (s : Status) (type : String) : Option String :=
  (s.condition? type).map Condition.lastTransitionTime

theorem Says.flag {generation : Option Int64}
    (h : s.Says generation type value reason message) :
    s.flag type = some (flagText value) := by
  obtain ⟨c, hc, hstatus, -⟩ := h
  unfold Status.flag
  rw [hc, Option.map_some, hstatus]

@[simp] theorem flag_set_self (s : Status) (stamp : Stamp) (type : String)
    (value : Bool) (reason message : String) :
    (s.set stamp type value reason message).flag type = some (flagText value) :=
  (says_set ..).flag

theorem flag_set_of_ne (h : type ≠ other) :
    (s.set stamp type value reason message).flag other = s.flag other :=
  congrArg (Option.map Condition.status) (find?_setCondition_of_ne h ..)

theorem turned_set_of_ne (h : type ≠ other) :
    (s.set stamp type value reason message).turned other = s.turned other :=
  congrArg (Option.map Condition.lastTransitionTime)
    (find?_setCondition_of_ne h ..)

theorem turned_set_self (s : Status) (stamp : Stamp) (type : String)
    (value : Bool) (reason message : String) :
    (s.set stamp type value reason message).turned type
      = if s.flag type = some (flagText value) then s.turned type
        else some stamp.now.timestamp :=
  find?_setCondition_time ..

/-- Where no type stands twice, what is found under a type is its condition. -/
theorem flag_of_mem (distinct : (s.conditions.map Condition.type).Nodup)
    {c : Condition} (h : c ∈ s.conditions) : s.flag c.type = some c.status := by
  show Option.map Condition.status (s.conditions.find? _) = _
  rw [find?_of_mem distinct h, Option.map_some]

theorem turned_of_mem (distinct : (s.conditions.map Condition.type).Nodup)
    {c : Condition} (h : c ∈ s.conditions) :
    s.turned c.type = some c.lastTransitionTime := by
  show Option.map Condition.lastTransitionTime (s.conditions.find? _) = _
  rw [find?_of_mem distinct h, Option.map_some]

theorem flag_eq_none (h : ∀ c ∈ s.conditions, c.type ≠ type) :
    s.flag type = none := by
  have hnone : s.conditions.find? (fun c => c.type == type) = none :=
    List.find?_eq_none.mpr fun c hc => by simpa using h c hc
  show Option.map Condition.status (s.conditions.find? _) = _
  rw [hnone, Option.map_none]

end Status

/-! ## Several conditions are set -/

/-- One condition that a report sets, and what it says of it. -/
structure Setting where
  type : String
  value : Bool
  reason : String
  message : String

namespace Status

variable {s : Status} {stamp : Stamp} {type : String} {settings : List Setting}

/-- A status with conditions set one after the other. -/
def setAll (s : Status) (stamp : Stamp) (settings : List Setting) : Status :=
  settings.foldl (fun s x => s.set stamp x.type x.value x.reason x.message) s

@[simp] theorem setAll_cons (s : Status) (stamp : Stamp) (x : Setting)
    (rest : List Setting) :
    s.setAll stamp (x :: rest)
      = (s.set stamp x.type x.value x.reason x.message).setAll stamp rest :=
  rfl

theorem flag_setAll_of_notMem (h : type ∉ settings.map Setting.type) :
    (s.setAll stamp settings).flag type = s.flag type := by
  induction settings generalizing s with
  | nil => rfl
  | cons x rest ih =>
    rw [List.map_cons, List.mem_cons, not_or] at h
    rw [setAll_cons, ih h.2]
    exact flag_set_of_ne fun same => h.1 same.symm

theorem turned_setAll_of_notMem (h : type ∉ settings.map Setting.type) :
    (s.setAll stamp settings).turned type = s.turned type := by
  induction settings generalizing s with
  | nil => rfl
  | cons x rest ih =>
    rw [List.map_cons, List.mem_cons, not_or] at h
    rw [setAll_cons, ih h.2]
    exact turned_set_of_ne fun same => h.1 same.symm

theorem Says.setAll {generation : Option Int64} {value : Bool}
    {reason message : String} (h : s.Says generation type value reason message)
    (unspoken : type ∉ settings.map Setting.type) :
    (s.setAll stamp settings).Says generation type value reason message := by
  induction settings generalizing s with
  | nil => exact h
  | cons x rest ih =>
    rw [List.map_cons, List.mem_cons, not_or] at unspoken
    exact ih (h.set (fun same => unspoken.1 same.symm) ..) unspoken.2

/-- Each type is spoken about once, so what is said of it in the end is what is
said there. -/
theorem says_setAll (once : (settings.map Setting.type).Nodup) {x : Setting}
    (h : x ∈ settings) :
    (s.setAll stamp settings).Says stamp.generation x.type x.value x.reason
      x.message := by
  induction settings generalizing s with
  | nil => cases h
  | cons first rest ih =>
    obtain ⟨hfresh, hrest⟩ := List.nodup_cons.mp once
    rcases List.mem_cons.mp h with rfl | later
    · exact (says_set ..).setAll hfresh
    · exact ih hrest later

/-- The time of a condition moves exactly if the condition turns. -/
theorem turned_setAll (once : (settings.map Setting.type).Nodup)
    (type : String) :
    (s.setAll stamp settings).turned type
      = if (s.setAll stamp settings).flag type = s.flag type then s.turned type
        else some stamp.now.timestamp := by
  by_cases spoken : type ∈ settings.map Setting.type
  · induction settings generalizing s with
    | nil => cases spoken
    | cons x rest ih =>
      obtain ⟨hfresh, hrest⟩ := List.nodup_cons.mp once
      rw [setAll_cons]
      by_cases same : x.type = type
      · subst same
        rw [turned_setAll_of_notMem hfresh, flag_setAll_of_notMem hfresh,
          turned_set_self, flag_set_self]
        simp only [eq_comm]
      · have hlater : type ∈ rest.map Setting.type :=
          (List.mem_cons.mp spoken).resolve_left fun h => same h.symm
        rw [ih hrest hlater, flag_set_of_ne same, turned_set_of_ne same]
  · rw [turned_setAll_of_notMem spoken, flag_setAll_of_notMem spoken,
      if_pos rfl]

theorem nodup_types_setAll (h : (s.conditions.map Condition.type).Nodup) :
    ((s.setAll stamp settings).conditions.map Condition.type).Nodup := by
  induction settings generalizing s with
  | nil => exact h
  | cons x rest ih => exact ih (nodup_types_setCondition h)

/-- Conditions that nothing is said about stay in front. -/
theorem conditions_setAll {others own : List Condition}
    (h : s.conditions = others ++ own)
    (unspoken : ∀ x ∈ settings, x.type ∉ others.map Condition.type) :
    ∃ own', (s.setAll stamp settings).conditions = others ++ own'
      ∧ ∀ c ∈ own', c.type ∈ own.map Condition.type
        ∨ c.type ∈ settings.map Setting.type := by
  induction settings generalizing s own with
  | nil => exact ⟨own, h, fun c hc => .inl (List.mem_map_of_mem hc)⟩
  | cons x rest ih =>
    obtain ⟨hfirst, hrest⟩ := List.forall_mem_cons.mp unspoken
    have hset : (s.set stamp x.type x.value x.reason x.message).conditions
        = others
          ++ setCondition stamp x.type (flagText x.value) x.reason
            x.message own := by
      show setCondition stamp x.type (flagText x.value) x.reason x.message
        s.conditions = _
      rw [h, setCondition_append_of_notMem hfirst]
    obtain ⟨own', hown', htypes⟩ := ih hset hrest
    refine ⟨own', hown', fun c hc => ?_⟩
    rw [List.map_cons, List.mem_cons]
    rcases htypes c hc with earlier | later
    · obtain ⟨c', hc', hsame⟩ := List.mem_map.mp earlier
      rw [← hsame]
      rcases mem_types_setCondition hc' with set | kept
      · exact .inr (.inl set)
      · exact .inl kept
    · exact .inr (.inr later)

end Status

/-! ## Reports -/

/-- A report that is put on a status. -/
inductive Report where
  | ready (message : String)
  | progressing (phase : Phase) (reason message : String)
  | waiting (reason message : String)
  | retrying (reason message : String)
  | failed (reason message : String)
  | cleared
  | terminated (message : String)
  | deleting (message : String)

namespace Report

variable {s : Status} {stamp : Stamp} {type : String} {r : Report}

/-- A status with the report on it. -/
def on (r : Report) (stamp : Stamp) (s : Status) : Status :=
  match r with
  | ready message => s.reportReady stamp message
  | progressing phase reason message =>
    s.reportProgressing stamp phase reason message
  | waiting reason message => s.reportWaiting stamp reason message
  | retrying reason message => s.reportRetrying stamp reason message
  | failed reason message => s.reportFailed stamp reason message
  | cleared => s.clearFailed stamp
  | terminated message => s.reportTerminated stamp message
  | deleting message => s.reportDeleting stamp message

/-- The phase that a report leaves. -/
def phase (r : Report) (s : Status) : Phase :=
  match r with
  | ready _ => .ready
  | progressing phase _ _ => phase
  | waiting .. => .waiting
  | retrying .. | cleared => s.phase
  | failed .. => .failed
  | terminated _ => .terminated
  | deleting _ => .deleting

/-- Something is under way: nothing is said of failures. -/
def underWay (reason message : String) : List Setting :=
  [⟨ConditionType.ready, false, reason, message⟩,
    ⟨ConditionType.progressing, true, reason, message⟩]

/-- The conditions that a report sets. A failure is cleared only if there is
one. -/
def settings (r : Report) (s : Status) : List Setting :=
  match r with
  | ready message =>
    [⟨ConditionType.ready, true, Reason.converged, message⟩,
      ⟨ConditionType.progressing, false, Reason.converged, message⟩,
      ⟨ConditionType.failed, false, Reason.noFailure, ""⟩]
  | progressing _ reason message | waiting reason message
  | retrying reason message => underWay reason message
  | failed reason message =>
    [⟨ConditionType.ready, false, reason, message⟩,
      ⟨ConditionType.progressing, false, reason, message⟩,
      ⟨ConditionType.failed, true, reason, message⟩]
  | cleared =>
    if s.conditions.any fun c => c.type == ConditionType.failed
      && c.status == flagText true then
      [⟨ConditionType.failed, false, Reason.noFailure, ""⟩]
    else []
  | terminated message =>
    [⟨ConditionType.ready, false, Reason.remoteRemoved, message⟩,
      ⟨ConditionType.progressing, false, Reason.remoteRemoved, message⟩,
      ⟨ConditionType.failed, false, Reason.noFailure, ""⟩]
  | deleting message => underWay Reason.deleting message

theorem on_eq (r : Report) (stamp : Stamp) (s : Status) :
    r.on stamp s
      = { s with phase := r.phase s }.setAll stamp (r.settings s) := by
  cases r with
  | cleared =>
    show s.clearFailed stamp = s.setAll stamp (settings cleared s)
    unfold Status.clearFailed settings
    split <;> rfl
  | ready | progressing | waiting | retrying | failed | terminated | deleting =>
    rfl

/-- A report speaks about its own types, and at most once about each. -/
theorem types_settings (r : Report) (s : Status) :
    List.Sublist ((r.settings s).map Setting.type) ConditionType.own := by
  cases r with
  | cleared =>
    simp only [settings]
    split
    next =>
      exact List.sublist_append_right
        [ConditionType.ready, ConditionType.progressing] _
    next => exact List.nil_sublist _
  | ready | failed | terminated => exact List.Sublist.refl _
  | progressing | waiting | retrying | deleting =>
    exact List.sublist_append_left _ [ConditionType.failed]

theorem nodup_types_settings (r : Report) (s : Status) :
    ((r.settings s).map Setting.type).Nodup :=
  (types_settings r s).nodup (by decide)

/-- A report that says one of two excluding things also says that the other is
not so. -/
theorem settings_exclude {x : Setting} (h : x ∈ r.settings s)
    (holds : x.value = true) {other : String}
    (excludes : ConditionType.Excludes x.type other) :
    ∃ y ∈ r.settings s, y.type = other ∧ y.value = false := by
  obtain ⟨hprogressing, hfailed, -⟩ := Status.conditionTypes_ne
  obtain ⟨hown, hother, hne, hready⟩ := excludes
  simp only [ConditionType.own, List.mem_cons, List.not_mem_nil, or_false]
    at hother
  cases r with
  | cleared =>
    simp only [settings] at h
    split at h
    next =>
      obtain rfl := List.mem_singleton.mp h
      cases holds
    next => cases h
  | ready | progressing | waiting | retrying | failed | terminated | deleting =>
    simp only [settings, underWay, List.mem_cons, List.not_mem_nil, or_false]
      at h ⊢
    rcases h with rfl | rfl | rfl <;> rcases hother with rfl | rfl
      | rfl <;> simp_all

/-- After a report its words are on the status. -/
theorem says_on {x : Setting} (h : x ∈ r.settings s) :
    (r.on stamp s).Says stamp.generation x.type x.value x.reason x.message := by
  rw [on_eq]
  exact Status.says_setAll (nodup_types_settings r s) h

theorem flag_on_of_notMem (h : type ∉ (r.settings s).map Setting.type) :
    (r.on stamp s).flag type = s.flag type := by
  rw [on_eq]
  exact Status.flag_setAll_of_notMem h

/-- A report moves the time of a condition exactly if it turns the condition. -/
theorem turned_on (r : Report) (stamp : Stamp) (s : Status) (type : String) :
    (r.on stamp s).turned type
      = if (r.on stamp s).flag type = s.flag type then s.turned type
        else some stamp.now.timestamp := by
  rw [on_eq]
  exact Status.turned_setAll (nodup_types_settings r s) type

/-- Of two excluding things a report leaves at most one said, if it was so
before. -/
theorem excludes_on {other : String}
    (excludes : ConditionType.Excludes type other)
    (h : ¬ (s.flag type = some (flagText true)
      ∧ s.flag other = some (flagText true))) :
    ¬ ((r.on stamp s).flag type = some (flagText true)
      ∧ (r.on stamp s).flag other = some (flagText true)) := by
  -- what the report says of one of the two, it says of the other; without a
  -- word on either nothing is new
  have hspoken : ∀ {a b}, ConditionType.Excludes a b →
      a ∈ (r.settings s).map Setting.type →
        (r.on stamp s).flag a = some (flagText true) →
          (r.on stamp s).flag b ≠ some (flagText true) := by
    intro a b hab ha hflag
    obtain ⟨x, hx, rfl⟩ := List.mem_map.mp ha
    rw [(says_on hx).flag, Option.some.injEq, flagText_inj] at hflag
    obtain ⟨y, hy, rfl, hvalue⟩ := settings_exclude hx hflag hab
    rw [(says_on hy).flag, hvalue]
    decide
  rintro ⟨htype, hother⟩
  by_cases first : type ∈ (r.settings s).map Setting.type
  · exact hspoken excludes first htype hother
  · by_cases second : other ∈ (r.settings s).map Setting.type
    · exact hspoken excludes.symm second hother htype
    · rw [flag_on_of_notMem first] at htype
      rw [flag_on_of_notMem second] at hother
      exact h ⟨htype, hother⟩

theorem nodup_types_on (h : (s.conditions.map Condition.type).Nodup) :
    ((r.on stamp s).conditions.map Condition.type).Nodup := by
  rw [on_eq]
  exact Status.nodup_types_setAll h

/-- Conditions of other types stay in front, as they are. -/
theorem conditions_on {others own : List Condition}
    (h : s.conditions = others ++ own)
    (foreign : ∀ c ∈ others, c.type ∉ ConditionType.own)
    (hown : ∀ c ∈ own, c.type ∈ ConditionType.own) :
    ∃ own', (r.on stamp s).conditions = others ++ own' ∧ ∀ c ∈ own',
      c.type ∈ ConditionType.own := by
  have hspoken : ∀ x ∈ r.settings s, x.type ∈ ConditionType.own := fun x hx =>
    (types_settings r s).subset (List.mem_map_of_mem hx)
  have hunspoken : ∀ x ∈ r.settings s, x.type ∉ others.map Condition.type := by
    intro x hx hmem
    obtain ⟨c, hc, hsame⟩ := List.mem_map.mp hmem
    exact foreign c hc (hsame ▸ hspoken x hx)
  rw [on_eq]
  obtain ⟨own', hown', htypes⟩ :=
    Status.conditions_setAll (s := { s with phase := r.phase s }) h hunspoken
  refine ⟨own', hown', fun c hc => ?_⟩
  rcases htypes c hc with earlier | spoken
  · obtain ⟨c', hc', hsame⟩ := List.mem_map.mp earlier
    exact hsame ▸ hown c' hc'
  · obtain ⟨x, hx, hsame⟩ := List.mem_map.mp spoken
    exact hsame ▸ hspoken x hx

end Report

/-! ## Sequences of reports -/

/-- A report and what it is written under. -/
structure StampedReport where
  stamp : Stamp
  report : Report

namespace Status

variable {s : Status} {reports before after : List StampedReport}
    {r : StampedReport} {type : String}

/-- A status with reports put on it one after the other. -/
def reported (s : Status) (reports : List StampedReport) : Status :=
  reports.foldl (fun s r => r.report.on r.stamp s) s

@[simp] theorem reported_nil (s : Status) : s.reported [] = s := rfl

@[simp] theorem reported_concat (s : Status) (reports : List StampedReport)
    (r : StampedReport) :
    s.reported (reports ++ [r]) = r.report.on r.stamp (s.reported reports) := by
  simp [reported]

/-- With one of the reports, what is said under a type became what it is, and it
has stayed so with the later ones. -/
structure Turns (s : Status) (type : String) (before : List StampedReport)
    (r : StampedReport) (after : List StampedReport) : Prop where
  turned : (s.reported (before ++ [r])).flag type
    ≠ (s.reported before).flag type
  stays : ∀ early, early <+: after →
    (s.reported (before ++ [r] ++ early)).flag type
      = (s.reported (before ++ [r])).flag type

/-- A further report that says the same is one more with which it stays. -/
theorem Turns.concat (h : s.Turns type before r after) {last : StampedReport}
    (same : (s.reported (before ++ [r] ++ after ++ [last])).flag type
      = (s.reported (before ++ [r] ++ after)).flag type) :
    s.Turns type before r (after ++ [last]) := by
  refine ⟨h.turned, fun early hearly => ?_⟩
  rcases List.prefix_concat_iff.mp hearly with rfl | hearly
  · rw [← List.append_assoc, same]
    exact h.stays after (List.prefix_refl after)
  · exact h.stays early hearly

/-- The time of a condition is that of the report with which it last turned, or
the one from before all of them if it never did. -/
theorem turned_reported (s : Status) (reports : List StampedReport)
    (type : String) :
    ((s.reported reports).turned type = s.turned type
        ∧ ∀ early, early <+: reports →
          (s.reported early).flag type = s.flag type)
      ∨ ∃ before r after, reports = before ++ [r] ++ after
        ∧ s.Turns type before r after
        ∧ (s.reported reports).turned type = some r.stamp.now.timestamp := by
  induction reports using List.reverseRecOn with
  | nil =>
    exact .inl
      ⟨rfl, fun early hearly => by rw [List.prefix_nil.mp hearly, reported_nil]⟩
  | append_singleton reports last ih =>
    have htime :=
      Report.turned_on last.report last.stamp (s.reported reports) type
    rw [← reported_concat] at htime
    by_cases same : (s.reported (reports ++ [last])).flag type
      = (s.reported reports).flag type
    · rw [if_pos same] at htime
      rw [htime]
      rcases ih with ⟨hsince, hnever⟩ | ⟨before, r, after, rfl, turns, hsince⟩
      · refine .inl ⟨hsince, fun early hearly => ?_⟩
        rcases List.prefix_concat_iff.mp hearly with rfl | hearly
        · exact same.trans (hnever reports (List.prefix_refl reports))
        · exact hnever early hearly
      · exact .inr ⟨before, r, after ++ [last], List.append_assoc ..,
          turns.concat same, hsince⟩
    · rw [if_neg same] at htime
      refine .inr ⟨reports, last, [], (List.append_nil _).symm,
        ⟨same, fun early hearly => ?_⟩, htime⟩
      rw [List.prefix_nil.mp hearly, List.append_nil]

theorem nodup_types_reported (h : (s.conditions.map Condition.type).Nodup)
    (reports : List StampedReport) :
    ((s.reported reports).conditions.map Condition.type).Nodup := by
  induction reports using List.reverseRecOn with
  | nil => exact h
  | append_singleton reports last ih =>
    rw [reported_concat]
    exact Report.nodup_types_on ih

theorem excludes_reported {other : String}
    (excludes : ConditionType.Excludes type other)
    (h : ¬ (s.flag type = some (flagText true)
      ∧ s.flag other = some (flagText true)))
    (reports : List StampedReport) :
    ¬ ((s.reported reports).flag type = some (flagText true)
      ∧ (s.reported reports).flag other = some (flagText true)) := by
  induction reports using List.reverseRecOn with
  | nil => exact h
  | append_singleton reports last ih =>
    rw [reported_concat]
    exact Report.excludes_on excludes ih

/-- The conditions that others have written come first in their order, whatever
is reported. -/
theorem conditions_reported_append
    (foreign : ∀ c ∈ s.conditions, c.type ∉ ConditionType.own)
    (reports : List StampedReport) :
    ∃ own, (s.reported reports).conditions = s.conditions ++ own ∧ ∀ c ∈ own,
      c.type ∈ ConditionType.own := by
  induction reports using List.reverseRecOn with
  | nil =>
    exact ⟨[], (List.append_nil _).symm, fun c hc => absurd hc List.not_mem_nil⟩
  | append_singleton reports last ih =>
    obtain ⟨own, hconditions, hown⟩ := ih
    rw [reported_concat]
    exact Report.conditions_on hconditions foreign hown

/-- **Conditions under any sequence of reports.** Reports are put on a status in
which no type of condition stands twice and none is one of the three that
reports are about. Then, however many there are, of whatever kind, and under
whatever generations and clocks:

1. no type of condition stands twice;
2. the conditions of other types are what and where they were, and the ones that
   reports set come after them;
3. what excludes each other does not hold together: the resource is not ready
   and progressing, nor ready and failed; and
4. the time of the last transition of each of the three is that of the report
   with which it turned for the last time, or with which it came: what it says
   became what it is there, and is the same after every later report.

After each report its words are on the status, and where it leaves what a
condition says it leaves the time. -/
theorem conditions_reported (s : Status)
    (distinct : (s.conditions.map Condition.type).Nodup)
    (foreign : ∀ c ∈ s.conditions, c.type ∉ ConditionType.own)
    (reports : List StampedReport) :
    ((s.reported reports).conditions.map Condition.type).Nodup
      ∧ (∃ own, (s.reported reports).conditions = s.conditions ++ own
        ∧ ∀ c ∈ own, c.type ∈ ConditionType.own)
      ∧ (∀ c ∈ (s.reported reports).conditions,
        ∀ c' ∈ (s.reported reports).conditions, c.type = ConditionType.ready →
          c'.type ∈ [ConditionType.progressing, ConditionType.failed] →
            ¬ (c.status = flagText true ∧ c'.status = flagText true))
      ∧ (∀ c ∈ (s.reported reports).conditions, c.type ∈ ConditionType.own →
        ∃ before r after, reports = before ++ [r] ++ after
          ∧ s.Turns c.type before r after
          ∧ c.lastTransitionTime = r.stamp.now.timestamp)
      ∧ ∀ before r after, reports = before ++ [r] ++ after →
        (∀ x ∈ r.report.settings (s.reported before),
          (s.reported (before ++ [r])).Says r.stamp.generation x.type x.value
            x.reason x.message)
        ∧ ∀ type,
          (s.reported (before ++ [r])).flag type
              = (s.reported before).flag type →
            (s.reported (before ++ [r])).turned type
              = (s.reported before).turned type := by
  have hdistinct := nodup_types_reported distinct reports
  have hnone :
      ∀ type ∈ ConditionType.own, s.flag type = none := fun type htype =>
    flag_eq_none fun c hc same => foreign c hc (same ▸ htype)
  refine ⟨hdistinct, conditions_reported_append foreign reports, ?_, ?_, ?_⟩
  · rintro c hc c' hc' hready hother ⟨hholds, hholds'⟩
    have hexcludes := ConditionType.excludes_ready hother
    have hbefore : ¬ (s.flag ConditionType.ready = some (flagText true)
        ∧ s.flag c'.type = some (flagText true)) := by
      rw [hnone _ hexcludes.1]
      rintro ⟨h, -⟩
      cases h
    refine excludes_reported hexcludes hbefore reports ⟨?_, ?_⟩
    · rw [← hready, flag_of_mem hdistinct hc, hholds]
    · rw [flag_of_mem hdistinct hc', hholds']
  · intro c hc hown
    have hflag := flag_of_mem hdistinct hc
    rcases turned_reported s reports c.type with ⟨-, hnever⟩
      | ⟨before, r, after, hsplit, turns, hsince⟩
    · rw [hnever reports (List.prefix_refl reports), hnone _ hown] at hflag
      cases hflag
    · rw [turned_of_mem hdistinct hc] at hsince
      exact ⟨before, r, after, hsplit, turns, Option.some.inj hsince⟩
  · intro before r after _
    rw [reported_concat]
    refine ⟨fun x hx => Report.says_on hx, fun type same => ?_⟩
    rw [Report.turned_on, if_pos same]

/-- A status that someone else has put a condition on. -/
def approvedStatus : Status :=
  { conditions :=
      [{ type := "Approved", status := "True", reason := "Reviewed"
         message := ""
         lastTransitionTime := "2023-11-01T00:00:00Z" }] }

/-- A resource that fails, is ready a minute later, and still is so with other
words after another minute. -/
def recoveryReports : List StampedReport :=
  [⟨⟨some 1, ⟨1700000000, 0⟩⟩, .failed Reason.actionFailed "refused"⟩,
    ⟨⟨some 2, ⟨1700000060, 0⟩⟩, .ready "available"⟩,
    ⟨⟨some 3, ⟨1700000120, 0⟩⟩, .ready "still available"⟩]

/-- The resource is ready since the second report, and the condition of someone
else is still the first. -/
theorem ready_since_second_report :
    (approvedStatus.conditions.map Condition.type).Nodup
      ∧ (∀ c ∈ approvedStatus.conditions, c.type ∉ ConditionType.own)
      ∧ (approvedStatus.reported recoveryReports).conditions.map Condition.type
        = ["Approved", ConditionType.ready, ConditionType.progressing,
          ConditionType.failed]
      ∧ (approvedStatus.reported recoveryReports).turned ConditionType.ready
        = some (Instant.timestamp ⟨1700000060, 0⟩)
      ∧ ∀ c ∈ (approvedStatus.reported recoveryReports).conditions,
        c.type ∈ ConditionType.own →
          ∃ before r after, recoveryReports = before ++ [r] ++ after
            ∧ approvedStatus.Turns c.type before r after
            ∧ c.lastTransitionTime = r.stamp.now.timestamp := by
  have hdistinct :
      (approvedStatus.conditions.map Condition.type).Nodup := by decide
  have hforeign :
      ∀ c ∈ approvedStatus.conditions, c.type ∉ ConditionType.own := by decide
  obtain ⟨-, -, -, htimes, -⟩ :=
    conditions_reported approvedStatus hdistinct hforeign recoveryReports
  exact ⟨hdistinct, hforeign, rfl, rfl, htimes⟩

end Status

end DatabaseOperator
