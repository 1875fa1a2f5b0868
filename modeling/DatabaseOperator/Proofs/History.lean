import DatabaseOperator.Proofs.Pass.Stages
import DatabaseOperator.Simulation.Store

/-!
# Passes one after another

The status is all that one pass hands on to the next. Between two passes
anything else can change: the spec, the settings, the clock, and the remote. So
a history is a list of passes, each of which begins with the status that was
stored last.

- `History`: steps of any kind of which each begins with the status that was
  stored last.
- `History.split`, `History.before`, `History.head`, `History.tail`: the parts
  of a history are histories.
- `History.preserved`: what every step of a history begins with, since every
  step leaves it behind.
- `Turn`: a pass with what happened in it.
- `storedAfter`, `Turn.stored`: the status that is stored afterwards.
- `Reaches`: a history of passes, with the status it leads to, and
  `Reaches.invariant`: what all of them begin with.
- `Turn.simulated`, `Pass.ofDatabase`: passes that can be carried out.
-/

namespace DatabaseOperator

/-! ## Steps one after another -/

/-- Steps of which each begins with the status that was stored last, from one
status to another. -/
inductive History {α : Type} (first stored : α → Status) (s₀ : Status) :
    List α → Status → Prop where
  | start : History first stored s₀ [] s₀
  | step {steps : List α} {s : Status} {a : α}
      (past : History first stored s₀ steps s) (begins : first a = s) :
      History first stored s₀ (steps ++ [a]) (stored a)

/-- The end of a list that has grown by one is empty, or has grown by it too. -/
theorem concat_eq_append_cases {α : Type} {xs ys zs : List α} {x : α}
    (h : xs ++ [x] = ys ++ zs) :
    (zs = [] ∧ ys = xs ++ [x])
      ∨ ∃ rest, zs = rest ++ [x] ∧ xs = ys ++ rest := by
  rcases List.eq_nil_or_concat zs with rfl | ⟨rest, last, rfl⟩
  · exact .inl ⟨rfl, by simpa using h.symm⟩
  · rw [List.concat_eq_append, ← List.append_assoc] at h
    obtain ⟨hxs, hlast⟩ := List.append_inj' h rfl
    refine .inr ⟨rest, ?_, hxs⟩
    rw [List.concat_eq_append, hlast]

/-- What holds of every element of a list that has grown by one, with those
before it, holds so of the earlier ones and of the last one. -/
theorem forall_split_concat_iff {α : Type} {P : List α → α → Prop} {xs : List α}
    {x : α} :
    (∀ before y after, xs ++ [x] = before ++ y :: after → P before y)
      ↔ (∀ before y after, xs = before ++ y :: after → P before y)
      ∧ P xs x := by
  constructor
  · intro h
    refine ⟨fun before y after hxs => h before y (after ++ [x]) ?_,
      h xs x [] rfl⟩
    rw [hxs, List.append_assoc, List.cons_append]
  · rintro ⟨hearlier, hlast⟩ before y after hsplit
    rcases concat_eq_append_cases hsplit with ⟨hnil, -⟩ | ⟨rest, hrest, hxs⟩
    · cases hnil
    · cases rest with
      | nil =>
        obtain ⟨rfl, -⟩ := List.cons.inj hrest
        rw [List.append_nil] at hxs
        exact hxs ▸ hlast
      | cons z rest =>
        obtain ⟨rfl, -⟩ := List.cons.inj hrest
        exact hearlier before y rest hxs

namespace History

variable {α : Type} {first stored : α → Status} {s₀ s : Status} {a : α}
    {steps earlier later : List α}

/-- A step goes before a history that begins with what it has stored. -/
theorem cons (begins : first a = s₀)
    (rest : History first stored (stored a) later s) :
    History first stored s₀ (a :: later) s := by
  induction rest with
  | start => exact .step .start begins
  | step past next ih => exact ih.step next

/-- A history falls into two, the second of which begins with the status that
the first one leads to. -/
theorem split (h : History first stored s₀ (earlier ++ later) s) :
    ∃ s₁, History first stored s₀ earlier s₁
      ∧ History first stored s₁ later s := by
  generalize hsteps : earlier ++ later = steps at h
  induction h generalizing later with
  | start =>
    obtain ⟨rfl, rfl⟩ := List.append_eq_nil_iff.mp hsteps
    exact ⟨s₀, .start, .start⟩
  | @step steps s a past begins ih =>
    -- the last step belongs to the second part, unless that is empty
    rcases concat_eq_append_cases hsteps.symm with ⟨rfl, hearlier⟩
      | ⟨rest, hlater, hpast⟩
    · rw [hearlier]
      exact ⟨_, past.step begins, .start⟩
    · obtain ⟨s₁, hfirst, hrest⟩ := ih hpast.symm
      rw [hlater]
      exact ⟨s₁, hfirst, hrest.step begins⟩

/-- Each step goes on from those before it. -/
theorem before (h : History first stored s₀ steps s) :
    ∀ earlier a later, steps = earlier ++ a :: later →
      History first stored s₀ earlier (first a) := by
  induction h with
  | start => simp
  | step past begins ih => exact forall_split_concat_iff.mpr ⟨ih, begins ▸ past⟩

/-- What a history begins with, and every step leaves behind that begins with
it, every step begins with, and the history leads to it. -/
theorem preserved {P : Status → Prop} (h : History first stored s₀ steps s)
    (hbegin : P s₀) (hstep : ∀ a ∈ steps, P (first a) → P (stored a)) :
    P s ∧ ∀ a ∈ steps, P (first a) := by
  induction h with
  | start => exact ⟨hbegin, List.forall_mem_nil _⟩
  | @step steps s a past begins ih =>
    simp only [List.forall_mem_append, List.forall_mem_singleton] at hstep ⊢
    obtain ⟨hlast, hall⟩ := ih hstep.1
    rw [← begins] at hlast
    exact ⟨hstep.2 hlast, hall, hlast⟩

/-- Steps that leave the status as it is lead to where they begin. -/
theorem eq_of_steady (h : History first stored s₀ steps s)
    (steady : ∀ a ∈ steps, stored a = first a) : s = s₀ :=
  (h.preserved (P := (· = s₀)) rfl fun a ha hsame =>
    (steady a ha).trans hsame).1

/-- A history begins with the status of its first step. -/
theorem head (h : History first stored s₀ (a :: later) s) : first a = s₀ :=
  (h.before [] a later rfl).eq_of_steady (List.forall_mem_nil _)

/-- A history of one step leads to what the step has stored. -/
theorem single (h : History first stored s₀ [a] s) :
    first a = s₀ ∧ s = stored a := by
  refine ⟨h.head, ?_⟩
  generalize hsteps : [a] = steps at h
  cases h with
  | start => cases hsteps
  | @step steps s₁ last past begins =>
    obtain ⟨-, hlast⟩ :=
      List.append_inj' (show [] ++ [a] = steps ++ [last] from hsteps) rfl
    rw [List.singleton_inj.mp hlast]

/-- After its first step a history goes on from what that step has stored. -/
theorem tail (h : History first stored s₀ (a :: later) s) :
    History first stored (stored a) later s := by
  obtain ⟨s₁, hone, hrest⟩ :=
    split (show History first stored s₀ ([a] ++ later) s from h)
  rwa [hone.single.2] at hrest

end History

/-! ## Passes -/

/-- A pass with its exchanges and its result. -/
structure Turn where
  pass : Pass
  trace : List PassEvent
  result : Except OperatorError Pass.Outcome
  walk : pass.run.Walk trace result

/-- The status that is stored after some exchanges: the last one that the store
has taken, if there is one. -/
def storedAfter (s : Status) : List PassEvent → Status
  | [] => s
  | ⟨.store (.saveStatus s'), .ok _⟩ :: t => storedAfter s' t
  | _ :: t => storedAfter s t

/-- What is stored after some exchanges was stored before them or by one of
them. -/
theorem storedAfter_cases (s : Status) (t : List PassEvent) :
    storedAfter s t = s ∨ .saved (storedAfter s t) ∈ t := by
  fun_induction storedAfter s t with
  | case1 s => exact .inl rfl
  | case2 s s' _ t ih =>
    -- a status that is stored hides those before it
    refine .inr ?_
    rcases ih with h | h
    · rw [h]
      exact List.mem_cons_self ..
    · exact List.mem_cons_of_mem _ h
  | case3 s e t _ ih => exact ih.imp_right (List.mem_cons_of_mem _)

/-- If a status was stored by some exchanges, the one that is stored after them
is among those. -/
theorem saved_storedAfter_mem {s' : Status} (s : Status) {t : List PassEvent}
    (h : .saved s' ∈ t) : .saved (storedAfter s t) ∈ t := by
  fun_induction storedAfter s t with
  | case1 s => cases h
  | case2 s last _ t ih =>
    rcases storedAfter_cases last t with hlast | hlater
    · rw [hlast]
      exact List.mem_cons_self ..
    · exact List.mem_cons_of_mem _ hlater
  | case3 s e t hother ih =>
    rcases List.mem_cons.mp h with rfl | h
    · exact absurd rfl (hother s' ())
    · exact List.mem_cons_of_mem _ (ih h)

/-- What is stored by the first part of some exchanges is what the second part
begins with. -/
theorem storedAfter_append (s : Status) (t₁ t₂ : List PassEvent) :
    storedAfter s (t₁ ++ t₂) = storedAfter (storedAfter s t₁) t₂ := by
  fun_induction storedAfter s t₁ with
  | case1 s => rfl
  | case2 s s' _ t ih => exact ih
  | case3 s e t hother ih =>
    rw [List.cons_append, storedAfter.eq_3 _ _ _ hother]
    exact ih

/-- The status that is stored when a pass is over. -/
def Turn.stored (turn : Turn) : Status :=
  storedAfter turn.pass.resource.status turn.trace

/-- The status that a history leads to from another one. -/
abbrev Reaches (s₀ : Status) : List Turn → Status → Prop :=
  History (fun turn => turn.pass.resource.status) Turn.stored s₀

/-- What a pass begins with, and all that it stores has, is left behind. -/
theorem Turn.stored_of_saved {P : Status → Prop} (turn : Turn)
    (hbegin : P turn.pass.resource.status)
    (hsaved : ∀ s, .saved s ∈ turn.trace → P s) : P turn.stored := by
  rcases storedAfter_cases turn.pass.resource.status turn.trace with hsame
    | hstored
  · rw [stored, hsame]
    exact hbegin
  · exact hsaved _ hstored

/-- What a history begins with, and all has that is stored by passes that begin
with it, every pass begins with, and the history leads to it. -/
theorem Reaches.invariant {P : Status → Prop} {s₀ s : Status}
    {turns : List Turn} (h : Reaches s₀ turns s) (hbegin : P s₀)
    (hstep : ∀ turn ∈ turns, P turn.pass.resource.status → ∀ s,
      .saved s ∈ turn.trace → P s) :
    P s ∧ ∀ turn ∈ turns, P turn.pass.resource.status :=
  h.preserved hbegin fun turn hturn hstatus => turn.stored_of_saved hstatus
    (hstep turn hturn hstatus)

/-! ## Simulated passes -/

/-- A pass with what a machine answers to it. -/
def Turn.simulated {σ : Type} (answer : σ → (c : PassCall) → c.Answer × σ)
    (p : Pass) (state : σ) : Turn where
  pass := p
  trace := p.run.transcript answer state
  result := (p.run.interpret answer state).1
  walk := Program.walk_transcript answer p.run state

/-- A pass over a database that may be declared under a name. -/
def Pass.ofDatabase (displayName : Option String) (status : Status)
    (deletionRequested : Bool) (now : Instant) : Pass :=
  { settings := {}
    resource :=
      { kind := .autonomousDatabase
        name := "sales"
        namespaceName := "default"
        uid := some "7"
        hardLink := true
        deletionRequested
        provisioningAttributes := { displayName }
        listFilter := { displayName }
        status }
    now }

/-- A remote that loses the answer to a create. -/
def losingRemote : Simulation :=
  { remote := { lost := ["create"] } }

end DatabaseOperator
