import DatabaseOperator.Program

/-!
# Walks through a program

A program is the tree of its questions, so what can happen to it is a branch of
that tree: the questions on the way, each with the answer it got, and the result
at the end. Answers are arbitrary, which makes a statement about all walks a
statement about every behaviour of the surroundings.

- `Exchange`: a question with its answer.
- `Program.Walk`: a branch of a program, with its result.
- `Program.walk_bind_iff`: a walk through one program after another falls into a
  walk through each.
- `Program.Walk.unique`: a walk is settled by the answers.
- `Program.transcript`, `Program.walk_transcript`: what a machine with a state
  answers is a walk.
- `Program.Answering`, `Program.walk_substituteWith_iff`: a walk through a
  program whose questions are answered by programs is a walk through that
  program, with walks through those that answer.
-/

namespace DatabaseOperator

/-- A question and the answer it got. -/
structure Exchange (Question : Type) (Answer : Question → Type) where
  question : Question
  answer : Answer question

namespace Program

variable {Question : Type} {Answer : Question → Type} {α β : Type}

/-- A branch of a program: the exchanges on the way, in order, and the result at
its end. -/
inductive Walk : Program Question Answer α → List (Exchange Question Answer) →
    α → Prop where
  | done (result : α) : Walk (done result) [] result
  | ask {question : Question}
      {next : Answer question → Program Question Answer α}
      {trace : List (Exchange Question Answer)} {result : α}
      (answer : Answer question) (rest : Walk (next answer) trace result) :
      Walk (ask question next) (⟨question, answer⟩ :: trace) result

/-! ## Walks by the shape of the program -/

@[simp] theorem walk_done_iff {a b : α}
    {trace : List (Exchange Question Answer)} :
    (done a : Program Question Answer α).Walk trace b ↔ trace = [] ∧ b = a := by
  constructor
  · rintro ⟨⟩
    exact ⟨rfl, rfl⟩
  · rintro ⟨rfl, rfl⟩
    exact .done b

@[simp] theorem walk_ask_iff {question : Question}
    {next : Answer question → Program Question Answer α} {b : α}
    {trace : List (Exchange Question Answer)} :
    (ask question next).Walk trace b
      ↔ ∃ answer rest, trace = ⟨question, answer⟩ :: rest
      ∧ (next answer).Walk rest b := by
  constructor
  · intro h
    cases h with
    | ask answer rest => exact ⟨answer, _, rfl, rest⟩
  · rintro ⟨answer, rest, rfl, h⟩
    exact .ask answer h

/-- A question after which the program is over, whatever the answer. -/
theorem walk_ask_iff_of_done {question : Question}
    {next : Answer question → Program Question Answer α}
    {f : Answer question → α} (hf : ∀ answer, next answer = done (f answer))
    {b : α} {trace : List (Exchange Question Answer)} :
    (ask question next).Walk trace b
      ↔ ∃ answer, trace = [⟨question, answer⟩] ∧ b = f answer := by
  rw [walk_ask_iff]
  refine exists_congr fun answer => ?_
  rw [hf]
  constructor
  · rintro ⟨rest, rfl, h⟩
    obtain ⟨rfl, rfl⟩ := walk_done_iff.mp h
    exact ⟨rfl, rfl⟩
  · rintro ⟨rfl, rfl⟩
    exact ⟨[], rfl, .done _⟩

/-- A question whose answer settles the result. -/
theorem walk_ask_done_iff {question : Question} {f : Answer question → α}
    {b : α} {trace : List (Exchange Question Answer)} :
    (ask question fun answer => done (f answer)).Walk trace b
      ↔ ∃ answer, trace = [⟨question, answer⟩] ∧ b = f answer :=
  walk_ask_iff_of_done fun _ => rfl

@[simp] theorem walk_pure_iff {a b : α}
    {trace : List (Exchange Question Answer)} :
    (pure a : Program Question Answer α).Walk trace b ↔ trace = [] ∧ b = a :=
  walk_done_iff

@[simp] theorem walk_query_iff {question : Question} {b : Answer question}
    {trace : List (Exchange Question Answer)} :
    (query question : Program Question Answer (Answer question)).Walk trace b
      ↔ trace = [⟨question, b⟩] := by
  constructor
  · intro h
    obtain ⟨answer, rest, rfl, hrest⟩ := walk_ask_iff.mp h
    obtain ⟨rfl, rfl⟩ := walk_done_iff.mp hrest
    rfl
  · rintro rfl
    exact .ask b (.done b)

/-- Walks through two programs, one after the other, make a walk through their
sequence. -/
theorem Walk.append {p : Program Question Answer α}
    {f : α → Program Question Answer β} {a : α} {b : β}
    {t₁ t₂ : List (Exchange Question Answer)} (h₁ : p.Walk t₁ a)
    (h₂ : (f a).Walk t₂ b) : (p >>= f).Walk (t₁ ++ t₂) b := by
  induction h₁ with
  | done => exact h₂
  | ask answer _ ih => exact .ask answer (ih h₂)

/-- A walk through a sequence falls into a walk through the first program and
one through what follows its result. -/
theorem walk_bind_iff {p : Program Question Answer α}
    {f : α → Program Question Answer β} {b : β}
    {trace : List (Exchange Question Answer)} :
    (p >>= f).Walk trace b ↔ ∃ t₁ a t₂,
      trace = t₁ ++ t₂ ∧ p.Walk t₁ a ∧ (f a).Walk t₂ b := by
  constructor
  · intro h
    induction p generalizing trace with
    | done a => exact ⟨[], a, trace, rfl, .done a, h⟩
    | ask question next ih =>
      -- the first question of the sequence is that of its first program
      obtain ⟨answer, rest, rfl, hrest⟩ := walk_ask_iff.mp h
      obtain ⟨t₁, a, t₂, rfl, h₁, h₂⟩ := ih answer hrest
      exact ⟨_, a, t₂, rfl, .ask answer h₁, h₂⟩
  · rintro ⟨t₁, a, t₂, rfl, h₁, h₂⟩
    exact h₁.append h₂

/-- A walk is over where the program is: no other walk through it goes on from
the same beginning. -/
theorem Walk.unique {p : Program Question Answer α}
    {t t' u u' : List (Exchange Question Answer)} {a b : α} (h : p.Walk t a)
    (h' : p.Walk t' b) (htrace : t ++ u = t' ++ u') :
    t = t' ∧ a = b ∧ u = u' := by
  induction h generalizing t' with
  | done =>
    obtain ⟨rfl, rfl⟩ := walk_done_iff.mp h'
    exact ⟨rfl, rfl, htrace⟩
  | ask answer _ ih =>
    obtain ⟨answer', rest', rfl, hrest⟩ := walk_ask_iff.mp h'
    obtain ⟨hexchange, hafter⟩ := List.cons.inj htrace
    cases hexchange
    obtain ⟨rfl, rfl, hu⟩ := ih hrest hafter
    exact ⟨rfl, rfl, hu⟩

/-! ## The walks of machines -/

/-- The exchanges of a program whose questions are answered by a machine. -/
def transcript {σ : Type}
    (answer : σ → (question : Question) → Answer question × σ) :
    Program Question Answer α → σ → List (Exchange Question Answer)
  | done _, _ => []
  | ask question next, state =>
    let (reply, state) := answer state question
    ⟨question, reply⟩ :: (next reply).transcript answer state

/-- What a machine answers is a walk to the result that the program has with
it. -/
theorem walk_transcript {σ : Type}
    (answer : σ → (question : Question) → Answer question × σ)
    (p : Program Question Answer α) (state : σ) :
    p.Walk (p.transcript answer state) (p.interpret answer state).1 := by
  induction p generalizing state with
  | done result => exact .done result
  | ask question next ih =>
    exact .ask _ (ih (answer state question).1 (answer state question).2)

/-! ## Questions answered by programs -/

section Answering

variable {Other σ : Type} {Reply : Other → Type}
    {t : List (Exchange Question Answer)} {u : List (Exchange Other Reply)}
    {answer : σ → (question : Question) →
      Program Other Reply (Answer question × σ)} {state state' : σ}

/-- Questions are answered one after the other by programs that ask others: the
first trace holds the questions with their answers, the second one what was
asked for them. Each program begins with the state that the one before left. -/
inductive Answering (answer : σ → (question : Question) →
    Program Other Reply (Answer question × σ)) : σ →
      List (Exchange Question Answer) → List (Exchange Other Reply) → σ →
        Prop where
  | nil (state : σ) : Answering answer state [] [] state
  | cons {state state' state'' : σ} {e : Exchange Question Answer}
      {t : List (Exchange Question Answer)} {u u' : List (Exchange Other Reply)}
      (first : (answer state e.question).Walk u (e.answer, state'))
      (rest : Answering answer state' t u' state'') :
      Answering answer state (e :: t) (u ++ u') state''

/-- A walk through a program whose questions are answered by programs is a walk
through the program itself, with what is asked for its questions. -/
theorem walk_substituteWith_iff {p : Program Question Answer α} {r : α × σ} :
    (p.substituteWith answer state).Walk u r
      ↔ ∃ t, p.Walk t r.1 ∧ Answering answer state t u r.2 := by
  constructor
  · intro h
    induction p generalizing state u with
    | done a =>
      obtain ⟨rfl, rfl⟩ := walk_done_iff.mp h
      exact ⟨[], .done a, .nil state⟩
    | ask question next ih =>
      obtain ⟨u₁, ⟨reply, state'⟩, u₂, rfl, first, rest⟩ := walk_bind_iff.mp h
      obtain ⟨t, walk, answering⟩ := ih reply rest
      exact ⟨⟨question, reply⟩ :: t, .ask reply walk, .cons first answering⟩
  · rintro ⟨t, walk, answering⟩
    obtain ⟨a, state'⟩ := r
    simp only at walk answering
    induction walk generalizing state u with
    | done a =>
      cases answering
      exact .done _
    | ask reply _ ih =>
      cases answering with
      | cons first rest => exact first.append (ih rest)

theorem Answering.of_append {t₁ t₂ : List (Exchange Question Answer)}
    (h : Answering answer state (t₁ ++ t₂) u state') :
    ∃ u₁ u₂ state₁, u = u₁ ++ u₂ ∧ Answering answer state t₁ u₁ state₁
      ∧ Answering answer state₁ t₂ u₂ state' := by
  induction t₁ generalizing state u with
  | nil => exact ⟨[], u, state, rfl, .nil state, h⟩
  | cons e t₁ ih =>
    cases h with
    | @cons _ _ _ _ _ u _ first rest =>
      obtain ⟨u₁, u₂, state₁, rfl, h₁, h₂⟩ := ih rest
      exact ⟨u ++ u₁, u₂, state₁, (List.append_assoc ..).symm,
        .cons first h₁, h₂⟩

/-- Every exchange of the answering programs belongs to one of the questions,
and the ones before it to this question or to earlier ones. -/
theorem Answering.split (h : Answering answer state t u state')
    {before after : List (Exchange Other Reply)} {e : Exchange Other Reply}
    (hu : u = before ++ e :: after) :
    ∃ t₁ q t₂ u₁ u₂ u₃ state₁ state₂, t = t₁ ++ q :: t₂ ∧ before = u₁ ++ u₂
      ∧ Answering answer state t₁ u₁ state₁
      ∧ (answer state₁ q.question).Walk (u₂ ++ e :: u₃) (q.answer, state₂) := by
  induction h generalizing before with
  | nil =>
    have hlength := congrArg List.length hu
    simp at hlength
  | @cons state state₁ _ q t u u' first rest ih =>
    rcases List.append_eq_append_iff.mp hu with ⟨u₂, rfl, hrest⟩
      | ⟨u₃, rfl, hafter⟩
    · obtain ⟨t₁, q', t₂, u₁, u₂', u₃, s₁, s₂, rfl, rfl, answering, walk⟩ :=
        ih hrest
      exact ⟨q :: t₁, q', t₂, u ++ u₁, u₂', u₃, s₁, s₂, rfl,
        (List.append_assoc ..).symm, .cons first answering, walk⟩
    · cases u₃ with
      | nil =>
        -- the exchange is the first one for the questions that follow
        have hrest : u' = [] ++ e :: after := hafter.symm
        obtain ⟨t₁, q', t₂, u₁, u₂', u₃, s₁, s₂, rfl, hnil, answering, walk⟩ :=
          ih hrest
        refine ⟨q :: t₁, q', t₂, before ++ u₁, u₂', u₃, s₁, s₂, rfl, ?_,
          .cons (by simpa using first) answering, walk⟩
        rw [List.append_assoc, ← hnil, List.append_nil]
      | cons e' u₃ =>
        obtain ⟨rfl, -⟩ := List.cons.inj hafter
        exact ⟨[], q, t, [], before, u₃, state, state₁, rfl, rfl,
          .nil state, first⟩

end Answering

end Program

end DatabaseOperator
