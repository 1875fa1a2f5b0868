/-!
# Programs that ask questions

A computation that talks to its surroundings is written as the tree of the
questions it asks: each node carries a question and what to do with every
possible answer. Nothing is said about where answers come from, so a statement
about all surroundings is a statement about all branches of the tree, and a run
is a walk through it.

- `Program`: the tree; it is finite, so every program comes to an end.
- `Program.bind`: one program after another, with the laws of a monad.
- `Program.interpret`: a walk through the tree, with answers from a machine that
  has a state.
- `Program.substitute`, `Program.substituteWith`: every question answered by a
  program that asks questions of another kind, in the second form with a state
  kept between the questions.
-/

namespace DatabaseOperator

/-- A computation that ends with a result, after asking questions whose answers
it cannot foresee. -/
inductive Program (Question : Type) (Answer : Question → Type) (α : Type) where
  | done (result : α)
  | ask (question : Question) (next : Answer question →
      Program Question Answer α)

namespace Program

variable {Question : Type} {Answer : Question → Type} {α β γ : Type}

/-- One question, its answer being the result. -/
def query (question : Question) : Program Question Answer (Answer question) :=
  ask question done

/-- A program followed by another that depends on its result. -/
def bind :
    Program Question Answer α → (α → Program Question Answer β) →
      Program Question Answer β
  | done result, f => f result
  | ask question next, f => ask question fun answer => (next answer).bind f

instance : Monad (Program Question Answer) where
  pure := done
  bind := bind

/-- The result of a program whose questions are answered by a machine, and the
state the machine is left in. -/
def interpret {σ : Type}
    (answer : σ → (question : Question) → Answer question × σ) :
    Program Question Answer α → σ → α × σ
  | done result, state => (result, state)
  | ask question next, state =>
    let (reply, state) := answer state question
    (next reply).interpret answer state

/-- A program whose questions are answered by programs that ask other
questions. -/
def substitute {Other : Type} {Reply : Other → Type}
    (answer : (question : Question) → Program Other Reply (Answer question)) :
    Program Question Answer α → Program Other Reply α
  | done result => done result
  | ask question next =>
    (answer question).bind fun reply => (next reply).substitute answer

/-- A program whose questions are answered by programs that ask other questions
and hand on a state. -/
def substituteWith {Other : Type} {Reply : Other → Type} {σ : Type}
    (answer : σ → (question : Question) →
      Program Other Reply (Answer question × σ)) :
    Program Question Answer α → σ → Program Other Reply (α × σ)
  | done result, state => done (result, state)
  | ask question next, state =>
    (answer state question).bind fun (reply, state) =>
      (next reply).substituteWith answer state

/-! ## Small facts -/

theorem bind_done (p : Program Question Answer α) : p.bind done = p := by
  induction p with
  | done result => rfl
  | ask question next ih => exact congrArg (ask question) (funext ih)

theorem bind_assoc (p : Program Question Answer α)
    (f : α → Program Question Answer β) (g : β → Program Question Answer γ) :
    (p.bind f).bind g = p.bind fun a => (f a).bind g := by
  induction p with
  | done result => rfl
  | ask question next ih => exact congrArg (ask question) (funext ih)

end Program

end DatabaseOperator
