import DatabaseOperator.Pass.Run
import DatabaseOperator.Proofs.Walk

/-!
# Walks through the stages of a pass

What a stage of a pass can do is said once: the calls it makes, what comes back,
and the status it ends with. Every statement about whole passes starts from
there, and no stage is opened again. Here are the calls that all stages are made
of, and the endings.

- `PassEvent`: a call of a pass with what came back.
- `Pass.outcomeOf`: what a reply amounts to, a call that hangs being a transient
  failure.
- `Pass.walk_call_bind_iff`, `Pass.walk_askStore_bind_iff`: a call with what
  depends on its reply.
- `Pass.walk_finish_iff`, `Pass.walk_release_iff`: the two ways to end.
- `Pass.eq_of_saved_mem_append_finish`, `Pass.eq_of_saved_mem_sent`: what is
  stored by an ending, and around a call.
-/

namespace DatabaseOperator

/-- A call of a pass with what came back. -/
abbrev PassEvent : Type :=
  Exchange PassCall PassCall.Answer

namespace Exchange

/-- A call to the remote with its reply. -/
abbrev remote (call : RemoteCall) (reply : Reply call.Answer) : PassEvent :=
  ⟨.remote call, reply⟩

/-- A call to the store with its answer. -/
abbrev store (call : StoreCall) (answer : Except OperatorError call.Answer) :
    PassEvent :=
  ⟨.store call, answer⟩

/-- The store has taken a status. -/
abbrev saved (status : Status) : PassEvent :=
  store (.saveStatus status) (.ok ())

end Exchange

/-! ## Replies -/

namespace Reply

/-- The remote answered that it does not know the object. -/
def isNotFound {α : Type} : Reply α → Bool
  | failed e => e.isNotFound
  | _ => false

/-- The objects that a list shows; none if it could not be read. -/
def items : Reply (List Snapshot) → List Snapshot
  | answered items => items
  | _ => []

end Reply

/-- The object with an identity among those that are listed. -/
def listedAs (id : String) (items : List Snapshot) : Option Snapshot :=
  items.find? fun item => item.id == id

/-- The only live object among those that are listed. -/
def soleLive (items : List Snapshot) : Option Snapshot :=
  match items.filter fun item => !item.state.isTornDown with
  | [item] => some item
  | _ => none

namespace Pass

variable {p : Pass}

/-- What the reply to a call amounts to. -/
def outcomeOf (p : Pass) {α : Type} (reply : Reply α) : Except RemoteError α :=
  reply.settle
    ("remote call timed out after "
      ++ Text.digits p.settings.callTimeout.seconds ++ "s")

@[simp] theorem outcomeOf_answered {α : Type} (a : α) :
    p.outcomeOf (.answered a) = .ok a :=
  rfl

@[simp] theorem outcomeOf_failed {α : Type} (e : RemoteError) :
    p.outcomeOf (.failed e : Reply α) = .error e := rfl

theorem outcomeOf_eq_ok_iff {α : Type} {reply : Reply α} {a : α} :
    p.outcomeOf reply = .ok a ↔ reply = .answered a := by
  cases reply <;> simp [outcomeOf, Reply.settle]

/-- Only an answer says that an object is not known. -/
theorem eq_failed_of_isNotFound {α : Type} {reply : Reply α} {e : RemoteError}
    (h : p.outcomeOf reply = .error e) (he : e.isNotFound = true) :
    reply = .failed e := by
  cases reply with
  | answered a => cases h
  | failed e' => cases h; rfl
  | hung => cases h; cases he

/-! ## Calls -/

@[simp] theorem walk_call_iff {c : RemoteCall} {t : List PassEvent}
    {r : Except RemoteError c.Answer} :
    (p.call c).Walk t r
      ↔ ∃ reply, t = [.remote c reply] ∧ r = p.outcomeOf reply := by
  unfold call askRemote
  exact Program.walk_ask_done_iff

@[simp] theorem walk_askStore_iff {c : StoreCall} {t : List PassEvent}
    {r : Except OperatorError c.Answer} :
    (askStore c).Walk t r ↔ t = [.store c r] :=
  Program.walk_query_iff

/-- A call followed by what depends on its reply. -/
theorem walk_call_bind_iff {c : RemoteCall} {β : Type}
    {f : Except RemoteError c.Answer → PassProgram β} {t : List PassEvent}
    {b : β} :
    (p.call c >>= f).Walk t b ↔ ∃ reply rest,
      t = .remote c reply :: rest ∧ (f (p.outcomeOf reply)).Walk rest b := by
  rw [Program.walk_bind_iff]
  constructor
  · rintro ⟨t₁, a, t₂, rfl, h₁, h₂⟩
    obtain ⟨reply, rfl, rfl⟩ := walk_call_iff.mp h₁
    exact ⟨reply, t₂, rfl, h₂⟩
  · rintro ⟨reply, rest, rfl, h⟩
    exact ⟨[.remote c reply], _, rest, rfl, walk_call_iff.mpr ⟨reply, rfl, rfl⟩,
      h⟩

/-- A call whose reply settles the result. -/
theorem walk_call_done_iff {c : RemoteCall} {β : Type}
    {f : Except RemoteError c.Answer → PassProgram β}
    (g : Except RemoteError c.Answer → β) (hf : ∀ r, f r = .done (g r))
    {t : List PassEvent} {b : β} :
    (p.call c >>= f).Walk t b
      ↔ ∃ reply, t = [.remote c reply] ∧ b = g (p.outcomeOf reply) := by
  rw [walk_call_bind_iff]
  refine exists_congr fun reply => ?_
  rw [hf]
  constructor
  · rintro ⟨rest, rfl, h⟩
    obtain ⟨rfl, rfl⟩ := Program.walk_done_iff.mp h
    exact ⟨rfl, rfl⟩
  · rintro ⟨rfl, rfl⟩
    exact ⟨[], rfl, .done _⟩

/-- A call to the store followed by what depends on its answer. -/
theorem walk_askStore_bind_iff {c : StoreCall} {β : Type}
    {f : Except OperatorError c.Answer → PassProgram β} {t : List PassEvent}
    {b : β} :
    (askStore c >>= f).Walk t b ↔ ∃ answer rest,
      t = .store c answer :: rest ∧ (f answer).Walk rest b := by
  rw [Program.walk_bind_iff]
  constructor
  · rintro ⟨t₁, a, t₂, rfl, h₁, h₂⟩
    obtain rfl := walk_askStore_iff.mp h₁
    exact ⟨a, t₂, rfl, h₂⟩
  · rintro ⟨answer, rest, rfl, h⟩
    exact ⟨[.store c answer], answer, rest, rfl, walk_askStore_iff.mpr rfl, h⟩

/-! ## The two ways to end -/

/-- What a pass leaves behind that ends with the next one due after a while. -/
def Progress.ended (g : Progress) (requeue : Duration) : Outcome :=
  { requeue := some requeue, dispatched := g.dispatched, status := g.status,
    finalized := false }

/-- What a pass leaves behind that lets the resource go. -/
def Progress.released (g : Progress) : Outcome :=
  { requeue := none, dispatched := g.dispatched, status := g.status,
    finalized := true }

/-- A pass ends without a call if nothing is to be stored, and otherwise with
one attempt to store the status. -/
theorem walk_finish_iff {g : Progress} {requeue : Duration} {t : List PassEvent}
    {r : Except OperatorError Outcome} :
    (finish g requeue).Walk t r
      ↔ (g.status = g.persisted ∧ t = [] ∧ r = .ok (g.ended requeue))
        ∨ (g.status ≠ g.persisted
          ∧ ∃ answer, t = [.store (.saveStatus g.status) answer]
            ∧ r = answer.map fun _ => g.ended requeue) := by
  unfold finish
  split
  next h => simp [h, Progress.ended]
  next h =>
    simp only [h, false_and, false_or, ne_eq, not_false_eq_true, true_and]
    exact Program.walk_ask_iff_of_done fun answer => by cases answer <;> rfl

/-- If that succeeds, the pass leaves behind what it has come to. -/
theorem ended_of_walk_finish {g : Progress} {requeue : Duration}
    {t : List PassEvent} {o : Outcome} (h : (finish g requeue).Walk t (.ok o)) :
    o = g.ended requeue := by
  rcases walk_finish_iff.mp h with ⟨-, -, hr⟩ | ⟨-, answer, -, hr⟩
  · exact Except.ok.inj hr
  · cases answer with
    | ok _ => exact Except.ok.inj hr
    | error e => cases hr

/-- Letting go is one call to the store. -/
theorem walk_release_iff {g : Progress} {t : List PassEvent}
    {r : Except OperatorError Outcome} :
    (release g).Walk t r
      ↔ ∃ answer, t = [.store .releaseFinalizer answer]
      ∧ r = answer.map fun _ => g.released := by
  unfold release
  exact Program.walk_ask_iff_of_done fun answer => by cases answer <;> rfl

section Endings

variable {g : Progress} {d : Duration} {s : Status} {t : List PassEvent}
    {r : Except OperatorError Outcome}

theorem remote_not_mem_of_walk_finish {call : RemoteCall}
    {reply : Reply call.Answer} (h : (finish g d).Walk t r) :
    .remote call reply ∉ t := by
  rcases walk_finish_iff.mp h with ⟨-, rfl, -⟩ | ⟨-, answer, rfl, -⟩ <;> simp

theorem remote_not_mem_of_walk_release {call : RemoteCall}
    {reply : Reply call.Answer} (h : (release g).Walk t r) :
    .remote call reply ∉ t := by
  obtain ⟨answer, rfl, -⟩ := walk_release_iff.mp h
  simp

/-- What an ending stores is the status that the pass has come to. -/
theorem eq_of_saved_mem_finish (h : (finish g d).Walk t r) (hs : .saved s ∈ t) :
    s = g.status := by
  rcases walk_finish_iff.mp h with ⟨-, rfl, -⟩ | ⟨-, answer, rfl, -⟩
  · simp at hs
  · cases List.mem_singleton.mp hs
    rfl

theorem saved_not_mem_release (h : (release g).Walk t r) : .saved s ∉ t := by
  obtain ⟨answer, rfl, -⟩ := walk_release_iff.mp h
  simp

variable {t₁ t₂ : List PassEvent} (silent : .saved s ∉ t₁)

include silent

/-- Where nothing is stored before an ending, that status is stored alone. -/
theorem eq_of_saved_mem_append_finish (ending : (finish g d).Walk t₂ r)
    (hs : .saved s ∈ t₁ ++ t₂) : s = g.status :=
  eq_of_saved_mem_finish ending ((List.mem_append.mp hs).resolve_left silent)

theorem saved_not_mem_append_release (ending : (release g).Walk t₂ r) :
    .saved s ∉ t₁ ++ t₂ :=
  fun hs => saved_not_mem_release ending
    ((List.mem_append.mp hs).resolve_left silent)

/-- A write that the store refuses stores nothing. -/
theorem saved_not_mem_append_refused {refused : Status} {e : OperatorError} :
    .saved s ∉ t₁ ++ [.store (.saveStatus refused) (.error e)] := by
  simp [silent]

/-- Around a call that was marked, only the mark and the ending are stored. -/
theorem eq_or_mem_of_saved_mem_sent {marked : Status} {call : RemoteCall}
    {reply : Reply call.Answer}
    (hs : .saved s ∈ t₁ ++ .saved marked :: .remote call reply :: t₂) :
    s = marked ∨ .saved s ∈ t₂ := by
  rcases List.mem_cons.mp ((List.mem_append.mp hs).resolve_left silent)
    with hs | hs
  · cases hs
    exact .inl rfl
  · exact .inr (List.mem_of_ne_of_mem (by simp) hs)

/-- So the status at the end is the only one besides the mark. -/
theorem eq_of_saved_mem_sent {marked : Status} {call : RemoteCall}
    {reply : Reply call.Answer} (ending : (finish g d).Walk t₂ r)
    (hs : .saved s ∈ t₁ ++ .saved marked :: .remote call reply :: t₂) :
    s = marked ∨ s = g.status :=
  (eq_or_mem_of_saved_mem_sent silent hs).imp_right
    (eq_of_saved_mem_finish ending)

end Endings

end Pass

end DatabaseOperator
