import Mathlib.Data.List.Basic
import DatabaseOperator.Text.Blank

/-!
# Texts made of parts

Where one part of a text ends and the next one begins can be told if the first
holds no character of those that may follow it.

- `Text.append_inj_of_run`: the longest run of characters of a kind is told from
  what follows it.
- `Text.joinWith_comma_inj`: the parts of a text are told if no comma stands in
  them.
-/

namespace DatabaseOperator.Text

/-- A text does not go on with a character of a kind. -/
def Stops (kind : Char → Bool) (u : List Char) : Prop :=
  ∀ c ∈ u.head?, kind c = false

theorem stops_nil (kind : Char → Bool) : Stops kind [] := by
  intro c hc
  cases hc

theorem stops_cons {kind : Char → Bool} {c : Char} (h : kind c = false)
    (u : List Char) : Stops kind (c :: u) := by
  intro c' hc
  cases hc
  exact h

/-- A run of characters of a kind is told from what follows it, if that does not
go on with one. -/
theorem append_inj_of_run {kind : Char → Bool} {s s' u u' : List Char}
    (run : ∀ c ∈ s, kind c = true) (run' : ∀ c ∈ s', kind c = true)
    (stops : Stops kind u) (stops' : Stops kind u') (h : s ++ u = s' ++ u') :
    s = s' ∧ u = u' := by
  have hstop : ∀ {w : List Char}, Stops kind w → w.takeWhile kind = [] := by
    intro w hw
    cases w with
    | nil => rfl
    | cons c w => simp [hw c rfl]
  have htake := congrArg (List.takeWhile kind) h
  rw [List.takeWhile_append_of_pos run, hstop stops,
    List.takeWhile_append_of_pos run', hstop stops', List.append_nil,
    List.append_nil] at htake
  subst htake
  exact ⟨rfl, List.append_cancel_left h⟩

/-! ## Parts between commas -/

/-- No comma stands in a text. -/
def Plain (s : String) : Prop :=
  ',' ∉ s.toList

instance (s : String) : Decidable (Plain s) :=
  inferInstanceAs (Decidable (',' ∉ s.toList))

theorem Plain.run {s : String} (h : Plain s) :
    ∀ c ∈ s.toList, (c != ',') = true := by
  intro c hc
  rw [bne_iff_ne]
  rintro rfl
  exact h hc

/-- What follows a part: a comma and the parts after it, if there are any. -/
def partsAfter : List String → List Char
  | [] => []
  | part :: rest => ',' :: (joinWith "," (part :: rest)).toList

theorem toList_joinWith_cons (part : String) (rest : List String) :
    (joinWith "," (part :: rest)).toList = part.toList ++ partsAfter rest := by
  cases rest with
  | nil => simp [joinWith, partsAfter]
  | cons next rest => simp [joinWith, partsAfter, String.toList_append]

theorem stops_partsAfter (rest : List String) :
    Stops (· != ',') (partsAfter rest) := by
  cases rest with
  | nil => exact stops_nil _
  | cons part rest => exact stops_cons (by decide) _

/-- The first part is told from what follows it. -/
theorem joinWith_comma_cons_inj {part part' : String} {rest rest' : List String}
    (plain : Plain part) (plain' : Plain part')
    (h : joinWith "," (part :: rest) = joinWith "," (part' :: rest')) :
    part = part' ∧ partsAfter rest = partsAfter rest' := by
  have hlist := congrArg String.toList h
  rw [toList_joinWith_cons, toList_joinWith_cons] at hlist
  obtain ⟨hpart, hafter⟩ :=
    append_inj_of_run plain.run plain'.run (stops_partsAfter rest)
      (stops_partsAfter rest') hlist
  exact ⟨String.toList_injective hpart, hafter⟩

/-- The parts of a text are told, if no comma stands in any of them. -/
theorem joinWith_comma_inj {part part' : String} {rest rest' : List String}
    (plain : ∀ s ∈ part :: rest, Plain s)
    (plain' : ∀ s ∈ part' :: rest', Plain s)
    (h : joinWith "," (part :: rest) = joinWith "," (part' :: rest')) :
    part = part' ∧ rest = rest' := by
  induction rest generalizing part part' rest' with
  | nil =>
    obtain ⟨hpart, hafter⟩ :=
      joinWith_comma_cons_inj (plain _ (List.mem_cons_self ..))
        (plain' _ (List.mem_cons_self ..)) h
    cases rest' with
    | nil => exact ⟨hpart, rfl⟩
    | cons => cases hafter
  | cons next rest ih =>
    obtain ⟨hpart, hafter⟩ :=
      joinWith_comma_cons_inj (plain _ (List.mem_cons_self ..))
        (plain' _ (List.mem_cons_self ..)) h
    cases rest' with
    | nil => cases hafter
    | cons next' rest' =>
      obtain ⟨rfl, rfl⟩ := ih (fun s hs => plain s (List.mem_cons_of_mem _ hs))
        (fun s hs => plain' s (List.mem_cons_of_mem _ hs))
        (String.toList_injective (List.cons.inj hafter).2)
      exact ⟨hpart, rfl⟩

end DatabaseOperator.Text
