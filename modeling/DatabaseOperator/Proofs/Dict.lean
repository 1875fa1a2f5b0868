import Mathlib.Data.List.Basic
import Mathlib.Data.List.Nodup
import DatabaseOperator.Dict

/-!
# Dictionaries are what they hold under their keys

- `Dict.ext_get?`: two dictionaries that hold the same under every key are the
  same.
- `Dict.mem_values_iff`: the values are what is held under some key.
- `Dict.overlay`, `Dict.get?_overlay`: a dictionary laid over another, and what
  it holds.
- `Dict.get?_ofList`: a dictionary that is made of its entries.
- `Dict.overlay_eq_iff`: when the upper dictionary is all that is seen.
-/

namespace DatabaseOperator.Dict

variable {α : Type} {key other : String} {value : α}
    {entries : List (String × α)} {d d' : Dict α}

/-! ## Lists of entries -/

theorem lookIn_cons_self (key : String) (value : α)
    (entries : List (String × α)) :
    lookIn key ((key, value) :: entries) = some value :=
  if_pos rfl

theorem lookIn_cons_of_ne (h : other ≠ key) (value : α)
    (entries : List (String × α)) :
    lookIn key ((other, value) :: entries) = lookIn key entries :=
  if_neg h

/-- In a list of entries whose keys are told apart, each key has the value of
its entry. -/
theorem lookIn_of_mem (once : (entries.map Prod.fst).Nodup)
    (h : (key, value) ∈ entries) : lookIn key entries = some value := by
  induction entries with
  | nil => cases h
  | cons e rest ih =>
    obtain ⟨k, v⟩ := e
    obtain ⟨hfresh, honce⟩ := List.nodup_cons.mp once
    rcases List.mem_cons.mp h with hsame | hrest
    · cases hsame
      exact lookIn_cons_self ..
    · have hne : k ≠ key := by
        rintro rfl
        exact hfresh (List.mem_map.mpr ⟨_, hrest, rfl⟩)
      rw [lookIn_cons_of_ne hne]
      exact ih honce hrest

theorem lookIn_eq_none_iff :
    lookIn key entries = none ↔ key ∉ entries.map Prod.fst := by
  induction entries with
  | nil => simp [lookIn]
  | cons e rest ih =>
    obtain ⟨k, v⟩ := e
    by_cases hk : k = key
    · subst hk
      rw [lookIn_cons_self]
      simp
    · rw [lookIn_cons_of_ne hk, ih]
      simp [Ne.symm hk]

theorem lookIn_insertInto_of_ne (h : other ≠ key) (value : α)
    (entries : List (String × α)) :
    lookIn other (insertInto key value entries) = lookIn other entries := by
  induction entries with
  | nil => exact lookIn_cons_of_ne h.symm ..
  | cons e rest ih =>
    obtain ⟨k, v⟩ := e
    unfold insertInto
    split
    next => exact lookIn_cons_of_ne h.symm ..
    next hge =>
      split
      next =>
        by_cases hk : k = other
        · subst hk
          rw [lookIn_cons_self, lookIn_cons_self]
        · rw [lookIn_cons_of_ne hk, lookIn_cons_of_ne hk, ih]
      next hle =>
        have hkk : key = k :=
          String.le_antisymm (String.not_lt.1 hle) (String.not_lt.1 hge)
        subst hkk
        rw [lookIn_cons_of_ne h.symm, lookIn_cons_of_ne h.symm]

theorem get?_insert_of_ne (h : other ≠ key) (d : Dict α) (value : α) :
    (d.insert key value).get? other = d.get? other :=
  lookIn_insertInto_of_ne h value d.entries

/-! ## Keys that rise -/

theorem nodup_keys (d : Dict α) : (d.entries.map Prod.fst).Nodup := by
  refine List.pairwise_map.mpr (List.Pairwise.imp ?_ d.rise)
  intro a b hlt heq
  rw [heq] at hlt
  exact String.lt_irrefl _ hlt

/-- No entry of a list stands under a key that is below all of its keys. -/
theorem lookIn_eq_none_of_lt (h : ∀ e ∈ entries, key < e.1) :
    lookIn key entries = none := by
  rw [lookIn_eq_none_iff]
  intro hmem
  obtain ⟨e, he, rfl⟩ := List.mem_map.mp hmem
  exact String.lt_irrefl _ (h e he)

theorem eq_of_lookIn_eq {as bs : List (String × α)} (rise : KeysRise as)
    (rise' : KeysRise bs) (h : ∀ key, lookIn key as = lookIn key bs) :
    as = bs := by
  induction as generalizing bs with
  | nil =>
    cases bs with
    | nil => rfl
    | cons e rest =>
      have hfirst := h e.1
      rw [lookIn_cons_self] at hfirst
      cases hfirst
  | cons e rest ih =>
    obtain ⟨k, v⟩ := e
    cases bs with
    | nil =>
      have hfirst := h k
      rw [lookIn_cons_self] at hfirst
      cases hfirst
    | cons e' rest' =>
      obtain ⟨k', v'⟩ := e'
      obtain ⟨habove, hrise⟩ := List.pairwise_cons.mp rise
      obtain ⟨habove', hrise'⟩ := List.pairwise_cons.mp rise'
      -- neither of the first keys is below the other, since both lists have
      -- both
      have hge : ¬ k < k' := by
        intro hlt
        have hnone : lookIn k ((k', v') :: rest') = none := by
          refine lookIn_eq_none_of_lt fun e he => ?_
          rcases List.mem_cons.mp he with rfl | he
          · exact hlt
          · exact String.lt_trans hlt (habove' e he)
        rw [← h k, lookIn_cons_self] at hnone
        cases hnone
      have hle : ¬ k' < k := by
        intro hlt
        have hnone : lookIn k' ((k, v) :: rest) = none := by
          refine lookIn_eq_none_of_lt fun e he => ?_
          rcases List.mem_cons.mp he with rfl | he
          · exact hlt
          · exact String.lt_trans hlt (habove e he)
        rw [h k', lookIn_cons_self] at hnone
        cases hnone
      obtain rfl : k = k' :=
        String.le_antisymm (String.not_lt.1 hle) (String.not_lt.1 hge)
      have hvalue := h k
      rw [lookIn_cons_self, lookIn_cons_self] at hvalue
      cases hvalue
      have hrest : rest = rest' := by
        refine ih hrise hrise' fun key => ?_
        by_cases hkey : k = key
        · subst hkey
          rw [lookIn_eq_none_of_lt habove, lookIn_eq_none_of_lt habove']
        · have hboth := h key
          rwa [lookIn_cons_of_ne hkey, lookIn_cons_of_ne hkey] at hboth
      rw [hrest]

/-- A dictionary is what it holds under its keys. -/
theorem ext_get? (h : ∀ key, d.get? key = d'.get? key) : d = d' :=
  ext (eq_of_lookIn_eq d.rise d'.rise h)

theorem mem_of_lookIn (h : lookIn key entries = some value) :
    (key, value) ∈ entries := by
  induction entries with
  | nil => cases h
  | cons e rest ih =>
    obtain ⟨k, v⟩ := e
    by_cases hk : k = key
    · subst hk
      rw [lookIn_cons_self] at h
      cases h
      exact List.mem_cons_self
    · rw [lookIn_cons_of_ne hk] at h
      exact List.mem_cons_of_mem _ (ih h)

theorem mem_values_iff : value ∈ d.values ↔ ∃ key, d.get? key = some value := by
  unfold values
  rw [List.mem_map]
  constructor
  · rintro ⟨⟨key, value⟩, hmem, rfl⟩
    exact ⟨key, lookIn_of_mem d.nodup_keys hmem⟩
  · rintro ⟨key, h⟩
    exact ⟨(key, value), mem_of_lookIn h, rfl⟩

/-! ## Laying over -/

/-- A dictionary laid over another: where both hold something, the upper one
counts. -/
def overlay (d upper : Dict α) : Dict α :=
  upper.entries.foldl (fun d e => d.insert e.1 e.2) d

theorem get?_foldl_insert (once : (entries.map Prod.fst).Nodup) (d : Dict α)
    (key : String) :
    (entries.foldl (fun d e => d.insert e.1 e.2) d).get? key
      = (lookIn key entries <|> d.get? key) := by
  induction entries generalizing d with
  | nil => rfl
  | cons e rest ih =>
    obtain ⟨k, v⟩ := e
    obtain ⟨hfresh, honce⟩ := List.nodup_cons.mp once
    rw [List.foldl_cons, ih honce]
    by_cases hk : k = key
    · subst hk
      have hnone : lookIn k rest = none := lookIn_eq_none_iff.mpr hfresh
      rw [hnone, lookIn_cons_self, get?_insert_self]
      rfl
    · rw [lookIn_cons_of_ne hk, get?_insert_of_ne (Ne.symm hk)]

theorem get?_overlay (d upper : Dict α) (key : String) :
    (d.overlay upper).get? key = (upper.get? key <|> d.get? key) :=
  get?_foldl_insert upper.nodup_keys d key

theorem get?_ofList (once : (entries.map Prod.fst).Nodup) (key : String) :
    (ofList entries).get? key = lookIn key entries := by
  refine (get?_foldl_insert once empty key).trans ?_
  rw [get?_empty]
  cases lookIn key entries <;> rfl

/-- Laid over, a dictionary hides the other one exactly if it has all of its
keys. -/
theorem overlay_eq_iff (d upper : Dict α) :
    d.overlay upper = upper ↔ ∀ key, d.contains key = true →
      upper.contains key = true := by
  unfold contains
  constructor
  · intro h key hkey
    have hboth := get?_overlay d upper key
    rw [h] at hboth
    cases hupper : upper.get? key with
    | some v => rfl
    | none =>
      rw [hupper] at hboth
      rw [show d.get? key = none from hboth.symm] at hkey
      cases hkey
  · intro h
    refine ext_get? fun key => ?_
    rw [get?_overlay]
    cases hupper : upper.get? key with
    | some v => rfl
    | none =>
      cases hlower : d.get? key with
      | none => rfl
      | some v =>
        have hcovered := h key (by rw [hlower]; rfl)
        rw [hupper] at hcovered
        cases hcovered

theorem empty_overlay (upper : Dict α) :
    (∅ : Dict α).overlay upper = upper := by
  rw [overlay_eq_iff]
  intro key hkey
  cases hkey

end DatabaseOperator.Dict
