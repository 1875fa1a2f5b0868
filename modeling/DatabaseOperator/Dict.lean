/-!
# Dictionaries

Finite maps from text keys to values, kept as the list of their entries in
rising order of the keys. Two dictionaries with the same entries are equal, and
what is written from one comes out in key order.

- `Dict α`: the entries, with the proof that their keys rise.
- `Dict.insert`, `Dict.erase`, `Dict.get?`: one key.
- `Dict.ofList`: entries in any order, a later one for the same key wins.
-/

namespace DatabaseOperator

/-- The keys of a list of entries rise. -/
def KeysRise {α : Type} (entries : List (String × α)) : Prop :=
  entries.Pairwise fun a b => a.1 < b.1

/-- A finite map with text keys, its entries in rising order of the keys. Keys
are ordered by code points, which for text in UTF-8 is the order of the
bytes. -/
structure Dict (α : Type) where
  entries : List (String × α)
  rise : KeysRise entries

namespace Dict

variable {α β : Type}

instance [DecidableEq α] : DecidableEq (Dict α) := fun a b =>
  if h : a.entries = b.entries then
    isTrue (by cases a; cases b; cases h; rfl)
  else
    isFalse fun e => h (congrArg entries e)

/-- The map without entries. -/
def empty : Dict α :=
  ⟨[], List.Pairwise.nil⟩

instance : Inhabited (Dict α) := ⟨empty⟩

instance : EmptyCollection (Dict α) := ⟨empty⟩

/-- The value in a list of entries under a key. -/
def lookIn (key : String) : List (String × α) → Option α
  | [] => none
  | (k, v) :: rest => if k = key then some v else lookIn key rest

/-- The value under a key. -/
def get? (d : Dict α) (key : String) : Option α :=
  lookIn key d.entries

/-- Whether a key has a value. -/
def contains (d : Dict α) (key : String) : Bool :=
  (d.get? key).isSome

/-- The keys in rising order. -/
def keys (d : Dict α) : List String :=
  d.entries.map Prod.fst

/-- The values in the order of their keys. -/
def values (d : Dict α) : List α :=
  d.entries.map Prod.snd

/-- An entry put at its place in a list of rising keys, in the stead of one with
the same key. -/
def insertInto (key : String) (value : α) :
    List (String × α) → List (String × α)
  | [] => [(key, value)]
  | (k, v) :: rest =>
    if key < k then (key, value) :: (k, v) :: rest
    else if k < key then (k, v) :: insertInto key value rest
    else (key, value) :: rest

theorem mem_insertInto {key : String} {value : α} {entries : List (String × α)}
    {e : String × α} (h : e ∈ insertInto key value entries) :
    e = (key, value) ∨ e ∈ entries := by
  induction entries with
  | nil => simpa [insertInto] using h
  | cons hd rest ih =>
    obtain ⟨k, v⟩ := hd
    unfold insertInto at h
    split at h
    · simpa using h
    · split at h
      · rcases List.mem_cons.1 h with rfl | h
        · simp
        · rcases ih h with rfl | h <;> simp [*]
      · rcases List.mem_cons.1 h with rfl | h <;> simp [*]

theorem keysRise_insertInto {key : String} {value : α}
    {entries : List (String × α)} (h : KeysRise entries) :
    KeysRise (insertInto key value entries) := by
  induction entries with
  | nil => simp [insertInto, KeysRise]
  | cons hd rest ih =>
    obtain ⟨k, v⟩ := hd
    have hrest : KeysRise rest := (List.pairwise_cons.1 h).2
    have hk : ∀ e ∈ rest, k < e.1 := (List.pairwise_cons.1 h).1
    unfold insertInto
    split
    · next hlt =>
      refine List.pairwise_cons.2 ⟨fun e he => ?_, h⟩
      rcases List.mem_cons.1 he with rfl | he
      · exact hlt
      · exact String.lt_trans hlt (hk e he)
    · next hge =>
      split
      · next hlt =>
        refine List.pairwise_cons.2 ⟨fun e he => ?_, ih hrest⟩
        rcases mem_insertInto he with rfl | he
        · exact hlt
        · exact hk e he
      · next hle =>
        have hkk : key = k :=
          String.le_antisymm (String.not_lt.1 hle) (String.not_lt.1 hge)
        subst hkk
        exact List.pairwise_cons.2 ⟨fun e he => hk e he, hrest⟩

/-- The map with a value under a key, whatever was there before. -/
def insert (d : Dict α) (key : String) (value : α) : Dict α :=
  ⟨insertInto key value d.entries, keysRise_insertInto d.rise⟩

/-- The map without a key. -/
def erase (d : Dict α) (key : String) : Dict α :=
  ⟨d.entries.filter (fun e => e.1 != key), d.rise.filter _⟩

/-- The map of a list of entries; of two with one key the later counts. -/
def ofList (entries : List (String × α)) : Dict α :=
  entries.foldl (fun d e => d.insert e.1 e.2) empty

theorem keysRise_map (f : α → β) {entries : List (String × α)}
    (h : KeysRise entries) : KeysRise (entries.map fun e => (e.1, f e.2)) := by
  unfold KeysRise at *
  exact List.pairwise_map.2 h

/-- The map with each value replaced by its image. -/
def map (f : α → β) (d : Dict α) : Dict β :=
  ⟨d.entries.map fun e => (e.1, f e.2), keysRise_map f d.rise⟩

/-- No entry at all. -/
def isEmpty (d : Dict α) : Bool :=
  d.entries.isEmpty

/-! ## Small facts -/

theorem ext {a b : Dict α} (h : a.entries = b.entries) : a = b := by
  cases a; cases b; cases h; rfl

theorem lookIn_insertInto_self (key : String) (value : α)
    (entries : List (String × α)) :
    lookIn key (insertInto key value entries) = some value := by
  induction entries with
  | nil => simp [insertInto, lookIn]
  | cons hd rest ih =>
    obtain ⟨k, v⟩ := hd
    unfold insertInto
    split
    · simp [lookIn]
    · split
      · next hlt =>
        have hne : k ≠ key := fun e => String.lt_irrefl key (e ▸ hlt)
        simp [lookIn, hne, ih]
      · simp [lookIn]

theorem get?_insert_self (d : Dict α) (key : String) (value : α) :
    (d.insert key value).get? key = some value :=
  lookIn_insertInto_self key value d.entries

theorem get?_empty (key : String) : (empty : Dict α).get? key = none := rfl

end Dict

end DatabaseOperator
