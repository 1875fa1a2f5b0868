import Mathlib.Data.List.Basic
import DatabaseOperator.Json.Render
import DatabaseOperator.Json.Token
import DatabaseOperator.Proofs.Text.Digits
import DatabaseOperator.Proofs.Text.Parts

/-!
# JSON text is unambiguous

A value is told by its text, and where the text stands in a longer one, so is
the place at which it ends: a number ends before the first character that
continues none, and everything else is closed by its own punctuation.

- `Json.Number.chars_injective`: numbers are told by their digits.
- `Json.unescape?_escapedChar`, `Json.stringChars_append_inj`: so are strings,
  by what stands between their quotes; `Json.escapedChar_cases` lists how a
  character is written there.
- `Json.chars_append_inj`: and values.
- `Json.render_injective`: no two values have the same text.
-/

namespace DatabaseOperator.Json

/-! ## Numbers -/

/-- No number goes on at the beginning of a text. -/
def Ends (u : List Char) : Prop :=
  Text.Stops Lexer.continuesNumber u

theorem continuesNumber_of_mem_integer {i : Int} {c : Char}
    (h : c ∈ (Text.integer i).toList) : Lexer.continuesNumber c = true := by
  rcases Text.digit_or_minus_of_mem_integer h with hdigit | rfl
  · simp [Lexer.continuesNumber, hdigit]
  · decide

theorem Number.continuesNumber_of_mem {n : Number} {c : Char}
    (h : c ∈ n.chars) : Lexer.continuesNumber c = true := by
  cases n with
  | integer i => exact continuesNumber_of_mem_integer h
  | decimal mantissa exponent =>
    rcases List.mem_append.mp h with h | h
    · exact continuesNumber_of_mem_integer h
    · rcases List.mem_cons.mp h with rfl | h
      · decide
      · exact continuesNumber_of_mem_integer h

/-- The mark of an exponent stands in no integer. -/
theorem exponentMark_not_mem_integer (i : Int) :
    'e' ∉ (Text.integer i).toList := by
  intro h
  rcases Text.digit_or_minus_of_mem_integer h with h | h
  · exact absurd h (by decide)
  · exact absurd h (by decide)

theorem Number.chars_injective : Function.Injective Number.chars := by
  have hinteger : ∀ {i j : Int},
      (Text.integer i).toList = (Text.integer j).toList → i = j :=
    fun h => Text.integer_injective (String.toList_injective h)
  have hmark : ∀ (i mantissa exponent : Int),
      (Text.integer i).toList
        ≠ (Text.integer mantissa).toList
          ++ 'e' :: (Text.integer exponent).toList := by
    intro i mantissa exponent h
    exact exponentMark_not_mem_integer i (by rw [h]; simp)
  intro m n h
  cases m with
  | integer i =>
    cases n with
    | integer j => rw [hinteger h]
    | decimal mantissa exponent => exact absurd h (hmark i mantissa exponent)
  | decimal mantissa exponent =>
    cases n with
    | integer j => exact absurd h.symm (hmark j mantissa exponent)
    | decimal mantissa' exponent' =>
      obtain ⟨hmantissa, -, hexponent⟩ := (List.append_cons_inj_of_notMem
        (exponentMark_not_mem_integer mantissa)
          (exponentMark_not_mem_integer exponent)).mp h
      rw [hinteger hmantissa, hinteger hexponent]

/-- A number is told by its characters and ends where none goes on. -/
theorem Number.chars_append_inj {m n : Number} {u v : List Char} (hu : Ends u)
    (hv : Ends v) (h : m.chars ++ u = n.chars ++ v) : m = n ∧ u = v := by
  obtain ⟨hchars, hrest⟩ :=
    Text.append_inj_of_run (fun c => Number.continuesNumber_of_mem)
      (fun c => Number.continuesNumber_of_mem) hu hv h
  exact ⟨Number.chars_injective hchars, hrest⟩

/-! ## Strings -/

/-- The character that stands at the front of a text in its written form, and
what follows it. -/
def unescape? : List Char → Option (Char × List Char)
  | [] => none
  | '\\' :: 'u' :: _ :: _ :: high :: low :: rest => do
    some (Char.ofNat (16 * (← Text.hexValue? high) + (← Text.hexValue? low)),
      rest)
  | '\\' :: c :: rest => (shortEscape? c).map fun n => (Char.ofNat n, rest)
  | c :: rest => some (c, rest)

theorem hexValue?_hexDigit :
    ∀ n < 16, Text.hexValue? (Text.hexDigit n) = some n :=
  by decide

/-- The three written forms of a character: a short escape, a code in
hexadecimal, or itself. -/
theorem escapedChar_cases (c : Char) :
    (∃ d, escapedChar c = ['\\', d] ∧ d ≠ 'u' ∧ shortEscape? d = some c.toNat)
      ∨ (c.toNat < 0x20
        ∧ escapedChar c = ['\\', 'u', '0', '0', Text.hexDigit (c.toNat / 16),
          Text.hexDigit (c.toNat % 16)])
      ∨ (c ≠ '"' ∧ c ≠ '\\' ∧ 0x20 ≤ c.toNat ∧ escapedChar c = [c]) := by
  have hshort : ∀ d n, c.toNat = n → d ≠ 'u' → shortEscape? d = some n →
      ∃ e, ['\\', d] = ['\\', e] ∧ e ≠ 'u' ∧ shortEscape? e = some c.toNat := by
    rintro d n rfl hother hescape
    exact ⟨d, rfl, hother, hescape⟩
  unfold escapedChar
  split
  next h => exact .inl (hshort '"' _ (congrArg Char.toNat h) (by decide) rfl)
  split
  next h => exact .inl (hshort '\\' _ (congrArg Char.toNat h) (by decide) rfl)
  split
  next h => exact .inl (hshort 'n' _ (congrArg Char.toNat h) (by decide) rfl)
  split
  next h => exact .inl (hshort 'r' _ (congrArg Char.toNat h) (by decide) rfl)
  split
  next h => exact .inl (hshort 't' _ (congrArg Char.toNat h) (by decide) rfl)
  split
  next h => exact .inl (hshort 'b' _ h (by decide) rfl)
  split
  next h => exact .inl (hshort 'f' _ h (by decide) rfl)
  split
  next hcontrol => exact .inr (.inl ⟨hcontrol, rfl⟩)
  next hquote hbackslash _ _ _ _ _ hplain =>
    exact .inr (.inr ⟨hquote, hbackslash, Nat.le_of_not_lt hplain, rfl⟩)

/-- The written form of a character is told from what follows it. -/
theorem unescape?_escapedChar (c : Char) (rest : List Char) :
    unescape? (escapedChar c ++ rest) = some (c, rest) := by
  rcases escapedChar_cases c with ⟨d, hform, hother, hescape⟩
    | ⟨hcontrol, hform⟩ | ⟨-, hbackslash, -, hform⟩
  · rw [hform]
    show unescape? ('\\' :: d :: rest) = _
    unfold unescape?
    split
    next h => cases h
    next h => exact absurd (List.cons.inj (List.cons.inj h).2).1 hother
    next h =>
      obtain ⟨rfl, rfl⟩ := List.cons.inj (List.cons.inj h).2
      rw [hescape, Option.map_some, Char.ofNat_toNat]
    next hplain h =>
      exact (hplain d rest (List.cons.inj h).1.symm
        (List.cons.inj h).2.symm).elim
  · have hsum : 16 * (c.toNat / 16) + c.toNat % 16 = c.toNat := by omega
    rw [hform]
    simp [unescape?, hexValue?_hexDigit _ (show c.toNat / 16 < 16 by omega),
      hexValue?_hexDigit _ (show c.toNat % 16 < 16 by omega), hsum]
  · rw [hform, List.singleton_append, unescape?]
    all_goals simp_all

/-- No written form begins with a quote. -/
theorem escapedChar_ne_quote (c : Char) (u v : List Char) :
    escapedChar c ++ u ≠ '"' :: v := by
  intro h
  have hread := unescape?_escapedChar c u
  rw [h] at hread
  obtain rfl : '"' = c := (Prod.mk.inj (Option.some.inj hread)).1
  exact absurd (List.cons.inj h).1 (by decide)

/-- The contents of a string are told by their written form, which ends at the
first quote. -/
theorem escaped_append_inj {cs ds u v : List Char}
    (h : cs.flatMap escapedChar ++ '"' :: u
      = ds.flatMap escapedChar ++ '"' :: v) : cs = ds ∧ u = v := by
  induction cs generalizing ds with
  | nil =>
    cases ds with
    | nil => exact ⟨rfl, (List.cons.inj h).2⟩
    | cons d ds =>
      rw [List.flatMap_cons, List.append_assoc] at h
      exact absurd h.symm (escapedChar_ne_quote d _ _)
  | cons c cs ih =>
    cases ds with
    | nil =>
      rw [List.flatMap_cons, List.append_assoc] at h
      exact absurd h (escapedChar_ne_quote c _ _)
    | cons d ds =>
      rw [List.flatMap_cons, List.flatMap_cons, List.append_assoc,
        List.append_assoc] at h
      have hread := congrArg unescape? h
      rw [unescape?_escapedChar, unescape?_escapedChar] at hread
      obtain ⟨rfl, hrest⟩ := Prod.mk.inj (Option.some.inj hread)
      obtain ⟨rfl, rfl⟩ := ih hrest
      exact ⟨rfl, rfl⟩

theorem stringChars_append_inj {s s' : String} {u v : List Char}
    (h : stringChars s ++ u = stringChars s' ++ v) : s = s' ∧ u = v := by
  unfold stringChars at h
  simp only [List.cons_append, List.append_assoc, List.nil_append,
    List.cons.injEq, true_and] at h
  obtain ⟨hchars, rfl⟩ := escaped_append_inj h
  exact ⟨String.toList_injective hchars, rfl⟩

/-! ## Values -/

/-- The six kinds of value. -/
inductive Kind where
  | null
  | bool
  | number
  | string
  | array
  | object
deriving DecidableEq

/-- The kind of a value. -/
def kind : Json → Kind
  | .null => .null
  | .bool _ => .bool
  | .number _ => .number
  | .string _ => .string
  | .array _ => .array
  | .object _ => .object

/-- The kind of the values that a character begins. -/
def Kind.ofChar (c : Char) : Option Kind :=
  if c = 'n' then some .null
  else if c = 't' ∨ c = 'f' then some .bool
  else if c = '"' then some .string
  else if c = '[' then some .array
  else if c = '\x7b' then some .object
  else if c = '-' ∨ (Text.digitValue? c).isSome then some .number
  else none

theorem ne_of_digit_or_minus {c d : Char}
    (h : (Text.digitValue? c).isSome = true ∨ c = '-')
    (hdigit : (Text.digitValue? d).isSome = false) (hminus : d ≠ '-') :
    c ≠ d := by
  rintro rfl
  rcases h with h | h
  · rw [hdigit] at h
    cases h
  · exact hminus h

theorem Kind.ofChar_of_digit_or_minus {c : Char}
    (h : (Text.digitValue? c).isSome = true ∨ c = '-') :
    Kind.ofChar c = some .number := by
  have hother : ∀ d, (Text.digitValue? d).isSome = false → d ≠ '-' → c ≠ d :=
    fun _ => ne_of_digit_or_minus h
  unfold Kind.ofChar
  simp only [hother 'n' (by decide) (by decide),
    hother 't' (by decide) (by decide), hother 'f' (by decide) (by decide),
    hother '"' (by decide) (by decide), hother '[' (by decide) (by decide),
    hother '\x7b' (by decide) (by decide), h.symm, or_self, if_false, if_true]

theorem Number.chars_eq_cons (n : Number) :
    ∃ c cs, n.chars = c :: cs ∧ Kind.ofChar c = some .number := by
  have hinteger : ∀ i : Int, ∃ c cs, (Text.integer i).toList = c :: cs
      ∧ Kind.ofChar c = some .number := by
    intro i
    obtain ⟨c, cs, hchars⟩ := List.exists_cons_of_ne_nil (Text.integer_ne_nil i)
    refine ⟨c, cs, hchars,
      Kind.ofChar_of_digit_or_minus
        (Text.digit_or_minus_of_mem_integer (i := i) ?_)⟩
    rw [hchars]
    exact List.mem_cons_self ..
  cases n with
  | integer i => exact hinteger i
  | decimal mantissa exponent =>
    obtain ⟨c, cs, hchars, hkind⟩ := hinteger mantissa
    exact ⟨c, cs ++ 'e' :: (Text.integer exponent).toList,
      by simp [Number.chars, hchars], hkind⟩

/-- A value begins with a character of its kind. -/
theorem chars_eq_cons (j : Json) :
    ∃ c cs, j.chars = c :: cs ∧ Kind.ofChar c = some j.kind := by
  cases j with
  | null => exact ⟨_, _, rfl, rfl⟩
  | bool value => cases value <;> exact ⟨_, _, rfl, rfl⟩
  | number n => exact n.chars_eq_cons
  | string s => exact ⟨_, _, rfl, rfl⟩
  | array items => exact ⟨_, _, rfl, rfl⟩
  | object fields => exact ⟨_, _, rfl, rfl⟩

/-- Two texts that begin alike begin with values of one kind. -/
theorem kind_eq_of_chars_append {a b : Json} {u v : List Char}
    (h : a.chars ++ u = b.chars ++ v) : a.kind = b.kind := by
  obtain ⟨c, cs, ha, hkind⟩ := a.chars_eq_cons
  obtain ⟨d, ds, hb, hkind'⟩ := b.chars_eq_cons
  rw [ha, hb] at h
  obtain rfl : c = d := (List.cons.inj h).1
  exact Option.some.inj (hkind.symm.trans hkind')

/-- No value begins with a character that closes one. -/
theorem chars_append_ne_cons {j : Json} {c : Char} (hc : Kind.ofChar c = none)
    (u v : List Char) : j.chars ++ u ≠ c :: v := by
  obtain ⟨d, ds, hchars, hkind⟩ := j.chars_eq_cons
  intro h
  rw [hchars] at h
  obtain rfl : d = c := (List.cons.inj h).1
  rw [hc] at hkind
  cases hkind

/-- What follows an item of an array, up to the bracket: a comma and the items
after it, if there are any. -/
def itemsAfter : List Json → List Char
  | [] => []
  | item :: rest => ',' :: itemChars (item :: rest)

theorem itemChars_cons (item : Json) (rest : List Json) :
    itemChars (item :: rest) = chars item ++ itemsAfter rest := by
  cases rest with
  | nil => simp [itemChars, itemsAfter]
  | cons next rest => rw [itemChars, itemsAfter]

theorem ends_itemsAfter (rest : List Json) (u : List Char) :
    Ends (itemsAfter rest ++ ']' :: u) := by
  cases rest with
  | nil => exact Text.stops_cons (by decide) u
  | cons item rest => exact Text.stops_cons (by decide) _

/-- What follows a field of an object, up to the brace. -/
def fieldsAfter : List (String × Json) → List Char
  | [] => []
  | field :: rest => ',' :: fieldChars (field :: rest)

theorem fieldChars_cons (name : String) (value : Json)
    (rest : List (String × Json)) :
    fieldChars ((name, value) :: rest)
      = stringChars name ++ ':' :: (chars value ++ fieldsAfter rest) := by
  cases rest with
  | nil => simp [fieldChars, fieldsAfter]
  | cons next rest => rw [fieldChars, fieldsAfter]

theorem ends_fieldsAfter (rest : List (String × Json)) (u : List Char) :
    Ends (fieldsAfter rest ++ '\x7d' :: u) := by
  cases rest with
  | nil => exact Text.stops_cons (by decide) u
  | cons field rest => exact Text.stops_cons (by decide) _

mutual

/-- A value is told by its text, and where it ends by what follows. -/
theorem chars_append_inj (a b : Json) {u v : List Char} (hu : Ends u)
    (hv : Ends v) (h : a.chars ++ u = b.chars ++ v) : a = b ∧ u = v := by
  have hkind := kind_eq_of_chars_append h
  -- values of different kinds begin differently
  match a with
  | .null =>
    cases b with
    | null => exact ⟨rfl, List.append_cancel_left h⟩
    | _ => cases hkind
  | .bool value =>
    cases b with
    | bool value' =>
      cases value <;> cases value' <;>
        first
        | exact ⟨rfl, List.append_cancel_left h⟩
        | exact absurd (List.cons.inj h).1 (by decide)
    | _ => cases hkind
  | .number n =>
    cases b with
    | number n' =>
      obtain ⟨rfl, hrest⟩ := Number.chars_append_inj hu hv h
      exact ⟨rfl, hrest⟩
    | _ => cases hkind
  | .string s =>
    cases b with
    | string s' =>
      obtain ⟨rfl, hrest⟩ := stringChars_append_inj h
      exact ⟨rfl, hrest⟩
    | _ => cases hkind
  | .array items =>
    cases b with
    | array items' =>
      simp only [chars, List.cons_append, List.append_assoc, List.nil_append]
        at h
      obtain ⟨rfl, hrest⟩ :=
        itemChars_append_inj items items' (List.cons.inj h).2
      exact ⟨rfl, hrest⟩
    | _ => cases hkind
  | .object fields =>
    cases b with
    | object fields' =>
      simp only [chars, List.cons_append, List.append_assoc, List.nil_append]
        at h
      obtain ⟨rfl, hrest⟩ :=
        fieldChars_append_inj fields fields' (List.cons.inj h).2
      exact ⟨rfl, hrest⟩
    | _ => cases hkind

/-- The items of an array are told by their text, up to the bracket that closes
it. -/
theorem itemChars_append_inj (as bs : List Json) {u v : List Char}
    (h : itemChars as ++ ']' :: u = itemChars bs ++ ']' :: v) :
    as = bs ∧ u = v := by
  match as, bs with
  | [], [] => exact ⟨rfl, (List.cons.inj h).2⟩
  | [], b :: bs =>
    rw [itemChars_cons, List.append_assoc] at h
    exact absurd h.symm (chars_append_ne_cons (by decide) _ _)
  | a :: as, [] =>
    rw [itemChars_cons, List.append_assoc] at h
    exact absurd h (chars_append_ne_cons (by decide) _ _)
  | a :: as, b :: bs =>
    rw [itemChars_cons, itemChars_cons, List.append_assoc, List.append_assoc]
      at h
    obtain ⟨rfl, hrest⟩ :=
      chars_append_inj a b (ends_itemsAfter as u) (ends_itemsAfter bs v) h
    match as, bs with
    | [], [] => exact ⟨rfl, (List.cons.inj hrest).2⟩
    | [], _ :: _ | _ :: _, [] =>
      exact absurd (List.cons.inj hrest).1 (by decide)
    | a' :: as, b' :: bs =>
      obtain ⟨hitems, hend⟩ :=
        itemChars_append_inj (a' :: as) (b' :: bs) (List.cons.inj hrest).2
      exact ⟨congrArg _ hitems, hend⟩

/-- The fields of an object are told by their text, up to the brace that closes
it. -/
theorem fieldChars_append_inj (as bs : List (String × Json)) {u v : List Char}
    (h : fieldChars as ++ '\x7d' :: u = fieldChars bs ++ '\x7d' :: v) :
    as = bs ∧ u = v := by
  match as, bs with
  | [], [] => exact ⟨rfl, (List.cons.inj h).2⟩
  | [], (n, b) :: bs =>
    rw [fieldChars_cons, List.append_assoc] at h
    exact absurd (List.cons.inj h).1 (by decide)
  | (m, a) :: as, [] =>
    rw [fieldChars_cons, List.append_assoc] at h
    exact absurd (List.cons.inj h).1 (by decide)
  | (m, a) :: as, (n, b) :: bs =>
    simp only [fieldChars_cons, List.append_assoc, List.cons_append] at h
    obtain ⟨rfl, hcolon⟩ := stringChars_append_inj h
    have hvalue := (List.cons.inj hcolon).2
    obtain ⟨rfl, hrest⟩ :=
      chars_append_inj a b (ends_fieldsAfter as u)
        (ends_fieldsAfter bs v) hvalue
    match as, bs with
    | [], [] => exact ⟨rfl, (List.cons.inj hrest).2⟩
    | [], _ :: _ | _ :: _, [] =>
      exact absurd (List.cons.inj hrest).1 (by decide)
    | a' :: as, b' :: bs =>
      obtain ⟨hfields, hend⟩ :=
        fieldChars_append_inj (a' :: as) (b' :: bs) (List.cons.inj hrest).2
      exact ⟨congrArg _ hfields, hend⟩

end

/-- No two values have the same text. -/
theorem render_injective : Function.Injective render := by
  intro a b h
  have hchars : a.chars ++ [] = b.chars ++ [] := by
    rw [String.ofList_injective h]
  exact (chars_append_inj a b (Text.stops_nil _) (Text.stops_nil _) hchars).1

end DatabaseOperator.Json
