import Mathlib.Data.List.TakeWhile
import DatabaseOperator.Json.Form
import DatabaseOperator.Json.Written
import DatabaseOperator.Proofs.Json.Unambiguity

/-!
# JSON text is read as it was written

The text of a value is read as that value, with the fields of its objects in
rising order. The reader goes over the text once and cannot look ahead: it takes
a number or a word for finished when it sees what follows. After a value that is
a comma, a bracket, a brace or the end of the text.

- `Json.Fits`: the values that are read exactly, integers of 64 bits and not too
  many levels.
- `Json.Lexer.scanFrom?_chars`: the text of a value is scanned as its tokens.
- `Written.readFrom?_tokens`: the tokens of a value are read as its tree.
- `Json.parse?_render`: the text of a value is read as the value.
-/

namespace DatabaseOperator

namespace Json

/-! ## Values that are read exactly -/

/-- A value nests at most so deep, and its numbers are integers of 64 bits. -/
inductive Fits : Nat → Json → Prop where
  | null {n : Nat} : Fits n .null
  | bool {n : Nat} (b : Bool) : Fits n (.bool b)
  | integer {n : Nat} {i : Int} (inRange : isExactInteger i = true) :
      Fits n (.int i)
  | string {n : Nat} (s : String) : Fits n (.string s)
  | array {n : Nat} {items : List Json} (fit : ∀ item ∈ items, Fits n item) :
      Fits (n + 1) (.array items)
  | object {n : Nat} {fields : List (String × Json)}
      (fit : ∀ f ∈ fields, Fits n f.2) : Fits (n + 1) (.object fields)

mutual

/-- The tokens of a value. -/
def tokens : Json → List Token
  | .null => [.null]
  | .bool b => [.bool b]
  | .number n => [.number n]
  | .string s => [.string (some s)]
  | .array items => .beginArray :: itemTokens items
  | .object fields => .beginObject :: fieldTokens fields

/-- The tokens of the items of an array, up to the bracket that closes it. -/
def itemTokens : List Json → List Token
  | [] => [.endArray]
  | [item] => tokens item ++ [.endArray]
  | item :: next :: rest => tokens item ++ .comma :: itemTokens (next :: rest)

/-- The tokens of the fields of an object, up to the brace that closes it. -/
def fieldTokens : List (String × Json) → List Token
  | [] => [.endObject]
  | [(name, value)] =>
    .string (some name) :: .colon :: (tokens value ++ [.endObject])
  | (name, value) :: next :: rest =>
    .string (some name) :: .colon
      :: (tokens value ++ .comma :: fieldTokens (next :: rest))

end

mutual

/-- The tree of a value. -/
def written : Json → Written
  | .null => .null
  | .bool b => .bool b
  | .number n => .number n
  | .string s => .string (some s)
  | .array items => .array (writtenItems items)
  | .object fields => .object (writtenFields fields)

/-- The trees of the items of an array. -/
def writtenItems : List Json → List Written
  | [] => []
  | item :: rest => written item :: writtenItems rest

/-- The trees of the fields of an object. -/
def writtenFields : List (String × Json) → List (Option String × Written)
  | [] => []
  | (name, value) :: rest => (some name, written value) :: writtenFields rest

end

/-! ## Scanning -/

/-- What follows a value: nothing, or a character that ends it. -/
def Closed (u : List Char) : Prop :=
  ∀ c ∈ u.head?, c = ',' ∨ c = ']' ∨ c = '\x7d'

theorem closed_nil : Closed [] := by
  intro c hc
  cases hc

theorem closed_cons {c : Char} (h : c = ',' ∨ c = ']' ∨ c = '\x7d')
    (u : List Char) : Closed (c :: u) := by
  intro d hd
  cases hd
  exact h

namespace Lexer

variable {ts : List Token} {units : List Nat} {u v : List Char}

/-- The tokens of a text, with those that have been read. -/
def scanFrom? (l : Lexer) (cs : List Char) : Option (List Token) :=
  (l.run? cs).bind finish?

theorem scanFrom?_cons (l : Lexer) (c : Char) (cs : List Char) :
    l.scanFrom? (c :: cs) = (l.step? c).bind fun l' => l'.scanFrom? cs := by
  unfold scanFrom? run?
  rw [List.foldlM_cons]
  cases l.step? c <;> rfl

theorem scanFrom?_of_step {l : Lexer} (l' : Lexer) {c : Char}
    (h : l.step? c = some l') (cs : List Char) :
    l.scanFrom? (c :: cs) = l'.scanFrom? cs := by
  rw [scanFrom?_cons, h, Option.bind_some]

/-- A token in hand is finished by what follows the value. -/
theorem scanFrom?_of_closed {pending : Pending} {t : Token} (closed : Closed u)
    (closing : ∀ c, c = ',' ∨ c = ']' ∨ c = '\x7d' →
      (Lexer.mk ts pending).step? c = begin? (t :: ts) c)
    (ending : (Lexer.mk ts pending).finish? = some (t :: ts).reverse) :
    (Lexer.mk ts pending).scanFrom? u
      = (Lexer.mk (t :: ts) .none).scanFrom? u := by
  cases u with
  | nil => exact ending
  | cons c rest =>
    rw [scanFrom?_cons, scanFrom?_cons, closing c (closed c rfl)]
    rfl

/-! ### Strings -/

/-- A character of a string is read from its written form. -/
theorem scanFrom?_escapedChar (c : Char) (v : List Char) :
    (Lexer.mk ts (.string units)).scanFrom? (escapedChar c ++ v)
      = (Lexer.mk ts (.string (c.toNat :: units))).scanFrom? v := by
  rcases escapedChar_cases c with ⟨d, hform, hother, hescape⟩
    | ⟨hcontrol, hform⟩ | ⟨hquote, hbackslash, hplain, hform⟩
  · have hstep : (Lexer.mk ts (.escape units)).step? d
        = some ⟨ts, .string (c.toNat :: units)⟩ := by
      unfold step?
      simp only [hother, hescape, ↓reduceIte, Option.map_some]
    rw [hform, List.cons_append, List.singleton_append,
      scanFrom?_of_step ⟨ts, .escape units⟩ rfl]
    exact scanFrom?_of_step _ hstep v
  · have hhigh := hexValue?_hexDigit (c.toNat / 16) (by omega)
    have hlow := hexValue?_hexDigit (c.toNat % 16) (by omega)
    have hsum : c.toNat / 16 * 16 + c.toNat % 16 = c.toNat := by omega
    rw [hform]
    simp only [List.cons_append, List.nil_append]
    rw [scanFrom?_of_step ⟨ts, .escape units⟩ rfl,
      scanFrom?_of_step ⟨ts, .hex units 4 0⟩ rfl,
      scanFrom?_of_step ⟨ts, .hex units 3 0⟩ rfl,
      scanFrom?_of_step ⟨ts, .hex units 2 0⟩ rfl,
      scanFrom?_of_step ⟨ts, .hex units 1 (c.toNat / 16)⟩
        (by simp [step?, hhigh])]
    exact scanFrom?_of_step _ (by simp [step?, hlow, hsum]) v
  · have hstep : (Lexer.mk ts (.string units)).step? c
        = some ⟨ts, .string (c.toNat :: units)⟩ := by
      unfold step?
      simp only [hquote, hbackslash, Nat.not_lt_of_le hplain, ↓reduceIte]
    rw [hform, List.singleton_append]
    exact scanFrom?_of_step _ hstep v

theorem scanFrom?_escaped (cs : List Char) (v : List Char) :
    (Lexer.mk ts (.string units)).scanFrom? (cs.flatMap escapedChar ++ v)
      = (Lexer.mk ts (.string ((cs.map Char.toNat).reverse ++ units))).scanFrom?
        v := by
  induction cs generalizing units with
  | nil => rfl
  | cons c cs ih =>
    rw [List.flatMap_cons, List.append_assoc, scanFrom?_escapedChar, ih,
      List.map_cons, List.reverse_cons, List.append_assoc,
      List.singleton_append]

/-- No character is half of a surrogate pair. -/
theorem joinUnits?_map_toNat (cs : List Char) :
    joinUnits? (cs.map Char.toNat) = some cs := by
  have hplain : ∀ c : Char, c.toNat < 0xD800 ∨ 0xDFFF < c.toNat := by
    intro c
    rcases c.valid with hlow | ⟨hhigh, -⟩
    · exact .inl hlow
    · exact .inr hhigh
  induction cs with
  | nil => rfl
  | cons c cs ih =>
    have hc := hplain c
    cases cs with
    | nil =>
      have hhalf : ¬ (0xD800 ≤ c.toNat ∧ c.toNat ≤ 0xDFFF) := by omega
      simp only [List.map_cons, List.map_nil, joinUnits?, hhalf, ↓reduceIte,
        Char.ofNat_toNat]
    | cons d rest =>
      have hleading : ¬ (0xD800 ≤ c.toNat ∧ c.toNat ≤ 0xDBFF) := by omega
      have htrailing : ¬ (0xDC00 ≤ c.toNat ∧ c.toNat ≤ 0xDFFF) := by omega
      rw [List.map_cons, List.map_cons] at *
      simp only [joinUnits?, hleading, htrailing, ↓reduceIte, ih,
        Option.map_some, Char.ofNat_toNat]

/-- A string is scanned as its text. -/
theorem scanFrom?_stringChars (s : String) (u : List Char) :
    (Lexer.mk ts .none).scanFrom? (stringChars s ++ u)
      = (Lexer.mk (.string (some s) :: ts) .none).scanFrom? u := by
  unfold stringChars
  rw [List.cons_append, scanFrom?_of_step ⟨ts, .string []⟩ rfl,
    List.append_assoc, scanFrom?_escaped, List.append_nil,
    List.singleton_append]
  refine scanFrom?_of_step _ ?_ u
  have hjoined : (joinUnits? (s.toList.map Char.toNat).reverse.reverse).map
      String.ofList = some s := by
    rw [List.reverse_reverse, joinUnits?_map_toNat, Option.map_some,
      String.ofList_toList]
  simp only [step?, hjoined, ↓reduceIte]

/-! ### Numbers -/

theorem scanFrom?_digits {cs : List Char}
    (run : ∀ c ∈ cs, continuesNumber c = true) (acc u : List Char) :
    (Lexer.mk ts (.number acc)).scanFrom? (cs ++ u)
      = (Lexer.mk ts (.number (cs.reverse ++ acc))).scanFrom? u := by
  induction cs generalizing acc with
  | nil => rfl
  | cons c cs ih =>
    obtain ⟨hfirst, hrest⟩ := List.forall_mem_cons.mp run
    rw [List.cons_append, scanFrom?_of_step ⟨ts, .number (c :: acc)⟩
      (by simp [step?, hfirst]), ih hrest, List.reverse_cons, List.append_assoc,
      List.singleton_append]

/-- A number begins with a digit or a minus sign. -/
theorem begin?_number {c : Char}
    (h : (Text.digitValue? c).isSome = true ∨ c = '-') :
    begin? ts c = some ⟨ts, .number [c]⟩ := by
  have hother : ∀ d, (Text.digitValue? d).isSome = false → d ≠ '-' → c ≠ d :=
    fun _ => ne_of_digit_or_minus h
  unfold begin?
  simp only [hother ' ' (by decide) (by decide),
    hother '\t' (by decide) (by decide), hother '\n' (by decide) (by decide),
    hother '\r' (by decide) (by decide), hother '\x7b' (by decide) (by decide),
    hother '\x7d' (by decide) (by decide), hother '[' (by decide) (by decide),
    hother ']' (by decide) (by decide), hother ':' (by decide) (by decide),
    hother ',' (by decide) (by decide), hother '"' (by decide) (by decide),
    h.symm, or_self, if_false, if_true]

end Lexer

/-- The digits of a number do not begin with a zero, unless it is the only
one. -/
theorem digitChars_ne_zero_cons (n : Nat) (c : Char) (rest : List Char) :
    Text.digitChars n ≠ '0' :: c :: rest := by
  have hfirst : ∀ fuel n cs, 0 < n → n < fuel → ∃ d ds,
      Text.digitsOnto fuel n cs = d :: ds ∧ d ≠ '0' := by
    intro fuel
    induction fuel with
    | zero => omega
    | succ fuel ih =>
      intro n cs hpos hfuel
      unfold Text.digitsOnto
      split
      next hsmall =>
        refine ⟨_, _, rfl, fun hzero => ?_⟩
        have hdigit := Text.digitValue?_digit n
        rw [hzero, Nat.mod_eq_of_lt hsmall] at hdigit
        have hnone : n = 0 := (Option.some.inj hdigit).symm
        omega
      next hlarge => exact ih (n / 10) _ (by omega) (by omega)
  intro h
  cases n with
  | zero => cases h
  | succ n =>
    obtain ⟨d, ds, hchars, hd⟩ :=
      hfirst (n + 1 + 1) (n + 1) [] (Nat.succ_pos n) (Nat.lt_succ_self _)
    exact hd (List.cons.inj (hchars.symm.trans h)).1

/-- Digits alone are an integer, unless that is minus zero or beyond 64 bits. -/
theorem unsignedOf?_digitChars (negative : Bool) (n : Nat) {i : Int}
    (hi : (if negative then -1 else 1) * (n : Int) = i)
    (hzero : negative = true → n ≠ 0) (inRange : isExactInteger i = true) :
    unsignedOf? negative (Text.digitChars n) = some (.integer i) := by
  have hdigits : ∀ c ∈ Text.digitChars n, (Text.digitValue? c).isSome = true :=
      fun c hc =>
    Text.isSome_digitValue?_of_mem_digitChars hc
  have hspan : spanDigits (Text.digitChars n) = (Text.digitChars n, []) := by
    unfold spanDigits
    rw [List.takeWhile_eq_self_iff.mpr hdigits,
      List.dropWhile_eq_nil_iff.mpr hdigits]
  have hvalue : Text.natural? (Text.digitChars n) = some n := by
    obtain ⟨c, cs, hchars⟩ :=
      List.exists_cons_of_ne_nil (Text.digitChars_ne_nil n)
    have hread := Text.naturalFrom?_digitChars n
    rw [hchars] at hread ⊢
    exact hread
  have hsign : (negative && n == 0) = false := by
    cases negative with
    | false => rfl
    | true => simpa using hzero rfl
  unfold unsignedOf?
  rw [hspan]
  simp only [hvalue, Option.bind_eq_bind]
  split
  next c rest hchars => exact absurd hchars (digitChars_ne_zero_cons n c rest)
  next =>
    have hfraction : fractionOf? [] = some ([], []) := rfl
    have hexponent : exponentOf? [] = some 0 := rfl
    simp only [Option.bind_some, hfraction, hexponent, hi, inRange, hsign,
      Bool.not_true, Bool.or_false, Bool.false_eq_true, ↓reduceIte]

/-- An integer of 64 bits is read from its digits. -/
theorem ofChars?_integer {i : Int} (inRange : isExactInteger i = true) :
    Number.ofChars? (Text.integer i).toList = some (.integer i) := by
  cases i with
  | ofNat n =>
    have hchars : (Text.integer (.ofNat n)).toList = Text.digitChars n :=
      String.toList_ofList
    have hplain : ∀ rest, Text.digitChars n ≠ '-' :: rest := by
      intro rest h
      have hminus : (Text.digitValue? '-').isSome = true :=
        Text.isSome_digitValue?_of_mem_digitChars (n := n)
          (by rw [h]; exact List.mem_cons_self ..)
      exact absurd hminus (by decide)
    rw [hchars]
    unfold Number.ofChars?
    split
    next rest h => exact absurd h (hplain rest)
    next => exact unsignedOf?_digitChars false n (Int.one_mul _) nofun inRange
  | negSucc n =>
    have hchars : (Text.integer (.negSucc n)).toList
      = '-' :: Text.digitChars (n + 1) := String.toList_ofList
    rw [hchars]
    exact unsignedOf?_digitChars true (n + 1) (by simp [Int.negSucc_eq])
      (fun _ => Nat.succ_ne_zero n) inRange

namespace Lexer

variable {ts : List Token} {u : List Char}

/-- An integer of 64 bits is scanned as such. -/
theorem scanFrom?_integer {i : Int} (inRange : isExactInteger i = true)
    (closed : Closed u) :
    (Lexer.mk ts .none).scanFrom? ((Text.integer i).toList ++ u)
      = (Lexer.mk (.number (.integer i) :: ts) .none).scanFrom? u := by
  have hread := ofChars?_integer inRange
  have hrun : ∀ c ∈ (Text.integer i).toList, continuesNumber c = true :=
    fun c hc => continuesNumber_of_mem_integer hc
  have hfirst : ∀ c ∈ (Text.integer i).toList,
      (Text.digitValue? c).isSome = true ∨ c = '-' := fun c hc =>
    Text.digit_or_minus_of_mem_integer hc
  obtain ⟨c, cs, hchars⟩ := List.exists_cons_of_ne_nil (Text.integer_ne_nil i)
  rw [hchars] at hread hrun hfirst ⊢
  obtain ⟨-, hrest⟩ := List.forall_mem_cons.mp hrun
  have hreverse : (cs.reverse ++ [c]).reverse = c :: cs := by simp
  have hbegin : (Lexer.mk ts .none).step? c = some ⟨ts, .number [c]⟩ :=
    begin?_number (hfirst c (List.mem_cons_self ..))
  rw [List.cons_append, scanFrom?_of_step _ hbegin, scanFrom?_digits hrest]
  -- the digits are in hand, newest first, until something comes that continues
  -- no number
  refine scanFrom?_of_closed closed (fun d hd => ?_) ?_
  · have hends : continuesNumber d = false := by
      rcases hd with rfl | rfl | rfl <;> decide
    simp [step?, hends, hreverse, hread]
  · simp [finish?, hreverse, hread]

/-! ### Words -/

theorem scanFrom?_letters {cs : List Char}
    (letters : ∀ c ∈ cs, c.isLower = true) (acc u : List Char) :
    (Lexer.mk ts (.word acc)).scanFrom? (cs ++ u)
      = (Lexer.mk ts (.word (cs.reverse ++ acc))).scanFrom? u := by
  induction cs generalizing acc with
  | nil => rfl
  | cons c cs ih =>
    obtain ⟨hfirst, hrest⟩ := List.forall_mem_cons.mp letters
    rw [List.cons_append, scanFrom?_of_step ⟨ts, .word (c :: acc)⟩
      (by simp [step?, hfirst]), ih hrest, List.reverse_cons, List.append_assoc,
      List.singleton_append]

/-- A word is scanned as the literal that it spells. -/
theorem scanFrom?_word {c : Char} {cs : List Char} {t : Token}
    (begins : begin? ts c = some ⟨ts, .word [c]⟩)
    (letters : cs.all Char.isLower = true)
    (literal : literal? (c :: cs) = some t) (closed : Closed u) :
    (Lexer.mk ts .none).scanFrom? (c :: cs ++ u)
      = (Lexer.mk (t :: ts) .none).scanFrom? u := by
  have hbegin : (Lexer.mk ts .none).step? c = some ⟨ts, .word [c]⟩ := begins
  have hreverse : (cs.reverse ++ [c]).reverse = c :: cs := by simp
  rw [List.cons_append, scanFrom?_of_step _ hbegin,
    scanFrom?_letters (List.all_eq_true.mp letters)]
  refine scanFrom?_of_closed closed (fun d hd => ?_) ?_
  · have hends :
        d.isLower = false := by rcases hd with rfl | rfl | rfl <;> decide
    simp [step?, hends, hreverse, literal]
  · simp [finish?, hreverse, literal]

end Lexer

/-! ### Values -/

open Lexer

theorem closed_itemsAfter (rest : List Json) (u : List Char) :
    Closed (itemsAfter rest ++ ']' :: u) := by
  cases rest with
  | nil => exact closed_cons (.inr (.inl rfl)) u
  | cons item rest => exact closed_cons (.inl rfl) _

theorem closed_fieldsAfter (rest : List (String × Json)) (u : List Char) :
    Closed (fieldsAfter rest ++ '\x7d' :: u) := by
  cases rest with
  | nil => exact closed_cons (.inr (.inr rfl)) u
  | cons field rest => exact closed_cons (.inl rfl) _

mutual

/-- The text of a value is scanned as its tokens. -/
theorem scanFrom?_chars {n : Nat} (j : Json) (fits : Fits n j) (ts : List Token)
    {u : List Char} (closed : Closed u) :
    (Lexer.mk ts .none).scanFrom? (j.chars ++ u)
      = (Lexer.mk (j.tokens.reverse ++ ts) .none).scanFrom? u := by
  match j, fits with
  | .null, .null => exact scanFrom?_word rfl rfl rfl closed
  | .bool true, .bool _ => exact scanFrom?_word rfl rfl rfl closed
  | .bool false, .bool _ => exact scanFrom?_word rfl rfl rfl closed
  | .number _, .integer inRange => exact scanFrom?_integer inRange closed
  | .string s, .string _ => exact scanFrom?_stringChars s u
  | .array items, .array fit =>
    rw [chars, tokens, List.cons_append, List.append_assoc,
      List.singleton_append, scanFrom?_of_step ⟨.beginArray :: ts, .none⟩ rfl,
      scanFrom?_itemChars items fit, List.reverse_cons, List.append_assoc,
      List.singleton_append]
  | .object fields, .object fit =>
    rw [chars, tokens, List.cons_append, List.append_assoc,
      List.singleton_append, scanFrom?_of_step ⟨.beginObject :: ts, .none⟩ rfl,
      scanFrom?_fieldChars fields fit, List.reverse_cons, List.append_assoc,
      List.singleton_append]

/-- The items of an array are scanned up to the bracket that closes it. -/
theorem scanFrom?_itemChars {n : Nat} (items : List Json)
    (fit : ∀ item ∈ items, Fits n item) (ts : List Token) (u : List Char) :
    (Lexer.mk ts .none).scanFrom? (itemChars items ++ ']' :: u)
      = (Lexer.mk ((itemTokens items).reverse ++ ts) .none).scanFrom? u := by
  match items with
  | [] => exact scanFrom?_of_step _ rfl u
  | item :: rest =>
    obtain ⟨hfirst, hrest⟩ := List.forall_mem_cons.mp fit
    -- a number or a word is finished by the comma or the bracket behind it,
    -- which is then read on its own
    rw [itemChars_cons, List.append_assoc,
      scanFrom?_chars item hfirst ts (closed_itemsAfter rest u)]
    match rest with
    | [] =>
      rw [itemTokens, List.reverse_append]
      exact scanFrom?_of_step _ rfl u
    | next :: rest =>
      rw [itemsAfter, List.cons_append,
        scanFrom?_of_step ⟨.comma :: (item.tokens.reverse ++ ts), .none⟩ rfl,
        scanFrom?_itemChars (next :: rest) hrest, itemTokens]
      simp

/-- The fields of an object are scanned up to the brace that closes it. -/
theorem scanFrom?_fieldChars {n : Nat} (fields : List (String × Json))
    (fit : ∀ f ∈ fields, Fits n f.2) (ts : List Token) (u : List Char) :
    (Lexer.mk ts .none).scanFrom? (fieldChars fields ++ '\x7d' :: u)
      = (Lexer.mk ((fieldTokens fields).reverse ++ ts) .none).scanFrom? u := by
  match fields with
  | [] => exact scanFrom?_of_step _ rfl u
  | (name, value) :: rest =>
    obtain ⟨hfirst, hrest⟩ := List.forall_mem_cons.mp fit
    rw [fieldChars_cons, List.append_assoc, scanFrom?_stringChars,
      List.cons_append,
      scanFrom?_of_step ⟨.colon :: .string (some name) :: ts, .none⟩ rfl,
      List.append_assoc,
      scanFrom?_chars value hfirst _ (closed_fieldsAfter rest u)]
    match rest with
    | [] =>
      rw [fieldTokens, fieldsAfter, List.nil_append,
        scanFrom?_of_step
          ⟨.endObject
            :: (value.tokens.reverse ++ .colon :: .string (some name) :: ts),
            .none⟩ rfl]
      simp
    | next :: rest =>
      rw [fieldsAfter, List.cons_append, scanFrom?_of_step
        ⟨.comma
          :: (value.tokens.reverse ++ .colon :: .string (some name) :: ts),
          .none⟩ rfl,
        scanFrom?_fieldChars (next :: rest) hrest, fieldTokens]
      simp

end

/-- The text of a value is scanned as its tokens. -/
theorem scan?_chars {n : Nat} {j : Json} (fits : Fits n j) :
    Lexer.scan? j.chars = some j.tokens := by
  have hscan := scanFrom?_chars j fits [] closed_nil
  rw [List.append_nil, List.append_nil] at hscan
  refine hscan.trans ?_
  show some (j.tokens.reverse.reverse) = _
  rw [List.reverse_reverse]

end Json

namespace Written

open Json

/-! ## Reading -/

/-- The tree of the tokens, with what is open around it. -/
def readFrom? (r : Reading) (ts : List Token) : Option Written :=
  (ts.foldlM Reading.step? r).bind Reading.result?

theorem readFrom?_of_step {r : Reading} (r' : Reading) {t : Token}
    (h : r.step? t = some r') (ts : List Token) :
    readFrom? r (t :: ts) = readFrom? r' ts := by
  unfold readFrom?
  rw [List.foldlM_cons, h]
  rfl

/-- An item may stand first in an array. -/
theorem readFrom?_firstItem (item : Json) (rest : List Json)
    (frames : List Frame) (ts : List Token) :
    readFrom? (.firstItem frames) (itemTokens (item :: rest) ++ ts)
      = readFrom? (.value (.array [] :: frames))
        (itemTokens (item :: rest) ++ ts) := by
  cases rest <;> cases item <;> rfl

mutual

/-- The tokens of a value are read as its tree. -/
theorem readFrom?_tokens (j : Json) (frames : List Frame) (ts : List Token) :
    readFrom? (.value frames) (j.tokens ++ ts)
      = readFrom? (.complete j.written frames) ts := by
  match j with
  | .null | .bool _ | .number _ | .string _ => rfl
  | .array [] | .object [] => rfl
  | .array (item :: rest) =>
    rw [tokens, List.cons_append, readFrom?_of_step (.firstItem frames) rfl,
      readFrom?_firstItem, readFrom?_itemTokens (item :: rest)
        (List.cons_ne_nil item rest)]
    rfl
  | .object (field :: rest) =>
    rw [tokens, List.cons_append, readFrom?_of_step (.fieldName frames []) rfl,
      readFrom?_fieldTokens (field :: rest) (List.cons_ne_nil field rest)]
    rfl

/-- The items of an array are read behind those before them. -/
theorem readFrom?_itemTokens (items : List Json) (nonempty : items ≠ [])
    (before : List Written) (frames : List Frame) (ts : List Token) :
    readFrom? (.value (.array before :: frames)) (itemTokens items ++ ts)
      = readFrom?
        (.complete (.array (before.reverse ++ writtenItems items)) frames)
        ts := by
  match items with
  | [item] =>
    rw [itemTokens, List.append_assoc, readFrom?_tokens item, writtenItems,
      writtenItems, ← List.reverse_cons]
    exact readFrom?_of_step _ rfl ts
  | item :: next :: rest =>
    rw [itemTokens, List.append_assoc, readFrom?_tokens item, writtenItems,
      List.append_cons, ← List.reverse_cons,
      ← readFrom?_itemTokens (next :: rest) (List.cons_ne_nil next rest)]
    exact readFrom?_of_step _ rfl _

/-- The fields of an object are read behind those before them. -/
theorem readFrom?_fieldTokens (fields : List (String × Json))
    (nonempty : fields ≠ []) (before : List (Option String × Written))
    (frames : List Frame) (ts : List Token) :
    readFrom? (.fieldName frames before) (fieldTokens fields ++ ts)
      = readFrom?
        (.complete (.object (before.reverse ++ writtenFields fields)) frames)
        ts := by
  match fields with
  | [(name, value)] =>
    rw [fieldTokens, List.cons_append,
      readFrom?_of_step (.colon frames before name) rfl, List.cons_append,
      readFrom?_of_step (.value (.object before name :: frames)) rfl,
      List.append_assoc, readFrom?_tokens value, writtenFields, writtenFields,
      ← List.reverse_cons]
    exact readFrom?_of_step _ rfl ts
  | (name, value) :: next :: rest =>
    rw [fieldTokens, List.cons_append,
      readFrom?_of_step (.colon frames before name) rfl, List.cons_append,
      readFrom?_of_step (.value (.object before name :: frames)) rfl,
      List.append_assoc, readFrom?_tokens value, writtenFields,
      List.append_cons, ← List.reverse_cons,
      ← readFrom?_fieldTokens (next :: rest) (List.cons_ne_nil next rest)]
    exact readFrom?_of_step _ rfl _

end

/-- The tokens of a value are read as its tree. -/
theorem ofTokens?_tokens (j : Json) : ofTokens? j.tokens = some j.written := by
  have hread := readFrom?_tokens j [] []
  rw [List.append_nil] at hread
  exact hread

/-! ## The value of a tree -/

mutual

/-- The tree of a value has the value, with its fields in rising order. -/
theorem value?_written {n : Nat} (j : Json) (fits : Fits n j) :
    j.written.value? = some j.ordered := by
  match j, fits with
  | .null, _ => rfl
  | .bool _, _ => rfl
  | .number (.integer _), _ => rfl
  | .string _, _ => rfl
  | .array items, .array fit =>
    rw [written, value?, items?_writtenItems items fit, ordered,
      Option.map_some]
  | .object fields, .object fit =>
    rw [written, value?, fields?_writtenFields fields fit, ordered,
      Option.map_some]

theorem items?_writtenItems {n : Nat} (items : List Json)
    (fit : ∀ item ∈ items, Fits n item) :
    items? (writtenItems items) = some (orderedItems items) := by
  match items with
  | [] => rfl
  | item :: rest =>
    obtain ⟨hfirst, hrest⟩ := List.forall_mem_cons.mp fit
    rw [writtenItems, items?, value?_written item hfirst,
      items?_writtenItems rest hrest]
    rfl

theorem fields?_writtenFields {n : Nat} (fields : List (String × Json))
    (fit : ∀ f ∈ fields, Fits n f.2) :
    fields? (writtenFields fields) = some (orderedFields fields) := by
  match fields with
  | [] => rfl
  | (name, value) :: rest =>
    obtain ⟨hfirst, hrest⟩ := List.forall_mem_cons.mp fit
    rw [writtenFields, fields?, value?_written value hfirst,
      fields?_writtenFields rest hrest]
    rfl

end

mutual

theorem nesting_written_le {n : Nat} (j : Json) (fits : Fits n j) :
    j.written.nesting ≤ n := by
  match j, fits with
  | .null, _ => exact Nat.zero_le n
  | .bool _, _ => exact Nat.zero_le n
  | .number _, _ => exact Nat.zero_le n
  | .string _, _ => exact Nat.zero_le n
  | .array items, .array fit =>
    exact Nat.succ_le_succ (itemsNesting_writtenItems_le items fit)
  | .object fields, .object fit =>
    exact Nat.succ_le_succ (fieldsNesting_writtenFields_le fields fit)

theorem itemsNesting_writtenItems_le {n : Nat} (items : List Json)
    (fit : ∀ item ∈ items, Fits n item) :
    itemsNesting (writtenItems items) ≤ n := by
  match items with
  | [] => exact Nat.zero_le n
  | item :: rest =>
    obtain ⟨hfirst, hrest⟩ := List.forall_mem_cons.mp fit
    exact Nat.max_le.mpr ⟨nesting_written_le item hfirst,
      itemsNesting_writtenItems_le rest hrest⟩

theorem fieldsNesting_writtenFields_le {n : Nat} (fields : List (String × Json))
    (fit : ∀ f ∈ fields, Fits n f.2) :
    fieldsNesting (writtenFields fields) ≤ n := by
  match fields with
  | [] => exact Nat.zero_le n
  | (_, value) :: rest =>
    obtain ⟨hfirst, hrest⟩ := List.forall_mem_cons.mp fit
    exact Nat.max_le.mpr ⟨nesting_written_le value hfirst,
      fieldsNesting_writtenFields_le rest hrest⟩

end

end Written

/-- The text of a value is read as the value, with its fields in rising
order. -/
theorem Json.parse?_render {n : Nat} {j : Json} (fits : Fits n j)
    (shallow : n ≤ nestingLimit) : parse? j.render = some j.ordered := by
  refine parse?_eq_some_iff.mpr
    ⟨j.written, ?_, (Written.nesting_written_le j fits).trans shallow,
      Written.value?_written j fits⟩
  unfold Written.read?
  rw [render, String.toList_ofList, scan?_chars fits]
  exact Written.ofTokens?_tokens j

end DatabaseOperator
