import Mathlib.Algebra.Group.Nat.Defs
import Mathlib.Data.List.Basic
import DatabaseOperator.Text.Digits

/-!
# Digits are read as they were written

- `Text.naturalFrom?_digitChars`: the digits of a number are read as the number.
- `Text.digit_or_minus_of_mem_integer`: what an integer is written with.
- `Text.integer_injective`: no two integers have the same digits and sign.
-/

namespace DatabaseOperator.Text

theorem digitValue?_digit (n : Nat) :
    digitValue? (digit n) = some (n % 10) := by
  have hall :
      ∀ d < 10, digitValue? (Char.ofNat ('0'.toNat + d)) = some d := by decide
  exact hall (n % 10) (Nat.mod_lt _ (by decide))

/-! ## A number of fixed width -/

/-- The first of some more last digits are those of the number without its
end. -/
theorem lastDigits_add (m k n : Nat) :
    lastDigits (m + k) n = lastDigits m (n / 10 ^ k) ++ lastDigits k n := by
  induction k generalizing n with
  | zero => simp [lastDigits]
  | succ k ih =>
    show lastDigits (m + k) (n / 10) ++ [digit n]
      = lastDigits m (n / 10 ^ (k + 1)) ++ (lastDigits k (n / 10) ++ [digit n])
    rw [ih, List.append_assoc, Nat.div_div_eq_div_mul, ← Nat.pow_succ']

theorem isSome_digitValue?_of_mem_lastDigits {c : Char} {width n : Nat}
    (h : c ∈ lastDigits width n) : (digitValue? c).isSome = true := by
  induction width generalizing n with
  | zero => cases h
  | succ width ih =>
    rcases List.mem_append.mp h with h | h
    · exact ih h
    · obtain rfl := List.mem_singleton.mp h
      rw [digitValue?_digit]
      rfl

/-! ## A number with the fewest digits -/

/-- The digits of a number go on to be read as the number. -/
theorem naturalFrom?_digitsOnto {fuel n : Nat} (h : n < fuel) (cs : List Char) :
    naturalFrom? 0 (digitsOnto fuel n cs) = naturalFrom? n cs := by
  induction fuel generalizing n cs with
  | zero => omega
  | succ fuel ih =>
    have hdigit := digitValue?_digit n
    unfold digitsOnto
    split
    next hsmall =>
      rw [Nat.mod_eq_of_lt hsmall] at hdigit
      simp [naturalFrom?, hdigit]
    next hlarge =>
      rw [ih (by omega)]
      have hsum : n / 10 * 10 + n % 10 = n := by omega
      simp [naturalFrom?, hdigit, hsum]

theorem naturalFrom?_digitChars (n : Nat) :
    naturalFrom? 0 (digitChars n) = some n :=
  naturalFrom?_digitsOnto (Nat.lt_succ_self n) []

theorem digitChars_ne_nil (n : Nat) : digitChars n ≠ [] := by
  have hlength : ∀ fuel n cs, cs ≠ [] → digitsOnto fuel n cs ≠ [] := by
    intro fuel
    induction fuel with
    | zero => exact fun n cs h => h
    | succ fuel ih =>
      intro n cs _
      unfold digitsOnto
      split
      · exact List.cons_ne_nil _ _
      · exact ih _ _ (List.cons_ne_nil _ _)
  unfold digitChars digitsOnto
  split
  · exact List.cons_ne_nil _ _
  · exact hlength _ _ _ (List.cons_ne_nil _ _)

theorem digitChars_injective : Function.Injective digitChars := by
  intro m n h
  have hread := naturalFrom?_digitChars m
  rw [h, naturalFrom?_digitChars] at hread
  exact (Option.some.inj hread).symm

theorem isSome_digitValue?_of_mem_digitsOnto {fuel n : Nat} {cs : List Char}
    {c : Char} (h : c ∈ digitsOnto fuel n cs) :
    (digitValue? c).isSome = true ∨ c ∈ cs := by
  induction fuel generalizing n cs with
  | zero => exact .inr h
  | succ fuel ih =>
    unfold digitsOnto at h
    split at h
    next =>
      rcases List.mem_cons.mp h with rfl | h
      · simp [digitValue?_digit]
      · exact .inr h
    next =>
      rcases ih h with hdigit | h
      · exact .inl hdigit
      · rcases List.mem_cons.mp h with rfl | h
        · simp [digitValue?_digit]
        · exact .inr h

theorem isSome_digitValue?_of_mem_digitChars {n : Nat} {c : Char}
    (h : c ∈ digitChars n) : (digitValue? c).isSome = true := by
  rcases isSome_digitValue?_of_mem_digitsOnto h with hdigit | h
  · exact hdigit
  · cases h

/-! ## Integers -/

/-- The characters of an integer are digits, and a minus sign in front of
some. -/
theorem digit_or_minus_of_mem_integer {i : Int} {c : Char}
    (h : c ∈ (integer i).toList) : (digitValue? c).isSome = true ∨ c = '-' := by
  cases i with
  | ofNat n =>
    simp only [integer, digits, String.toList_ofList] at h
    exact .inl (isSome_digitValue?_of_mem_digitChars h)
  | negSucc n =>
    simp only [integer, String.toList_ofList, List.mem_cons] at h
    exact h.symm.imp_left isSome_digitValue?_of_mem_digitChars

theorem integer_ne_nil (i : Int) : (integer i).toList ≠ [] := by
  cases i with
  | ofNat n =>
    simp only [integer, digits, String.toList_ofList]
    exact digitChars_ne_nil n
  | negSucc n => simp [integer]

theorem integer_injective : Function.Injective integer := by
  -- a minus sign is no digit, so that it tells the negative integers from the
  -- others
  have hsign : ∀ m n : Nat, digitChars m ≠ '-' :: digitChars n := by
    intro m n h
    have hminus : (digitValue? '-').isSome = true :=
      isSome_digitValue?_of_mem_digitChars (n := m)
        (by rw [h]; exact List.mem_cons_self ..)
    exact absurd hminus (by decide)
  intro i j h
  cases i with
  | ofNat m =>
    cases j with
    | ofNat n => rw [digitChars_injective (String.ofList_injective h)]
    | negSucc n => exact absurd (String.ofList_injective h) (hsign m (n + 1))
  | negSucc m =>
    cases j with
    | ofNat n => exact absurd (String.ofList_injective h).symm (hsign n (m + 1))
    | negSucc n =>
      have hdigits :=
        digitChars_injective (List.cons.inj (String.ofList_injective h)).2
      rw [Nat.succ.inj hdigits]

end DatabaseOperator.Text
