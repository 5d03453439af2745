import DepositTrail.Text.Numeral
import Mathlib.Data.Nat.Basic

set_option autoImplicit false

/-! # Decimal numerals and back

A text of decimal digits is read as the number that the digits are, if this lies below the bound,
and else refused as too large, wherever in the text the bound is passed
(`Text.readDigits_ten`). The numeral of a number is such a text, so it is read as this number
(`Text.readNumeral_decimal`). It has a digit, and none but `0` itself begins with a zero
(`Text.decimal_eq_zero`); this is what other readers ask of a number.
-/

namespace DepositTrail.Text

/-! ## Digits -/

theorem isDigit_iff {c : Char} : isDigit c = true ↔ '0' ≤ c ∧ c ≤ '9' := by
  simp [isDigit]

theorem ne_of_isDigit {c d : Char} (h : isDigit c = true) (hd : isDigit d = false) : c ≠ d := by
  rintro rfl
  rw [h] at hd
  cases hd

/-- The value of a decimal digit is its distance from the digit zero. -/
theorem digitValue?_ten {c : Char} (h : isDigit c = true) :
    digitValue? 10 c = some (c.toNat - '0'.toNat) := by
  obtain ⟨hlow, hhigh⟩ := isDigit_iff.mp h
  have hle : c.toNat ≤ '9'.toNat := hhigh
  have hvalue : hexValue? c = some (c.toNat - '0'.toNat) := if_pos ⟨hlow, hhigh⟩
  have hlt : c.toNat - '0'.toNat < 10 := by
    simp only [Char.reduceToNat] at hle ⊢
    omega
  rw [digitValue?, hvalue, Option.filter_some, if_pos (decide_eq_true hlt)]

/-- The numeral of a number has digits only. -/
theorem isDigit_of_mem_decimal {n : ℕ} {c : Char} (h : c ∈ decimal n) : isDigit c = true := by
  have hdigit := Nat.isDigit_of_mem_toDigits (by decide) (by decide) h
  simp only [Char.isDigit, Bool.and_eq_true, decide_eq_true_eq] at hdigit
  exact isDigit_iff.mpr hdigit

theorem decimal_ne_nil (n : ℕ) : decimal n ≠ [] := Nat.toDigits_ne_nil

/-- A numeral begins with a digit. -/
theorem decimal_eq_cons (n : ℕ) : ∃ c digits, decimal n = c :: digits ∧ isDigit c = true := by
  obtain ⟨c, digits, h⟩ := List.exists_cons_of_ne_nil (decimal_ne_nil n)
  exact ⟨c, digits, h, isDigit_of_mem_decimal (h ▸ List.mem_cons_self)⟩

/-- A numeral is the one of its number. -/
theorem valueOf_decimal (n : ℕ) : valueOf (decimal n) = n := Nat.ofDigitChars_ten_toDigits

/-- Different numbers have different numerals. -/
theorem decimal_injective {n m : ℕ} (h : decimal n = decimal m) : n = m := by
  rw [← valueOf_decimal n, h, valueOf_decimal]

/-- Only the numeral `0` begins with a zero. -/
theorem decimal_eq_zero {n : ℕ} {digits : Text} (h : decimal n = '0' :: digits) : digits = [] := by
  induction n using Nat.strongRecOn generalizing digits with
  | ind n ih =>
      unfold decimal at h ih
      rw [Nat.toDigits_eq_if (by decide)] at h
      split at h
      · exact (List.cons.inj h).2.symm
      · -- the first digit is the one of the number without its last digit, which is not zero
        rename_i hten
        cases hfront : Nat.toDigits 10 (n / 10) with
        | nil => exact absurd hfront Nat.toDigits_ne_nil
        | cons c front =>
            rw [hfront, List.cons_append, List.cons.injEq] at h
            obtain ⟨rfl, -⟩ := h
            have hnil := ih (n / 10) (by omega) hfront
            have hvalue := valueOf_decimal (n / 10)
            rw [decimal, hfront, hnil] at hvalue
            have hzero : 0 = n / 10 := hvalue
            omega

/-! ## Reading -/

/-- A number only grows with the digits that follow. -/
theorem le_ofDigitChars (digits : Text) (value : ℕ) : value ≤ Nat.ofDigitChars 10 digits value := by
  rw [Nat.ofDigitChars_eq_ofDigitChars_zero]
  have hpos : 0 < 10 ^ digits.length := Nat.pow_pos (by decide)
  have := Nat.le_mul_of_pos_left value hpos
  omega

/-- **Digits are read** as the number that they are, or refused because it is too large. -/
theorem readDigits_ten {bound value : ℕ} {digits : Text} (hvalue : value < bound)
    (hdigits : ∀ c ∈ digits, isDigit c = true) :
    readDigits 10 bound value digits
      = if Nat.ofDigitChars 10 digits value < bound then .ok (Nat.ofDigitChars 10 digits value)
        else .error .tooLarge := by
  induction digits generalizing value with
  | nil => simp [readDigits, Nat.ofDigitChars, hvalue]
  | cons c digits ih =>
      have hrest := fun d hd => hdigits d (List.mem_cons_of_mem _ hd)
      rw [readDigits, digitValue?_ten (hdigits c List.mem_cons_self), Nat.ofDigitChars_cons]
      simp only
      by_cases hnext : 10 * value + (c.toNat - '0'.toNat) < bound
      · rw [if_pos hnext, ih hnext hrest]
      · have hgrows := le_ofDigitChars digits (10 * value + (c.toNat - '0'.toNat))
        rw [if_neg hnext, if_neg (by omega)]

/-- A numeral without a sign is its digits. -/
theorem readNumeral_cons (base bound : ℕ) {c : Char} (t : Text) (h : c ≠ '+') :
    readNumeral base bound (c :: t) = readDigits base bound 0 (c :: t) := by
  unfold readNumeral
  split
  · contradiction
  · exact absurd (List.cons.inj ‹_›).1 h
  · exact absurd (List.cons.inj ‹_›).1 h
  · rfl

/-- **The numeral of a number is read as the number**, if it lies below the bound. -/
theorem readNumeral_decimal {n bound : ℕ} (h : n < bound) :
    readNumeral 10 bound (decimal n) = .ok n := by
  have hdigits : ∀ c ∈ decimal n, isDigit c = true := fun c => isDigit_of_mem_decimal
  have hread := readDigits_ten (Nat.zero_lt_of_lt h) hdigits
  have hnumber : Nat.ofDigitChars 10 (decimal n) 0 = n := valueOf_decimal n
  rw [hnumber, if_pos h] at hread
  -- a numeral begins with a digit, and so without a sign
  obtain ⟨c, digits, hdecimal, hdigit⟩ := decimal_eq_cons n
  have hsign : c ≠ '+' := by
    rintro rfl
    exact absurd hdigit (by decide)
  rw [hdecimal] at hread ⊢
  rw [readNumeral_cons 10 bound digits hsign, hread]

end DepositTrail.Text
