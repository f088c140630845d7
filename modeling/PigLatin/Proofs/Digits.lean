import Mathlib.Algebra.Order.Field.Rat
import PigLatin.Text.Digits

/-!
# How many digits a number has

The number of digits bounds a number from both sides, and no number but zero starts with a zero.
-/

namespace PigLatin.Text

theorem length_digits_le_iff {n k : ℕ} (hk : 0 < k) : (digits n).length ≤ k ↔ n < 10 ^ k :=
  Nat.length_toDigits_le_iff (by decide) hk

theorem length_digits_pos (n : ℕ) : 0 < (digits n).length := Nat.length_toDigits_pos

theorem lt_pow_length_digits (n : ℕ) : n < 10 ^ (digits n).length :=
  (length_digits_le_iff (length_digits_pos n)).1 le_rfl

/-- The first of the `digits` is not zero, so it counts. -/
theorem pow_le_of_lt_length_digits {n k : ℕ} (hn : n ≠ 0) (hk : k < (digits n).length) :
    10 ^ k ≤ n := by
  by_cases hzero : k = 0
  · rw [hzero, pow_zero]
    omega
  · have hlt : ¬n < 10 ^ k := by
      rw [← length_digits_le_iff (by omega)]
      omega
    omega

/-- Digits followed by digits write the first number with the places of the second one behind it. -/
theorem digitsValue_append (cs ds : List Char) :
    digitsValue (cs ++ ds) = digitsValue cs * 10 ^ ds.length + digitsValue ds := by
  rw [digitsValue, Nat.ofDigitChars_append, Nat.ofDigitChars_eq_ofDigitChars_zero, mul_comm]
  rfl

theorem digitValue_lt {c : Char} (h : c.isDigit = true) : digitValue c < 10 := by
  unfold Char.isDigit at h
  simp only [ge_iff_le, Bool.and_eq_true, decide_eq_true_eq] at h
  have hle : c.toNat ≤ 57 := UInt32.le_iff_toNat_le.1 h.2
  have hzero : '0'.toNat = 48 := rfl
  unfold digitValue
  omega

/-- As many `digits` write no larger number. -/
theorem digitsValue_lt {cs : List Char} (h : ∀ c ∈ cs, c.isDigit = true) :
    digitsValue cs < 10 ^ cs.length := by
  induction cs with
  | nil => exact Nat.one_pos
  | cons c cs ih =>
    obtain ⟨hc, hcs⟩ := List.forall_mem_cons.1 h
    have hfirst : digitsValue [c] = digitValue c := by
      simp [digitsValue, digitValue, Nat.ofDigitChars]
    have hlt := ih hcs
    have hdigit := digitValue_lt hc
    rw [← List.singleton_append, digitsValue_append, hfirst, List.length_append,
      List.length_singleton, Nat.pow_add, pow_one]
    calc digitValue c * 10 ^ cs.length + digitsValue cs
        < digitValue c * 10 ^ cs.length + 10 ^ cs.length := Nat.add_lt_add_left hlt _
      _ = (digitValue c + 1) * 10 ^ cs.length := (Nat.succ_mul _ _).symm
      _ ≤ 10 * 10 ^ cs.length := Nat.mul_le_mul_right _ hdigit

/-- `digits` starts with no zero, unless the number is zero. -/
theorem head?_digits_ne_zero {n : ℕ} (hn : n ≠ 0) : (digits n).head? ≠ some '0' := by
  induction n using Nat.strong_induction_on with
  | _ n ih =>
    by_cases hlt : n < 10
    · rw [digits, Nat.toDigits_of_lt_base hlt, List.head?_cons]
      intro h
      have hvalue := digitsValue_digits n
      rw [digits, Nat.toDigits_of_lt_base hlt, Option.some.inj h] at hvalue
      exact hn hvalue.symm
    · -- All digits but the last are those of a smaller number.
      rw [digits, Nat.toDigits_of_base_le (by decide) (by omega), ← digits]
      obtain ⟨c, cs, heq⟩ := List.exists_cons_of_ne_nil (digits_ne_nil (n / 10))
      have hhead := ih (n / 10) (by omega) (by omega)
      rw [heq] at hhead ⊢
      exact hhead

end PigLatin.Text
