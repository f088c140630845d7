import PigLatin.Decimal.Reader
import PigLatin.Proofs.Decimal

/-!
# Rounding

`Decimal.roundHalfUp` is off by a half at most. A decimal that is rounded to 28 decimals is still
the nearest one, and it is the number itself where 28 decimals are enough for it.
-/

namespace PigLatin.Decimal

/-! ## Rounding -/

/-- `roundHalfUp` changes a fraction by a half at most. -/
theorem abs_roundHalfUp_sub_le (n k : ℕ) : |(roundHalfUp n k : ℚ) - n / 10 ^ k| ≤ 1 / 2 := by
  have hpos : (0 : ℚ) < 10 ^ k := by positivity
  have hunit : 0 < 2 * Nat.pow 10 k := by
    rw [Nat.pow_eq]
    positivity
  have hlow : (2 * 10 ^ k * roundHalfUp n k : ℚ) ≤ 2 * n + 10 ^ k := by
    exact_mod_cast Nat.mul_div_le (2 * n + Nat.pow 10 k) (2 * Nat.pow 10 k)
  have hhigh : (2 * n + 10 ^ k : ℚ) < 2 * 10 ^ k * (roundHalfUp n k + 1) := by
    exact_mod_cast Nat.lt_mul_div_succ (2 * n + Nat.pow 10 k) hunit
  have habove : (n : ℚ) / 10 ^ k ≤ roundHalfUp n k + 1 / 2 := by
    rw [div_le_iff₀ hpos]
    linarith
  have hbelow : (roundHalfUp n k : ℚ) - 1 / 2 ≤ n / 10 ^ k := by
    rw [le_div_iff₀ hpos]
    linarith
  rw [abs_le]
  constructor <;> linarith

/-- `roundHalfUp` makes nothing zero that is at least one. -/
theorem roundHalfUp_eq_zero_iff {n k : ℕ} (h : n ≠ 0 → 10 ^ k ≤ n) :
    roundHalfUp n k = 0 ↔ n = 0 := by
  have hpos : 0 < 10 ^ k := by positivity
  rw [roundHalfUp, Nat.pow_eq, Nat.div_eq_zero_iff]
  constructor
  · intro hround
    by_contra hn
    have hle := h hn
    omega
  · rintro rfl
    omega

theorem roundHalfUp_le (n k : ℕ) : roundHalfUp n k ≤ n := by
  have hpos : 0 < 10 ^ k := by positivity
  have hlt : 2 * n + 10 ^ k < 2 * 10 ^ k * (n + 1) := by nlinarith
  exact Nat.le_of_lt_succ (Nat.div_lt_of_lt_mul hlt)

theorem roundHalfUp_zero (n : ℕ) : roundHalfUp n 0 = n := by
  have hone : Nat.pow 10 0 = 1 := rfl
  rw [roundHalfUp, hone]
  omega

/-! ## The nearest decimal -/

/-- The decimal is the number, or the number has too many decimals and this is a nearest one that
does not round it to zero. -/
structure Approximates (d : Decimal) (q : ℚ) : Prop where
  /-- It is off by half a unit of the last decimal at most. -/
  near : |d.toRat - q| ≤ 1 / 2 / 10 ^ 28
  /-- It is the number if 28 decimals are enough for it. -/
  exact_of_decimals : ∀ units : ℤ, q = units / 10 ^ 28 → d.toRat = q
  /-- It is below zero if the number is. -/
  neg_iff : d.toRat < 0 ↔ q < 0
  /-- It is zero only if the number is. -/
  eq_zero_iff : d.toRat = 0 ↔ q = 0

theorem approximates_of_eq {d : Decimal} {q : ℚ} (h : d.toRat = q) : Approximates d q := by
  refine ⟨?_, fun _ _ => h, by rw [h], by rw [h]⟩
  rw [h, sub_self, abs_zero]
  positivity

/-- A number with `28 + k` decimals is approximated by what `roundHalfUp` makes of its units of the
last of 28. -/
theorem approximates_of_round {d : Decimal} {negative : Bool} {n k : ℕ}
    (hd : d.toRat = signed negative (roundHalfUp n k) / 10 ^ 28) (hn : n ≠ 0 → 10 ^ k ≤ n) :
    Approximates d (signed negative n / 10 ^ k / 10 ^ 28) := by
  have hunits : |(signed negative (roundHalfUp n k) : ℚ) - signed negative n / 10 ^ k| ≤ 1 / 2 := by
    have hround := abs_roundHalfUp_sub_le n k
    have habs : |(if negative then -1 else 1 : ℚ)| = 1 := by
      cases negative <;> simp
    rw [cast_signed, cast_signed, mul_div_assoc, ← mul_sub, abs_mul, habs, one_mul]
    exact hround
  have hpos : (0 : ℚ) < 10 ^ 28 := by positivity
  have hexact : ∀ units : ℤ, (signed negative n : ℚ) / 10 ^ k / 10 ^ 28 = units / 10 ^ 28 →
      d.toRat = signed negative n / 10 ^ k / 10 ^ 28 := by
    intro units hq
    -- Both are whole numbers of units, and no two of those are nearer than one unit.
    have hwhole : (signed negative n : ℚ) / 10 ^ k = units := by
      rwa [div_left_inj' hpos.ne'] at hq
    have hlt : |signed negative (roundHalfUp n k) - units| < 1 := by
      rw [hwhole] at hunits
      have hcast : (|signed negative (roundHalfUp n k) - units| : ℚ) < 1 := by linarith
      exact_mod_cast hcast
    have heq : signed negative (roundHalfUp n k) = units := by
      rw [Int.abs_lt_one_iff] at hlt
      omega
    rw [hd, hwhole, heq]
  have hround : roundHalfUp n k = 0 ↔ n = 0 := roundHalfUp_eq_zero_iff hn
  have hten : (0 : ℚ) < 10 ^ k := by positivity
  refine ⟨?_, hexact, ?_, ?_⟩
  · rw [hd, ← sub_div, abs_div, abs_of_pos hpos]
    exact div_le_div_of_nonneg_right hunits hpos.le
  · rw [hd, div_lt_iff₀ hpos, div_lt_iff₀ hpos, zero_mul, div_lt_iff₀ hten, zero_mul,
      Int.cast_lt_zero, Int.cast_lt_zero, signed_neg_iff, signed_neg_iff, ne_eq, hround]
  · rw [hd, div_eq_zero_iff, div_eq_zero_iff, div_eq_zero_iff, Int.cast_eq_zero, Int.cast_eq_zero,
      signed_eq_zero_iff, signed_eq_zero_iff, hround]
    simp

end PigLatin.Decimal
