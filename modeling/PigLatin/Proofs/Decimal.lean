import Mathlib.Algebra.Order.Field.Power
import Mathlib.Algebra.Order.Field.Rat
import Mathlib.Tactic.FieldSimp
import Mathlib.Tactic.Linarith
import Mathlib.Tactic.Positivity
import PigLatin.Decimal

/-!
# The numbers that decimals are

A decimal is a rational number. Two decimals have the same value if they are the same number.
-/

namespace PigLatin

/-! ## Signs -/

theorem cast_signed (negative : Bool) (n : ℕ) :
    (signed negative n : ℚ) = (if negative then -1 else 1) * n := by
  cases negative <;> simp [signed]

theorem natAbs_signed (negative : Bool) (n : ℕ) : (signed negative n).natAbs = n := by
  cases negative <;> simp [signed]

theorem signed_eq_zero_iff {negative : Bool} {n : ℕ} : signed negative n = 0 ↔ n = 0 := by
  cases negative <;> simp [signed]

theorem signed_neg_iff {negative : Bool} {n : ℕ} :
    signed negative n < 0 ↔ negative = true ∧ n ≠ 0 := by
  cases negative with
  | true => simp [signed, Nat.pos_iff_ne_zero]
  | false => simp [signed]

/-! ## Decimals -/

namespace Decimal

/-- The number that the decimal is. -/
def toRat (d : Decimal) : ℚ := d.mantissa / 10 ^ d.scale

/-- `SameValue` says that both decimals are the same number. -/
theorem sameValue_iff_toRat_eq {a b : Decimal} : a.SameValue b ↔ a.toRat = b.toRat := by
  have hten : ∀ scale : ℕ, (10 : ℚ) ^ scale ≠ 0 := fun scale => by positivity
  rw [SameValue, toRat, toRat, div_eq_div_iff (hten _) (hten _), Nat.pow_eq, Nat.pow_eq]
  norm_cast

/-- `ofParts?` makes a decimal of parts that are within bounds, and of no others. -/
theorem ofParts?_eq_none_iff {mantissa : Int} {scale : Nat} :
    ofParts? mantissa scale = none ↔ ¬(mantissa.natAbs ≤ maxMantissa ∧ scale ≤ maxScale) := by
  unfold ofParts?
  split
  · next h => exact iff_of_false nofun (not_not_intro h)
  · next h => exact iff_of_true rfl h

theorem toRat_of_ofParts? {mantissa : Int} {scale : Nat} {d : Decimal}
    (h : ofParts? mantissa scale = some d) : d.toRat = mantissa / 10 ^ scale := by
  unfold ofParts? at h
  split at h
  · cases h
    rfl
  · cases h

end Decimal

end PigLatin
