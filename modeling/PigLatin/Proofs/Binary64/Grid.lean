import Mathlib.Algebra.Order.Field.Power
import Mathlib.Algebra.Order.Field.Rat
import Mathlib.Tactic.FieldSimp
import Mathlib.Tactic.Linarith
import Mathlib.Tactic.Positivity
import Mathlib.Tactic.Ring
import PigLatin.Binary64.Shortest

/-!
# Decimals that read as a magnitude

A number reads as the magnitude of double precision that it is nearest to. Among the points of a
grid of decimals, `gridPoint?` finds the nearest one to a magnitude that reads as it: a point that
reads as the magnitude makes one of the two points around it read so too.
-/

namespace PigLatin.Binary64

/-- The number that the magnitude is. -/
def toRat (x : Binary64) : ℚ := x.significand * 2 ^ x.exponent

theorem powerRatio_snd_pos {base : ℕ} (hbase : 0 < base) (e : ℤ) : 0 < (powerRatio base e).2 := by
  cases e with
  | ofNat n => exact Nat.one_pos
  | negSucc n => exact Nat.pow_pos hbase

theorem powerRatio_fst_pos {base : ℕ} (hbase : 0 < base) (e : ℤ) : 0 < (powerRatio base e).1 := by
  cases e with
  | ofNat n => exact Nat.pow_pos hbase
  | negSucc n => exact Nat.one_pos

/-- `powerRatio base e` is the power `base ^ e` as a fraction. -/
theorem powerRatio_eq_zpow (base : ℕ) (e : ℤ) :
    ((powerRatio base e).1 : ℚ) / (powerRatio base e).2 = base ^ e := by
  cases e with
  | ofNat n =>
    rw [powerRatio, Nat.pow_eq]
    push_cast
    rw [div_one, Int.ofNat_eq_natCast, zpow_natCast]
  | negSucc n =>
    rw [powerRatio, Nat.pow_eq]
    push_cast
    rw [zpow_negSucc, one_div]

/-- The magnitude in quarters of its last bit, of which the middles to its neighbours are whole
numbers too. -/
theorem toRat_eq_quarters (x : Binary64) :
    x.toRat = 4 * x.significand * 2 ^ (x.exponent - 2) := by
  rw [toRat, zpow_sub₀ two_ne_zero]
  norm_num
  ring

/-! ## Numbers that read as the magnitude -/

/-- The middle between the magnitude and the one below it. The one below a power of two is nearer,
unless the power is among the least magnitudes. -/
def lowerMiddle (x : Binary64) : ℚ :=
  x.toRat - (if x.significand = leadingBit ∧ minExponent < x.exponent then 1 else 2 : ℕ) *
    2 ^ (x.exponent - 2)

/-- The middle between the magnitude and the one above it. -/
def upperMiddle (x : Binary64) : ℚ := x.toRat + (2 : ℕ) * 2 ^ (x.exponent - 2)

/-- The number reads as the magnitude: it is not nearer to another magnitude, and if it is as near
to another one, then the magnitude is the even one of the two. -/
def ReadsAs (q : ℚ) (x : Binary64) : Prop :=
  if x.significand % 2 = 0 then x.lowerMiddle ≤ q ∧ q ≤ x.upperMiddle
  else x.lowerMiddle < q ∧ q < x.upperMiddle

/-- The second number is between the first and the third. -/
def Between (q q' r : ℚ) : Prop := q ≤ q' ∧ q' ≤ r ∨ r ≤ q' ∧ q' ≤ q

/-- What is between is nearer. -/
theorem Between.abs_sub_le {q q' r : ℚ} (h : Between q q' r) : |q' - r| ≤ |q - r| := by
  rcases h with ⟨hle, hle'⟩ | ⟨hle, hle'⟩
  · rw [abs_of_nonpos (sub_nonpos.2 hle'), abs_of_nonpos (sub_nonpos.2 (hle.trans hle'))]
    linarith
  · rw [abs_of_nonneg (sub_nonneg.2 hle), abs_of_nonneg (sub_nonneg.2 (hle.trans hle'))]
    linarith

/-- Of the two numbers around a third one, the lower is as near if the middle between them is not
below the third. -/
theorem abs_lower_sub_le {q q' r : ℚ} (hle : q ≤ r) (hle' : r ≤ q') (h : 2 * r ≤ q + q') :
    |q - r| ≤ |q' - r| := by
  rw [abs_of_nonpos (sub_nonpos.2 hle), abs_of_nonneg (sub_nonneg.2 hle')]
  linarith

/-- The upper is as near if the middle is not above the third. -/
theorem abs_upper_sub_le {q q' r : ℚ} (hle : q ≤ r) (hle' : r ≤ q') (h : q + q' ≤ 2 * r) :
    |q' - r| ≤ |q - r| := by
  rw [abs_of_nonpos (sub_nonpos.2 hle), abs_of_nonneg (sub_nonneg.2 hle')]
  linarith

section

variable {x : Binary64} {q q' : ℚ} {k : ℤ}

theorem lowerMiddle_lt (x : Binary64) : x.lowerMiddle < x.toRat := by
  unfold lowerMiddle
  have hquarter : (0 : ℚ) < 2 ^ (x.exponent - 2) := by positivity
  split <;> push_cast <;> linarith

theorem lt_upperMiddle (x : Binary64) : x.toRat < x.upperMiddle := by
  unfold upperMiddle
  have hquarter : (0 : ℚ) < 2 ^ (x.exponent - 2) := by positivity
  push_cast
  linarith

theorem le_lowerMiddle_of_not_readsAs (hle : q ≤ x.toRat) (h : ¬ReadsAs q x) :
    q ≤ x.lowerMiddle := by
  have hupper := x.lt_upperMiddle
  unfold ReadsAs at h
  by_contra hlt
  refine h ?_
  split <;> constructor <;> linarith

theorem upperMiddle_le_of_not_readsAs (hle : x.toRat ≤ q) (h : ¬ReadsAs q x) :
    x.upperMiddle ≤ q := by
  have hlower := x.lowerMiddle_lt
  unfold ReadsAs at h
  by_contra hlt
  refine h ?_
  split <;> constructor <;> linarith

/-- The numbers that read as the magnitude are an interval around it. -/
theorem ReadsAs.of_between (h : ReadsAs q x) (hbetween : Between q q' x.toRat) :
    ReadsAs q' x := by
  have hlower := x.lowerMiddle_lt
  have hupper := x.lt_upperMiddle
  unfold ReadsAs at h ⊢
  split at h
  · next heven =>
    rw [if_pos heven]
    rcases hbetween with ⟨hle, hle'⟩ | ⟨hle, hle'⟩ <;> constructor <;> linarith
  · next hodd =>
    rw [if_neg hodd]
    rcases hbetween with ⟨hle, hle'⟩ | ⟨hle, hle'⟩ <;> constructor <;> linarith

/-! ## Steps and quarters -/

/-- A step of the grid of multiples of `10 ^ k` and a quarter of the last bit are counted in the
same unit. -/
structure Measures (x : Binary64) (k : ℤ) (unit : ℚ) (step quarter : ℕ) : Prop where
  unit_pos : 0 < unit
  step_mul : step * unit = 10 ^ k
  quarter_mul : quarter * unit = 2 ^ (x.exponent - 2)

theorem exists_measures (x : Binary64) (k : ℤ) : ∃ unit, Measures x k unit
    ((powerRatio 10 k).1 * (powerRatio 2 (x.exponent - 2)).2)
    ((powerRatio 2 (x.exponent - 2)).1 * (powerRatio 10 k).2) := by
  have hten : 0 < ((powerRatio 10 k).2 : ℚ) := by
    exact_mod_cast powerRatio_snd_pos (by decide) k
  have htwo : 0 < ((powerRatio 2 (x.exponent - 2)).2 : ℚ) := by
    exact_mod_cast powerRatio_snd_pos (by decide) (x.exponent - 2)
  have hk := powerRatio_eq_zpow 10 k
  have he := powerRatio_eq_zpow 2 (x.exponent - 2)
  push_cast at hk he
  refine ⟨1 / ((powerRatio 10 k).2 * (powerRatio 2 (x.exponent - 2)).2), by positivity, ?_, ?_⟩
  · rw [← hk]
    push_cast
    field_simp
  · rw [← he]
    push_cast
    field_simp

namespace Measures

variable {unit : ℚ} {step quarter n m : ℕ}

theorem le_iff (h : Measures x k unit step quarter) :
    n ≤ m ↔ (n : ℚ) * unit ≤ m * unit := by
  rw [mul_le_mul_iff_left₀ h.unit_pos, Nat.cast_le]

theorem lt_iff (h : Measures x k unit step quarter) :
    n < m ↔ (n : ℚ) * unit < m * unit := by
  rw [mul_lt_mul_iff_left₀ h.unit_pos, Nat.cast_lt]

theorem step_pos (h : Measures x k unit step quarter) : 0 < step := by
  have hpos : (0 : ℚ) < step * unit := by
    rw [h.step_mul]
    positivity
  exact_mod_cast pos_of_mul_pos_left hpos h.unit_pos.le

theorem steps_mul (h : Measures x k unit step quarter) (n : ℕ) :
    ((n * step : ℕ) : ℚ) * unit = n * 10 ^ k := by
  rw [Nat.cast_mul, mul_assoc, h.step_mul]

theorem value_mul (h : Measures x k unit step quarter) :
    ((4 * x.significand * quarter : ℕ) : ℚ) * unit = x.toRat := by
  rw [Nat.cast_mul, mul_assoc, h.quarter_mul, toRat_eq_quarters]
  push_cast
  rfl

/-- The middles count in the unit too. Zero has no magnitude below it. -/
theorem lower_mul (h : Measures x k unit step quarter) (hx : x.significand ≠ 0) {quarters : ℕ}
    (hquarters : quarters ≤ 2) :
    ((4 * x.significand * quarter - quarters * quarter : ℕ) : ℚ) * unit =
      x.toRat - quarters * 2 ^ (x.exponent - 2) := by
  have hle : quarters * quarter ≤ 4 * x.significand * quarter := by
    refine Nat.mul_le_mul_right quarter ?_
    omega
  rw [Nat.cast_sub hle, sub_mul, h.value_mul, Nat.cast_mul, mul_assoc, h.quarter_mul]

theorem upper_mul (h : Measures x k unit step quarter) :
    ((4 * x.significand * quarter + 2 * quarter : ℕ) : ℚ) * unit = x.upperMiddle := by
  rw [Nat.cast_add, add_mul, h.value_mul, Nat.cast_mul, mul_assoc, h.quarter_mul]
  rfl

/-- `gridPoint?` asks of a point whether it reads as the magnitude. -/
theorem reads_iff (h : Measures x k unit step quarter) (hx : x.significand ≠ 0) (n : ℕ) :
    (if x.significand % 2 = 0 then
        decide (4 * x.significand * quarter -
          (if x.significand = leadingBit ∧ minExponent < x.exponent then 1 else 2) * quarter ≤
            n * step) && decide (n * step ≤ 4 * x.significand * quarter + 2 * quarter)
      else
        decide (4 * x.significand * quarter -
          (if x.significand = leadingBit ∧ minExponent < x.exponent then 1 else 2) * quarter <
            n * step) && decide (n * step < 4 * x.significand * quarter + 2 * quarter)) = true ↔
      ReadsAs (n * 10 ^ k) x := by
  have hquarters :
      (if x.significand = leadingBit ∧ minExponent < x.exponent then 1 else 2) ≤ 2 := by
    split <;> decide
  have hlower := h.lower_mul hx hquarters
  unfold ReadsAs
  split
  · rw [Bool.and_eq_true, decide_eq_true_eq, decide_eq_true_eq, h.le_iff, h.le_iff, hlower,
      h.upper_mul, h.steps_mul]
    rfl
  · rw [Bool.and_eq_true, decide_eq_true_eq, decide_eq_true_eq, h.lt_iff, h.lt_iff, hlower,
      h.upper_mul, h.steps_mul]
    rfl

end Measures

/-- `gridPoint?` chooses between the points around the magnitude. -/
theorem gridPoint?_cases (hx : x.significand ≠ 0) (k : ℤ) : ∃ below : ℕ,
    below * 10 ^ k ≤ x.toRat ∧ x.toRat < (below + 1 : ℕ) * 10 ^ k ∧
      ((x.gridPoint? k = none ∧ ∀ n, n = below ∨ n = below + 1 → ¬ReadsAs (n * 10 ^ k) x) ∨
        ∃ point, x.gridPoint? k = some point ∧ (point = below ∨ point = below + 1) ∧
          ReadsAs (point * 10 ^ k) x ∧
          ∀ n, n = below ∨ n = below + 1 → ReadsAs (n * 10 ^ k) x →
            |point * 10 ^ k - x.toRat| ≤ |n * 10 ^ k - x.toRat|) := by
  obtain ⟨unit, h⟩ := exists_measures x k
  generalize hfound : x.gridPoint? k = found
  simp only [gridPoint?] at hfound
  generalize (powerRatio 10 k).1 * (powerRatio 2 (x.exponent - 2)).2 = step at h hfound
  generalize (powerRatio 2 (x.exponent - 2)).1 * (powerRatio 10 k).2 = quarter at h hfound
  have hreads := h.reads_iff hx
  have hvalue := h.value_mul
  generalize 4 * x.significand * quarter = value at hfound hreads hvalue
  have hbelow : value / step * step ≤ value := Nat.div_mul_le_self _ _
  have habove : value < (value / step + 1) * step :=
    Nat.lt_mul_of_div_lt (Nat.lt_succ_self _) h.step_pos
  generalize value / step = below at hfound hbelow habove
  have hle : below * 10 ^ k ≤ x.toRat := by
    rw [← h.steps_mul, ← hvalue, ← h.le_iff]
    exact hbelow
  have hlt : x.toRat < (below + 1 : ℕ) * 10 ^ k := by
    rw [← h.steps_mul, ← hvalue, ← h.lt_iff]
    exact habove
  refine ⟨below, hle, hlt, ?_⟩
  split at hfound
  · next hb ha =>
    refine .inl ⟨hfound.symm, ?_⟩
    rintro n (rfl | rfl) hn
    · rw [(hreads n).2 hn] at hb
      cases hb
    · rw [(hreads _).2 hn] at ha
      cases ha
  · next hb ha =>
    refine .inr ⟨below, hfound.symm, .inl rfl, (hreads below).1 hb, ?_⟩
    rintro n (rfl | rfl) hn
    · rfl
    · rw [(hreads _).2 hn] at ha
      cases ha
  · next hb ha =>
    refine .inr ⟨below + 1, hfound.symm, .inr rfl, (hreads _).1 ha, ?_⟩
    rintro n (rfl | rfl) hn
    · rw [(hreads n).2 hn] at hb
      cases hb
    · rfl
  · next hb ha =>
    -- The distances are compared by the sum of the points.
    have htwice : ((2 * value : ℕ) : ℚ) * unit = 2 * x.toRat := by
      rw [Nat.cast_mul, mul_assoc, hvalue]
      rfl
    have hsum : ((below * step + (below + 1) * step : ℕ) : ℚ) * unit =
        below * 10 ^ k + (below + 1 : ℕ) * 10 ^ k := by
      rw [Nat.cast_add, add_mul, h.steps_mul, h.steps_mul]
    split at hfound
    · next hnear =>
      refine .inr ⟨below, hfound.symm, .inl rfl, (hreads below).1 hb, ?_⟩
      have hcloser : 2 * value ≤ below * step + (below + 1) * step := by omega
      rw [h.le_iff, htwice, hsum] at hcloser
      rintro n (rfl | rfl) -
      · rfl
      · exact abs_lower_sub_le hle hlt.le hcloser
    · next hfar =>
      refine .inr ⟨below + 1, hfound.symm, .inr rfl, (hreads _).1 ha, ?_⟩
      have hcloser : below * step + (below + 1) * step ≤ 2 * value := by omega
      rw [h.le_iff, htwice, hsum] at hcloser
      rintro n (rfl | rfl) -
      · exact abs_upper_sub_le hle hlt.le hcloser
      · rfl

/-- `gridPoint?` finds the nearest point that reads as the magnitude, if any does. -/
theorem gridPoint?_nearest (hx : x.significand ≠ 0) (k : ℤ) :
    (x.gridPoint? k = none ∧ ∀ n : ℕ, ¬ReadsAs (n * 10 ^ k) x) ∨
      ∃ point, x.gridPoint? k = some point ∧ ReadsAs (point * 10 ^ k) x ∧
        ∀ n : ℕ, ReadsAs (n * 10 ^ k) x →
          |point * 10 ^ k - x.toRat| ≤ |n * 10 ^ k - x.toRat| := by
  obtain ⟨below, hle, hlt, hcases⟩ := gridPoint?_cases hx k
  have hstep : (0 : ℚ) < 10 ^ k := by positivity
  -- Every point is on the far side of one of the two around the magnitude.
  have hside : ∀ n : ℕ, ∃ m, (m = below ∨ m = below + 1) ∧
      Between (n * 10 ^ k) (m * 10 ^ k) x.toRat := by
    intro n
    rcases Nat.lt_or_ge below n with hn | hn
    · refine ⟨below + 1, .inr rfl, .inr ⟨hlt.le, ?_⟩⟩
      exact mul_le_mul_of_nonneg_right (Nat.cast_le.2 hn) hstep.le
    · refine ⟨below, .inl rfl, .inl ⟨?_, hle⟩⟩
      exact mul_le_mul_of_nonneg_right (Nat.cast_le.2 hn) hstep.le
  rcases hcases with ⟨hnone, hfar⟩ | ⟨point, hsome, -, hreads, hnear⟩
  · refine .inl ⟨hnone, fun n hn => ?_⟩
    obtain ⟨m, hm, hbetween⟩ := hside n
    exact hfar m hm (hn.of_between hbetween)
  · refine .inr ⟨point, hsome, hreads, fun n hn => ?_⟩
    obtain ⟨m, hm, hbetween⟩ := hside n
    exact (hnear m hm (hn.of_between hbetween)).trans hbetween.abs_sub_le

/-- On a grid with steps smaller than what reads as the magnitude, `gridPoint?` finds a point. -/
theorem exists_gridPoint? (hx : x.significand ≠ 0) (hk : 10 ^ k < x.upperMiddle - x.lowerMiddle) :
    ∃ point, x.gridPoint? k = some point := by
  obtain ⟨below, hle, hlt, ⟨-, hfar⟩ | ⟨point, hsome, -⟩⟩ := gridPoint?_cases hx k
  · have hlower := le_lowerMiddle_of_not_readsAs hle (hfar _ (.inl rfl))
    have hupper := upperMiddle_le_of_not_readsAs hlt.le (hfar _ (.inr rfl))
    push_cast at hupper
    linarith
  · exact ⟨point, hsome⟩

end

end PigLatin.Binary64
