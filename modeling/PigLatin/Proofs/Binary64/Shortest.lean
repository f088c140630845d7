import PigLatin.Proofs.Binary64.Grid
import PigLatin.Proofs.Digits

/-!
# Shortest decimals

`shortest` looks through finer and finer grids of decimals, of which the first counts the first
digit of the magnitude alone. What it finds has the fewest digits of all decimals that read as the
magnitude, and 17 digits are enough.
-/

namespace PigLatin.Binary64

/-! ## The first digit -/

/-- `leadingTen` is large enough: no number with one digit more before the point is as small as `num
/ den`. -/
theorem lt_leadingTen {num den : ℕ} (hnum : 0 < num) (hden : 0 < den) :
    (num : ℚ) / den < 10 ^ (leadingTen num den + 1) := by
  have hpos : (0 : ℚ) < den := by exact_mod_cast hden
  unfold leadingTen
  by_cases hle : den ≤ num
  · have hquotient : num < 10 ^ (Text.digits (num / den)).length * den := by
      rw [← Nat.div_lt_iff_lt_mul hden]
      exact Text.lt_pow_length_digits _
    rw [if_pos hle, sub_add_cancel, zpow_natCast, div_lt_iff₀ hpos]
    exact_mod_cast hquotient
  · -- The quotient of the other way round counts the zeros after the point.
    rw [if_neg hle]
    have hne : (den - 1) / num ≠ 0 := (Nat.div_pos (by omega) hnum).ne'
    have hlength := Text.length_digits_pos ((den - 1) / num)
    have hpow : 10 ^ ((Text.digits ((den - 1) / num)).length - 1) ≤ (den - 1) / num :=
      Text.pow_le_of_lt_length_digits hne (by omega)
    have hproduct : num * 10 ^ ((Text.digits ((den - 1) / num)).length - 1) < den := by
      have hmul := Nat.mul_le_mul_left num hpow
      have hdiv := Nat.mul_div_le (den - 1) num
      omega
    have hexponent : -((Text.digits ((den - 1) / num)).length : ℤ) + 1 =
        -(((Text.digits ((den - 1) / num)).length - 1 : ℕ) : ℤ) := by
      omega
    rw [hexponent, zpow_neg, zpow_natCast, div_lt_iff₀ hpos, ← div_eq_inv_mul,
      lt_div_iff₀ (by positivity)]
    exact_mod_cast hproduct

/-- `leadingTen` is not too large: the number has a digit in that place. -/
theorem leadingTen_le {num den : ℕ} (hnum : 0 < num) (hden : 0 < den) :
    (10 : ℚ) ^ leadingTen num den ≤ num / den := by
  have hpos : (0 : ℚ) < den := by exact_mod_cast hden
  unfold leadingTen
  by_cases hle : den ≤ num
  · have hlength := Text.length_digits_pos (num / den)
    have hpow : 10 ^ ((Text.digits (num / den)).length - 1) ≤ num / den :=
      Text.pow_le_of_lt_length_digits (Nat.div_pos hle hden).ne' (by omega)
    have hexponent : ((Text.digits (num / den)).length : ℤ) - 1 =
        ((Text.digits (num / den)).length - 1 : ℕ) := by
      omega
    rw [if_pos hle, hexponent, zpow_natCast, le_div_iff₀ hpos]
    exact_mod_cast (Nat.le_div_iff_mul_le hden).1 hpow
  · have hquotient : den - 1 < 10 ^ (Text.digits ((den - 1) / num)).length * num := by
      rw [← Nat.div_lt_iff_lt_mul hnum]
      exact Text.lt_pow_length_digits _
    have hproduct : den ≤ num * 10 ^ (Text.digits ((den - 1) / num)).length := by
      rw [mul_comm]
      omega
    rw [if_neg hle, zpow_neg, zpow_natCast, le_div_iff₀ hpos, ← div_eq_inv_mul,
      div_le_iff₀ (by positivity)]
    exact_mod_cast hproduct

/-- The weight of the first digit that `shortest` starts with. -/
def leading (x : Binary64) : ℤ :=
  leadingTen (x.significand * (powerRatio 2 x.exponent).1) (powerRatio 2 x.exponent).2

section

variable {x : Binary64}

/-- The fraction that `shortest` looks for the first digit of is the magnitude. -/
theorem ratio_eq_toRat (x : Binary64) :
    ((x.significand * (powerRatio 2 x.exponent).1 : ℕ) : ℚ) / (powerRatio 2 x.exponent).2 =
      x.toRat := by
  have htwo := powerRatio_eq_zpow 2 x.exponent
  push_cast at htwo ⊢
  rw [mul_div_assoc, htwo, toRat]

theorem leading_le (hx : x.significand ≠ 0) : (10 : ℚ) ^ x.leading ≤ x.toRat := by
  rw [← ratio_eq_toRat]
  exact leadingTen_le (Nat.mul_pos (Nat.pos_of_ne_zero hx) (powerRatio_fst_pos (by decide) _))
    (powerRatio_snd_pos (by decide) _)

theorem toRat_lt_leading (hx : x.significand ≠ 0) : x.toRat < 10 ^ (x.leading + 1) := by
  rw [← ratio_eq_toRat]
  exact lt_leadingTen (Nat.mul_pos (Nat.pos_of_ne_zero hx) (powerRatio_fst_pos (by decide) _))
    (powerRatio_snd_pos (by decide) _)

/-- The steps of the grid on which `shortest` looks for `n + 1` digits. -/
theorem ten_pow_mul_step (leading : ℤ) (n : ℕ) :
    (10 : ℚ) ^ n * 10 ^ (leading - n) = 10 ^ leading := by
  rw [← zpow_natCast, ← zpow_add₀ (by norm_num), add_sub_cancel]

/-- The steps of the grid on which `shortest` looks for 17 digits are smaller than what reads as the
magnitude: 53 bits count less far than 16 digits. -/
theorem ten_zpow_lt_middles (hx : x.significand ≠ 0) (hbits : x.significand < 2 ^ 53) :
    10 ^ (x.leading - (16 : ℕ)) < x.upperMiddle - x.lowerMiddle := by
  have hle := leading_le hx
  have hpos : (0 : ℚ) < 2 ^ (x.exponent - 2) := by positivity
  rw [← ten_pow_mul_step x.leading 16, toRat_eq_quarters] at hle
  unfold upperMiddle lowerMiddle
  generalize (2 : ℚ) ^ (x.exponent - 2) = quarter at hle hpos ⊢
  generalize (10 : ℚ) ^ (x.leading - (16 : ℕ)) = step at hle ⊢
  split
  · -- The interval is narrower about a power of two, but the power has a bit less.
    next hpower =>
    rw [hpower.1, leadingBit] at hle
    norm_num at hle ⊢
    linarith
  · have hmul : (x.significand : ℚ) * quarter ≤ 2 ^ 53 * quarter :=
      mul_le_mul_of_nonneg_right (by exact_mod_cast hbits.le) hpos.le
    norm_num at hle hmul ⊢
    linarith

/-- On the grid that counts the first `n + 1` digits, the point of `gridPoint?` has no more digits
than that, unless it is the next power of ten. -/
theorem gridPoint?_le {n point : ℕ} (hx : x.significand ≠ 0)
    (h : x.gridPoint? (x.leading - n) = some point) : point ≤ 10 ^ (n + 1) := by
  have hstep : (0 : ℚ) < 10 ^ (x.leading - n) := by positivity
  have hlt := toRat_lt_leading hx
  rw [zpow_add_one₀ (by norm_num), ← ten_pow_mul_step x.leading n, mul_right_comm,
    ← pow_succ] at hlt
  obtain ⟨below, hle, -, ⟨hnone, -⟩ | ⟨point', hsome, hnear, -⟩⟩ :=
    gridPoint?_cases hx (x.leading - n)
  · rw [hnone] at h
    cases h
  · obtain rfl : point' = point := Option.some.inj (hsome.symm.trans h)
    have hbelow : below < 10 ^ (n + 1) := by
      exact_mod_cast lt_of_mul_lt_mul_right (hle.trans_lt hlt) hstep.le
    omega

/-! ## The decimal -/

/-- `shortest` takes the first grid on which `gridPoint?` finds a point. -/
theorem shortest_cases (hx : x.significand ≠ 0) :
    (x.shortest = ⟨0, 0⟩ ∧ ∀ n < maxDigits, x.gridPoint? (x.leading - n) = none) ∨
      ∃ n < maxDigits, ∃ point, x.gridPoint? (x.leading - n) = some point ∧
        (∀ m < n, x.gridPoint? (x.leading - m) = none) ∧
        x.shortest =
          if point = 10 ^ (n + 1) then ⟨1, x.leading + 1⟩ else ⟨point, x.leading - n⟩ := by
  unfold shortest
  rw [if_neg hx]
  dsimp only
  rw [← leading]
  generalize hfound : List.findSome? _ _ = found
  cases found with
  | none =>
    refine .inl ⟨rfl, fun n hn => ?_⟩
    exact Option.map_eq_none_iff.1 (List.findSome?_eq_none_iff.1 hfound n (List.mem_range.2 hn))
  | some s =>
    obtain ⟨before, n, after, hrange, hs, hbefore⟩ := List.findSome?_eq_some_iff.1 hfound
    obtain ⟨point, hpoint, rfl⟩ := Option.map_eq_some_iff.1 hs
    have hn : n < maxDigits := by
      rw [← List.mem_range, hrange]
      simp
    refine .inr ⟨n, hn, point, hpoint, fun m hm => ?_, rfl⟩
    have hpairwise : (before ++ n :: after).Pairwise (· < ·) := hrange ▸ List.pairwise_lt_range
    have hmem : m ∈ before ++ n :: after := by
      rw [← hrange]
      exact List.mem_range.2 (hm.trans hn)
    rcases List.mem_append.1 hmem with hmem | hmem
    · exact Option.map_eq_none_iff.1 (hbefore m hmem)
    · have hlater := (List.pairwise_cons.1 (List.pairwise_append.1 hpairwise).2.1).1
      rcases List.mem_cons.1 hmem with rfl | hmem
      · omega
      · have hlt := hlater m hmem
        omega

/-- What is written with `d + 1` digits is on the grid where `shortest` looks for as many, or that
grid has a point nearer to the magnitude. -/
theorem exists_between_point (hx : x.significand ≠ 0) {m d : ℕ} (hm : m < 10 ^ (d + 1)) (j : ℤ) :
    ∃ point : ℕ, Between (m * 10 ^ j) (point * 10 ^ (x.leading - d)) x.toRat := by
  by_cases hle : (10 : ℚ) ^ x.leading ≤ m * 10 ^ j
  · have hpow : (10 : ℚ) ^ x.leading < 10 ^ ((d + 1 : ℕ) + j : ℤ) := by
      refine hle.trans_lt ?_
      rw [zpow_add₀ (by norm_num), zpow_natCast]
      exact mul_lt_mul_of_pos_right (by exact_mod_cast hm) (by positivity)
    have hlt : x.leading < (d + 1 : ℕ) + j := (zpow_lt_zpow_iff_right₀ (by norm_num)).1 hpow
    obtain ⟨t, ht⟩ : ∃ t : ℕ, j = t + (x.leading - d) :=
      ⟨(j - (x.leading - d)).toNat, by omega⟩
    refine ⟨m * 10 ^ t, ?_⟩
    have heq : ((m * 10 ^ t : ℕ) : ℚ) * 10 ^ (x.leading - d) = m * 10 ^ j := by
      rw [ht, zpow_add₀ (by norm_num), zpow_natCast]
      push_cast
      ring
    rw [heq]
    exact (le_total _ _).imp (fun h => ⟨le_rfl, h⟩) fun h => ⟨h, le_rfl⟩
  · refine ⟨10 ^ d, .inl ?_⟩
    push_cast
    rw [ten_pow_mul_step]
    exact ⟨(not_le.1 hle).le, leading_le hx⟩

/-- A point that is a power of ten is written with a single digit, and neither way changes the
number. -/
theorem length_digits_shortest {n point : ℕ} (hpoint : point ≤ 10 ^ (n + 1)) (leading : ℤ) :
    let s : Scientific := if point = 10 ^ (n + 1) then ⟨1, leading + 1⟩ else ⟨point, leading - n⟩
    (Text.digits s.coefficient).length ≤ n + 1 ∧
      (s.coefficient : ℚ) * 10 ^ s.exponent = point * 10 ^ (leading - n) := by
  split
  · next hpower =>
    refine ⟨(Text.length_digits_le_iff (Nat.succ_pos n)).2 (Nat.one_lt_pow (by omega) (by decide)),
      ?_⟩
    have hstep := ten_pow_mul_step leading n
    rw [hpower, zpow_add_one₀ (by norm_num), ← hstep]
    push_cast
    ring
  · next hother =>
    exact ⟨(Text.length_digits_le_iff (Nat.succ_pos n)).2 (by show point < _; omega), rfl⟩

/-- `shortest` needs at most 17 digits, which is `maxDigits`. -/
theorem coefficient_shortest_lt (x : Binary64) : x.shortest.coefficient < 10 ^ 17 := by
  by_cases hx : x.significand = 0
  · rw [shortest, if_pos hx]
    positivity
  obtain ⟨hzero, -⟩ | ⟨n, hn, point, hpoint, -, hshortest⟩ := shortest_cases hx
  · rw [hzero]
    positivity
  · obtain ⟨hlength, -⟩ := length_digits_shortest (gridPoint?_le hx hpoint) x.leading
    rw [← hshortest] at hlength
    exact (Text.length_digits_le_iff (by decide)).1 (hlength.trans hn)

/-- Of the decimals that read as the magnitude, the number has the fewest digits, and of those with
as few digits it is a nearest one. -/
structure IsShortest (x : Binary64) (s : Scientific) : Prop where
  /-- It reads as the magnitude. -/
  readsAs : ReadsAs (s.coefficient * 10 ^ s.exponent) x
  /-- Nothing that reads as the magnitude has fewer digits. -/
  length_digits_le : ∀ (m : ℕ) (j : ℤ), ReadsAs (m * 10 ^ j) x →
    (Text.digits s.coefficient).length ≤ (Text.digits m).length
  /-- Nothing that reads as the magnitude and has as many digits is nearer. -/
  near : ∀ (m : ℕ) (j : ℤ), ReadsAs (m * 10 ^ j) x →
    (Text.digits m).length = (Text.digits s.coefficient).length →
      |s.coefficient * 10 ^ s.exponent - x.toRat| ≤ |m * 10 ^ j - x.toRat|

/-- `shortest` finds the decimal with the fewest digits that reads as the magnitude, if that has no
more than 53 bits. -/
theorem isShortest_shortest (hx : x.significand ≠ 0) (hbits : x.significand < 2 ^ 53) :
    x.IsShortest x.shortest := by
  obtain ⟨-, hnone⟩ | ⟨n, -, point, hpoint, hbefore, hshortest⟩ := shortest_cases hx
  · obtain ⟨point, hpoint⟩ := exists_gridPoint? hx (ten_zpow_lt_middles hx hbits)
    rw [hnone 16 (by decide)] at hpoint
    cases hpoint
  obtain ⟨hlength, hvalue⟩ := length_digits_shortest (gridPoint?_le hx hpoint) x.leading
  rw [← hshortest] at hlength hvalue
  obtain ⟨hnone, -⟩ | ⟨point', hpoint', hreads, hnear⟩ := gridPoint?_nearest hx (x.leading - n)
  · rw [hnone] at hpoint
    cases hpoint
  obtain rfl : point' = point := Option.some.inj (hpoint'.symm.trans hpoint)
  -- Where fewer digits are enough, an earlier grid has a point.
  have hfewest : ∀ (m : ℕ) (j : ℤ), ReadsAs (m * 10 ^ j) x → n + 1 ≤ (Text.digits m).length := by
    intro m j hm
    by_contra hlt
    have hpos := Text.length_digits_pos m
    obtain ⟨d, hd⟩ : ∃ d, (Text.digits m).length = d + 1 :=
      ⟨(Text.digits m).length - 1, by omega⟩
    obtain ⟨p, hp⟩ := exists_between_point hx (hd ▸ Text.lt_pow_length_digits m) j
    obtain ⟨-, hfar⟩ | ⟨q, hq, -⟩ := gridPoint?_nearest hx (x.leading - d)
    · exact hfar p (hm.of_between hp)
    · rw [hbefore d (by omega)] at hq
      cases hq
  refine ⟨?_, ?_, ?_⟩
  · rw [hvalue]
    exact hreads
  · intro m j hm
    exact hlength.trans (hfewest m j hm)
  · intro m j hm hequal
    have hd : (Text.digits m).length = n + 1 := by
      have hle := hfewest m j hm
      omega
    obtain ⟨p, hp⟩ := exists_between_point hx (hd ▸ Text.lt_pow_length_digits m) j
    rw [hvalue]
    exact (hnear p (hm.of_between hp)).trans hp.abs_sub_le

end

end PigLatin.Binary64
