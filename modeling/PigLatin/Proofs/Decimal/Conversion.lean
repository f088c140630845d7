import PigLatin.Proofs.Decimal.Reader

/-!
# Numerals as decimals

A numeral of few digits that is not out of range is read as the number that it writes, or as the
nearest decimal if it has more decimals than a decimal can have.
-/

namespace PigLatin

namespace Decimal

/-! ## Moving the point -/

section

variable {d d' : Decimal} {e : ℕ}

theorem abs_toRat (d : Decimal) : |d.toRat| = (d.mantissa.natAbs : ℚ) / 10 ^ d.scale := by
  have hpos : (0 : ℚ) < 10 ^ d.scale := by positivity
  rw [toRat, abs_div, abs_of_pos hpos, ← Int.cast_abs, Int.abs_eq_natAbs, Int.cast_natCast]

/-- No decimal is larger than `maxMantissa`. -/
theorem abs_toRat_le (d : Decimal) : |d.toRat| ≤ maxMantissa := by
  have hmantissa : (d.mantissa.natAbs : ℚ) ≤ maxMantissa := by exact_mod_cast d.mantissa_le
  rw [abs_toRat]
  exact (div_le_self (Nat.cast_nonneg _) (one_le_pow₀ (by norm_num))).trans hmantissa

/-- `Decimal.scaleUp?` multiplies. -/
theorem toRat_of_scaleUp? (h : d.scaleUp? e = some d') : d'.toRat = d.toRat * 10 ^ e := by
  have hten : ∀ k : ℕ, (10 : ℚ) ^ k ≠ 0 := fun k => by positivity
  unfold scaleUp? at h
  split at h
  · next hle =>
    obtain ⟨k, hk⟩ := Nat.exists_eq_add_of_le hle
    have hscale : d.scale - e = k := by omega
    rw [toRat_of_ofParts? h, toRat, hscale, hk, pow_add]
    field_simp
  · next hgt =>
    split at h
    · obtain ⟨k, hk⟩ := Nat.exists_eq_add_of_le (not_le.1 hgt).le
      have hzeros : e - d.scale = k := by omega
      rw [toRat_of_ofParts? h, toRat, hzeros, hk, pow_add, Nat.pow_eq]
      push_cast
      field_simp
    · cases h

/-- `Decimal.scaleUp?` fails if it is to move the point too far or if it would need more digits than
there are. -/
theorem scaleUp?_eq_none_iff : d.scaleUp? e = none ↔
    maxScale < e ∨ (maxMantissa : ℚ) < |d.toRat * 10 ^ e| := by
  have hpow : |(10 : ℚ) ^ e| = 10 ^ e := abs_of_pos (by positivity)
  have hten : (0 : ℚ) < 10 ^ d.scale := by positivity
  have hmantissa : (d.mantissa.natAbs : ℚ) ≤ maxMantissa := by exact_mod_cast d.mantissa_le
  rw [abs_mul, hpow, abs_toRat]
  unfold scaleUp?
  split
  · next hle =>
    -- Only decimals become digits before the point, so no digit is added.
    have hscale := d.scale_le
    have hkept : (d.mantissa.natAbs : ℚ) / 10 ^ d.scale * 10 ^ e ≤ d.mantissa.natAbs := by
      rw [div_mul_eq_mul_div, div_le_iff₀ hten]
      exact mul_le_mul_of_nonneg_left (pow_le_pow_right₀ (by norm_num) hle) (Nat.cast_nonneg _)
    rw [ofParts?_eq_none_iff]
    refine iff_of_false (not_not_intro ⟨d.mantissa_le, by omega⟩) ?_
    rintro (hfar | hlarge)
    · omega
    · exact (hkept.trans hmantissa).not_gt hlarge
  · next hgt =>
    obtain ⟨k, hk⟩ := Nat.exists_eq_add_of_le (not_le.1 hgt).le
    have hzeros : e - d.scale = k := by omega
    have hvalue : (d.mantissa.natAbs : ℚ) / 10 ^ d.scale * 10 ^ e =
        (d.mantissa * (Nat.pow 10 k : ℕ) : ℤ).natAbs := by
      rw [Int.natAbs_mul, Int.natAbs_natCast, hk, pow_add, Nat.pow_eq]
      push_cast
      field_simp
    split
    · next hnear =>
      rw [ofParts?_eq_none_iff, hzeros, hvalue, and_iff_left (Nat.zero_le _), not_le,
        or_iff_right hnear.not_gt, Nat.cast_lt]
    · next hfar => exact iff_of_true rfl (.inl (not_le.1 hfar))

/-- `Decimal.scaleDown?` fails only if it is to move the point too far. -/
theorem scaleDown?_eq_none_iff : d.scaleDown? e = none ↔ maxScale < e := by
  unfold scaleDown?
  split
  · next hfar => exact iff_of_true rfl hfar
  · next hnear =>
    rw [iff_false_right hnear]
    split
    · next hle => exact fun hnone => ofParts?_eq_none_iff.1 hnone ⟨d.mantissa_le, hle⟩
    · refine fun hnone => ofParts?_eq_none_iff.1 hnone ⟨?_, le_rfl⟩
      rw [natAbs_signed]
      exact (roundHalfUp_le _ _).trans d.mantissa_le

/-- `Decimal.scaleDown?` divides, and rounds what has more decimals than a decimal can have. A digit
before the point does not get lost. -/
theorem approximates_of_scaleDown? (h : d.scaleDown? e = some d')
    (hd : d.mantissa ≠ 0 → 10 ^ d.scale ≤ d.mantissa.natAbs) :
    Approximates d' (d.toRat / 10 ^ e) := by
  unfold scaleDown? at h
  split at h
  · cases h
  · next hnear =>
    split at h
    · refine approximates_of_eq ?_
      rw [toRat_of_ofParts? h, toRat, pow_add, div_div]
    · next hmany =>
      obtain ⟨k, hk⟩ := Nat.exists_eq_add_of_le (not_le.1 hmany).le
      have hdropped : d.scale + e - maxScale = k := by omega
      rw [hdropped] at h
      have hvalue : d.toRat / 10 ^ e =
          signed d.isNegative d.mantissa.natAbs / 10 ^ k / 10 ^ 28 := by
        have hsigned : signed d.isNegative d.mantissa.natAbs = d.mantissa :=
          signed_natAbs d.mantissa
        rw [toRat, hsigned, div_div, div_div, ← pow_add, ← pow_add, hk, add_comm k]
      rw [hvalue]
      refine approximates_of_round (toRat_of_ofParts? h) fun hne => ?_
      refine (Nat.pow_le_pow_right (by decide) ?_).trans (hd (Int.natAbs_ne_zero.1 hne))
      omega

end

/-! ## Numerals of few digits -/

section

variable {n : Json.Numeral}

/-- `Decimal.rounded?` keeps few digits as they are. -/
theorem exists_rounded? (negative : Bool) {m scale : ℕ} (hm : m ≤ maxMantissa)
    (hscale : scale ≤ maxScale) : ∃ d, rounded? negative m scale = some d ∧
      d.mantissa = signed negative m ∧ d.scale = scale := by
  have hmantissa : (signed negative m).natAbs ≤ maxMantissa := by
    rwa [natAbs_signed]
  have hparts : ofParts? (signed negative m) scale = some ⟨_, scale, hmantissa, hscale⟩ :=
    dif_pos ⟨hmantissa, hscale⟩
  refine ⟨⟨signed negative m, scale, hmantissa, hscale⟩, ?_, rfl, rfl⟩
  rw [rounded?, min_eq_left hscale]
  cases scale with
  | zero => rw [nearest?, roundHalfUp_zero, hparts]
  | succ scale => rw [nearest?, Nat.sub_self, roundHalfUp_zero, hparts, Option.some_or]

theorem exists_rounded?_of_isShort (hshort : n.IsShort) :
    ∃ d, rounded? n.negative n.significand n.decimals.length = some d ∧
      d.mantissa = signed n.negative n.significand ∧ d.scale = n.decimals.length := by
  refine exists_rounded? n.negative (hshort.significand_lt.le.trans ?_) hshort.length_decimals_le
  norm_num [maxMantissa]

/-- A numeral is the decimal of its digits, with its point moved by the exponent. -/
theorem toRat_eq_of_parts {d : Decimal} (hmantissa : d.mantissa = signed n.negative n.significand)
    (hscale : d.scale = n.decimals.length) : n.toRat = d.toRat * 10 ^ n.exponent.getD 0 := by
  rw [n.toRat_eq, toRat, hmantissa, hscale, zpow_sub₀ (by norm_num), zpow_natCast]
  ring

/-- A numeral without an exponent is read as the number that it writes, by `Decimal.parse?`. -/
theorem exists_parse?_chars (hn : n.IsWellFormed) (hshort : n.IsShort)
    (hexponent : n.exponent = none) : ∃ d, parse? n.chars = some d ∧ d.toRat = n.toRat := by
  obtain ⟨d, hd, hmantissa, hscale⟩ := exists_rounded?_of_isShort hshort
  refine ⟨d, (parse?_chars_of_none hn hexponent).trans hd, ?_⟩
  rw [toRat_eq_of_parts hmantissa hscale, hexponent, Option.getD_none, zpow_zero, mul_one]

/-- A numeral with an exponent is out of range, or `Decimal.parseScientific?` reads it. -/
theorem parseScientific?_chars_cases {e : ℤ} (hn : n.IsWellFormed) (hshort : n.IsShort)
    (hexponent : n.exponent = some e) :
    (n.IsOutOfRange ∧ parseScientific? n.chars = none) ∨
      ¬n.IsOutOfRange ∧ ∃ d, parseScientific? n.chars = some d ∧ Approximates d n.toRat ∧
        (0 < e → d.toRat = n.toRat) := by
  obtain ⟨base, hbase, hmantissa, hscale⟩ := exists_rounded?_of_isShort hshort
  have hvalue := toRat_eq_of_parts hmantissa hscale
  rw [Json.Numeral.isOutOfRange_iff hexponent, parseScientific?_chars hn hexponent, hbase,
    Option.bind_some]
  rw [hexponent, Option.getD_some] at hvalue
  by_cases he : e < 0
  · -- The point moves to the left, which no number is too large for.
    have hdown : n.toRat = base.toRat / 10 ^ e.natAbs := by
      have hneg : e = -(e.natAbs : ℤ) := by omega
      rw [hvalue, hneg, zpow_neg, zpow_natCast, Int.natAbs_neg, Int.natAbs_natCast, div_eq_mul_inv]
    have hout : (maxScale < e.natAbs ∨ 0 < e ∧ (maxMantissa : ℚ) < |n.toRat|) ↔
        base.scaleDown? e.natAbs = none := by
      rw [scaleDown?_eq_none_iff, or_iff_left fun hpos => he.not_gt hpos.1]
    have hfirst : base.mantissa ≠ 0 → 10 ^ base.scale ≤ base.mantissa.natAbs := by
      rw [hmantissa, hscale, natAbs_signed, Ne, signed_eq_zero_iff]
      exact hshort.pow_le (by rw [hexponent]; rfl)
    rw [if_pos he, hout]
    cases hd : base.scaleDown? e.natAbs with
    | none => exact .inl ⟨rfl, rfl⟩
    | some d =>
      refine .inr ⟨Option.some_ne_none d, d, rfl, ?_, fun hpos => absurd hpos he.not_gt⟩
      rw [hdown]
      exact approximates_of_scaleDown? hd hfirst
  · have hup : n.toRat = base.toRat * 10 ^ e.natAbs := by
      have hpos : e = (e.natAbs : ℤ) := by omega
      rw [hvalue, hpos, zpow_natCast, Int.natAbs_natCast]
    have hout : (maxScale < e.natAbs ∨ 0 < e ∧ (maxMantissa : ℚ) < |n.toRat|) ↔
        base.scaleUp? e.natAbs = none := by
      rw [scaleUp?_eq_none_iff, ← hup]
      refine or_congr_right (and_iff_right_of_imp fun hlarge => ?_)
      -- Where the point is not moved at all, the number is a decimal already.
      by_contra hzero
      have hstays : e.natAbs = 0 := by omega
      rw [hup, hstays, pow_zero, mul_one] at hlarge
      exact base.abs_toRat_le.not_gt hlarge
    rw [if_neg he, hout]
    cases hd : base.scaleUp? e.natAbs with
    | none => exact .inl ⟨rfl, rfl⟩
    | some d =>
      have heq : d.toRat = n.toRat := (toRat_of_scaleUp? hd).trans hup.symm
      exact .inr ⟨Option.some_ne_none d, d, rfl, approximates_of_eq heq, fun _ => heq⟩

/-- What the two readers in turn make of a numeral: nothing if it is out of range, and else a
decimal that approximates it, which is the number itself unless the exponent is negative. -/
theorem parse?_or_parseScientific?_cases (hn : n.IsWellFormed) (hshort : n.IsShort) :
    (n.IsOutOfRange ∧ (parse? n.chars).or (parseScientific? n.chars) = none) ∨
      ¬n.IsOutOfRange ∧ ∃ d, (parse? n.chars).or (parseScientific? n.chars) = some d ∧
        Approximates d n.toRat ∧ ((∀ e ∈ n.exponent, 0 < e) → d.toRat = n.toRat) := by
  cases hexponent : n.exponent with
  | none =>
    have hin : ¬n.IsOutOfRange := by
      rintro ⟨e, he, -⟩
      rw [hexponent] at he
      cases he
    obtain ⟨d, hd, heq⟩ := exists_parse?_chars hn hshort hexponent
    rw [hd, Option.some_or]
    exact .inr ⟨hin, d, rfl, approximates_of_eq heq, fun _ => heq⟩
  | some e =>
    rw [parse?_chars_of_some hn hexponent, Option.none_or]
    rcases parseScientific?_chars_cases hn hshort hexponent with
      hout | ⟨hin, d, hd, happroximates, hexact⟩
    · exact .inl hout
    · exact .inr ⟨hin, d, hd, happroximates, fun hpos => hexact (hpos e rfl)⟩

end

end Decimal

end PigLatin
