import Mathlib.Tactic.Ring
import PigLatin.Proofs.Decimal.Conversion
import PigLatin.Scientific

/-!
# Significands as they are written

A number given by its significant digits is written as a numeral that writes the number. The numeral
has an exponent where the first digit is far from the point.
-/

namespace PigLatin.Scientific

/-- The number with a sign. -/
def toRat (s : Scientific) (negative : Bool) : ℚ := signed negative s.coefficient * 10 ^ s.exponent

/-! ## Written form -/

theorem isPositional_iff {s : Scientific} :
    s.isPositional = true ↔ -5 ≤ s.leadingExponent ∧ s.leadingExponent ≤ 15 := by
  rw [isPositional, Bool.and_eq_true, decide_eq_true_eq, decide_eq_true_eq]

theorem not_isPositional_iff {s : Scientific} :
    s.isPositional = false ↔ s.leadingExponent < -5 ∨ 15 < s.leadingExponent := by
  rw [← Bool.not_eq_true, isPositional_iff]
  omega

theorem toRat_ofNat {coefficient zeros : ℕ} {negative : Bool} :
    toRat ⟨coefficient, .ofNat zeros⟩ negative =
      signed negative (coefficient * Nat.pow 10 zeros) := by
  rw [toRat, cast_signed, cast_signed, Nat.pow_eq]
  push_cast
  rw [Int.ofNat_eq_natCast, zpow_natCast, mul_assoc]

theorem toRat_negSucc {coefficient n : ℕ} {negative : Bool} :
    toRat ⟨coefficient, .negSucc n⟩ negative = signed negative coefficient / 10 ^ (n + 1) := by
  rw [toRat, zpow_negSucc, div_eq_mul_inv]

/-- A whole number that needs more digits than `coefficient` has is written with zeros behind
them. -/
theorem exists_zeros_of_toRat_eq {s : Scientific} {negative : Bool} {n : ℕ}
    (hs : s.coefficient < 10 ^ 17) (h : s.toRat negative = signed negative n) (hn : 10 ^ 17 ≤ n) :
    ∃ zeros, n = s.coefficient * 10 ^ zeros := by
  obtain ⟨coefficient, exponent⟩ := s
  cases exponent with
  | ofNat zeros =>
    rw [toRat_ofNat, Int.cast_inj] at h
    refine ⟨zeros, ?_⟩
    rw [← natAbs_signed negative n, ← h, natAbs_signed]
    rfl
  | negSucc k =>
    rw [toRat_negSucc, div_eq_iff (by positivity)] at h
    have hsigned : signed negative coefficient = signed negative n * 10 ^ (k + 1) := by
      exact_mod_cast h
    have hcoefficient : coefficient = n * 10 ^ (k + 1) := by
      rw [← natAbs_signed negative coefficient, hsigned, Int.natAbs_mul, natAbs_signed]
      rfl
    have hle : n ≤ n * 10 ^ (k + 1) := Nat.le_mul_of_pos_right n (by positivity)
    have hlt : coefficient < 10 ^ 17 := hs
    omega

/-- `coefficient` has no more digits than `Binary64.maxDigits`. -/
theorem length_digits_le {coefficient : ℕ} (hs : coefficient < 10 ^ 17) :
    (Text.digits coefficient).length ≤ 17 :=
  (Text.length_digits_le_iff (by decide)).2 hs

theorem leadingExponent_ofNat (coefficient zeros : ℕ) :
    leadingExponent ⟨coefficient, .ofNat zeros⟩ =
      zeros + (Text.digits coefficient).length - 1 := rfl

theorem leadingExponent_negSucc (coefficient n : ℕ) :
    leadingExponent ⟨coefficient, .negSucc n⟩ =
      (Text.digits coefficient).length - ((n + 1 : ℕ) : ℤ) - 1 := by
  rw [leadingExponent, Int.negSucc_eq]
  push_cast
  ring

theorem lt_pow_of_leadingExponent {coefficient zeros : ℕ}
    (h : leadingExponent ⟨coefficient, .ofNat zeros⟩ ≤ 15) :
    coefficient * Nat.pow 10 zeros < 10 ^ 16 := by
  have hlength : (Text.digits coefficient).length + zeros ≤ 16 := by
    rw [leadingExponent_ofNat] at h
    omega
  calc coefficient * 10 ^ zeros
      < 10 ^ (Text.digits coefficient).length * 10 ^ zeros :=
        Nat.mul_lt_mul_of_pos_right (Text.lt_pow_length_digits _) (by positivity)
    _ = 10 ^ ((Text.digits coefficient).length + zeros) := (pow_add _ _ _).symm
    _ ≤ 10 ^ 16 := Nat.pow_le_pow_right (by decide) hlength

/-- `positional` writes a numeral without an exponent, which has few digits because the first of
them is near the point. -/
theorem exists_plain {s : Scientific} (negative : Bool) (hs : s.coefficient < 10 ^ 17)
    (hpositional : s.isPositional = true) : ∃ numeral : Json.Numeral,
    numeral.IsPlain ∧ numeral.IsShort ∧
      numeral.chars = (if negative then '-' :: s.positional else s.positional) ∧
      numeral.toRat = s.toRat negative := by
  obtain ⟨hlow, hhigh⟩ := isPositional_iff.1 hpositional
  obtain ⟨coefficient, exponent⟩ := s
  cases exponent with
  | ofNat zeros =>
    have hlt := lt_pow_of_leadingExponent hhigh
    have hplain :=
      Json.Numeral.isPlain_ofFixedPoint negative (coefficient * Nat.pow 10 zeros) 0
    refine ⟨_, hplain, hplain.isShort ?_ ?_, Json.Numeral.chars_ofFixedPoint _ _ _, ?_⟩
    · rw [Json.Numeral.significand_ofFixedPoint, if_pos rfl]
      omega
    · rw [Json.Numeral.length_decimals_ofFixedPoint, if_pos rfl]
      decide
    · rw [Json.Numeral.toRat_ofFixedPoint, toRat_ofNat, pow_zero, div_one]
  | negSucc n =>
    have hplain := Json.Numeral.isPlain_ofFixedPoint negative coefficient (n + 1)
    refine ⟨_, hplain, hplain.isShort ?_ ?_, Json.Numeral.chars_ofFixedPoint _ _ _, ?_⟩
    · rw [Json.Numeral.significand_ofFixedPoint, if_neg (Nat.succ_ne_zero n)]
      exact hs
    · have hlength : (Text.digits coefficient).length ≤ 17 := length_digits_le hs
      rw [leadingExponent_negSucc] at hlow
      rw [Json.Numeral.length_decimals_ofFixedPoint, if_neg (Nat.succ_ne_zero n)]
      change n + 1 ≤ 28
      omega
    · rw [Json.Numeral.toRat_ofFixedPoint, toRat_negSucc]

/-- `exponential` puts one digit before the point, and the others, if there are any, after it. -/
theorem exponential_eq (s : Scientific) : ∃ first rest,
    Text.digits s.coefficient = first :: rest ∧
      s.exponential = first ::
        (Json.Numeral.fractionChars (if rest = [] then none else some rest) ++
          Json.Numeral.exponentChars (some s.leadingExponent)) := by
  obtain ⟨first, rest, heq⟩ := List.exists_cons_of_ne_nil (Text.digits_ne_nil s.coefficient)
  refine ⟨first, rest, heq, ?_⟩
  cases rest with
  | nil =>
    simp only [exponential, heq]
    rfl
  | cons second rest =>
    simp only [exponential, heq]
    rfl

/-- `exponential` writes a numeral with one digit before the point, which is not a zero unless the
number is zero. -/
theorem exists_exponential {s : Scientific} (negative : Bool) (hs : s.coefficient < 10 ^ 17)
    (hexponential : s.isPositional = false) : ∃ numeral : Json.Numeral,
    numeral.IsExponential ∧ numeral.IsShort ∧ numeral.exponent = some s.leadingExponent ∧
      numeral.chars = (if negative then '-' :: s.exponential else s.exponential) ∧
      numeral.toRat = s.toRat negative := by
  obtain ⟨first, rest, hdigits, heq⟩ := s.exponential_eq
  have hdigit : ∀ c ∈ first :: rest, c.isDigit = true := by
    rw [← hdigits]
    exact fun _ => Text.isDigit_of_mem_digits
  obtain ⟨hfirst, hrest⟩ := List.forall_mem_cons.1 hdigit
  have hfraction : (if rest = [] then none else some rest).getD [] = rest := by
    split
    · next hnil => exact hnil.symm
    · rfl
  let numeral : Json.Numeral :=
    ⟨negative, [first], if rest = [] then none else some rest, some s.leadingExponent⟩
  have hdecimals : numeral.decimals = rest := hfraction
  have hsignificand : numeral.significand = s.coefficient := by
    rw [Json.Numeral.significand, hdecimals]
    change Text.digitsValue (first :: rest) = s.coefficient
    rw [← hdigits, Text.digitsValue_digits]
  have hlength : (Text.digits s.coefficient).length = rest.length + 1 := by
    rw [hdigits, List.length_cons]
  refine ⟨numeral, ⟨⟨⟨List.cons_ne_nil _ _, ?_⟩, ?_, ?_⟩, rfl, s.leadingExponent, rfl,
    not_isPositional_iff.1 hexponential⟩, ⟨?_, ?_, ?_⟩, rfl, ?_, ?_⟩
  · rwa [List.forall_mem_singleton]
  · rintro ⟨⟩
    rfl
  · intro decimals hsome
    change decimals ∈ if rest = [] then none else some rest at hsome
    split at hsome
    · cases hsome
    · next hne =>
      cases hsome
      exact ⟨hne, hrest⟩
  · rwa [hsignificand]
  · have hle := length_digits_le hs
    rw [hdecimals]
    change rest.length ≤ 28
    omega
  · intro _ hne
    rw [hsignificand] at hne ⊢
    rw [hdecimals]
    exact Text.pow_le_of_lt_length_digits hne (by omega)
  · rw [heq]
    rfl
  · have hexponent : s.leadingExponent - (rest.length : ℤ) = s.exponent := by
      rw [leadingExponent, hlength]
      push_cast
      ring
    rw [numeral.toRat_eq, hsignificand, hdecimals, toRat, ← hexponent]
    rfl

/-- `chars` writes a numeral of few digits, with an exponent unless the number `isPositional`. -/
theorem exists_numeral {s : Scientific} (negative : Bool) (hs : s.coefficient < 10 ^ 17) :
    ∃ numeral : Json.Numeral,
      (numeral.IsPlain ∨ numeral.IsExponential) ∧ numeral.IsShort ∧
        numeral.chars = (if negative then '-' :: s.chars else s.chars) ∧
        numeral.toRat = s.toRat negative := by
  unfold chars
  cases hpositional : s.isPositional with
  | true =>
    obtain ⟨numeral, hplain, hshort, hchars, hvalue⟩ := exists_plain negative hs hpositional
    exact ⟨numeral, .inl hplain, hshort, hchars, hvalue⟩
  | false =>
    obtain ⟨numeral, hexponential, hshort, -, hchars, hvalue⟩ :=
      exists_exponential negative hs hpositional
    exact ⟨numeral, .inr hexponential, hshort, hchars, hvalue⟩

end PigLatin.Scientific
