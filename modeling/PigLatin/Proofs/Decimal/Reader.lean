import PigLatin.Proofs.Decimal.Rounding
import PigLatin.Proofs.Json.Numeral

/-!
# What the readers of decimals make of a numeral

`Decimal.parse?` reads the numerals without an exponent and refuses the others, which
`Decimal.parseScientific?` reads: first the part before the exponent, then it moves the point. A
numeral of few digits becomes the number that it writes. With an exponent it may be out of range, or
have more decimals than a decimal can have.
-/

namespace PigLatin

namespace Json.Numeral

/-- The numeral has an exponent with which it is no decimal: the exponent is too far from zero, or
the numeral writes a whole number of more than 96 bits. -/
def IsOutOfRange (n : Numeral) : Prop :=
  ∃ e, n.exponent = some e ∧
    (Decimal.maxScale < e.natAbs ∨ 0 < e ∧ (Decimal.maxMantissa : ℚ) < |n.toRat|)

/-- The digits of the numeral fit into a decimal as they are, and with an exponent the first of them
stands before the point. -/
structure IsShort (n : Numeral) : Prop where
  /-- There are no more digits than a number of double precision has. -/
  significand_lt : n.significand < 10 ^ 17
  /-- There are not too many decimals. -/
  length_decimals_le : n.decimals.length ≤ Decimal.maxScale
  /-- The digit before the point counts, if there is an exponent. -/
  pow_le : n.exponent.isSome = true → n.significand ≠ 0 → 10 ^ n.decimals.length ≤ n.significand

theorem isOutOfRange_iff {n : Numeral} {e : ℤ} (h : n.exponent = some e) :
    n.IsOutOfRange ↔
      Decimal.maxScale < e.natAbs ∨ 0 < e ∧ (Decimal.maxMantissa : ℚ) < |n.toRat| := by
  unfold IsOutOfRange
  rw [h]
  constructor
  · rintro ⟨_, ⟨⟩, hout⟩
    exact hout
  · exact fun hout => ⟨e, rfl, hout⟩

theorem IsPlain.isShort {n : Numeral} (h : n.IsPlain) (hsignificand : n.significand < 10 ^ 17)
    (hdecimals : n.decimals.length ≤ Decimal.maxScale) : n.IsShort := by
  refine ⟨hsignificand, hdecimals, ?_⟩
  rw [h.exponent_eq_none]
  rintro ⟨⟩

/-- The numeral up to its exponent, without its sign. -/
def unsignedBase (n : Numeral) : List Char := n.whole ++ fractionChars n.fraction

/-- The numeral up to its exponent. -/
def base (n : Numeral) : List Char :=
  if n.negative then '-' :: n.unsignedBase else n.unsignedBase

/-- The exponent stands behind `base`, and nothing else does. -/
theorem chars_eq (n : Numeral) : n.chars = n.base ++ exponentChars n.exponent := by
  obtain ⟨negative, whole, fraction, exponent⟩ := n
  cases negative <;> simp [chars, base, unsignedBase]

theorem IsWellFormed.isDigit_or_point {n : Numeral} (h : n.IsWellFormed) {c : Char}
    (hc : c ∈ n.unsignedBase) : c.isDigit = true ∨ c = '.' := by
  rcases List.mem_append.1 hc with hwhole | hfraction
  · exact .inl (h.whole.isDigit c hwhole)
  · cases heq : n.fraction with
    | none =>
      rw [heq] at hfraction
      cases hfraction
    | some decimals =>
      rw [heq] at hfraction
      rcases List.mem_cons.1 hfraction with hpoint | hdecimals
      · exact .inr hpoint
      · exact .inl ((h.fraction decimals heq).isDigit c hdecimals)

end Json.Numeral

namespace Decimal

/-! ## Digits and a point -/

theorem natural?_eq_none {digits : List Char} {c : Char} (hc : c ∈ digits)
    (hdigit : c.isDigit = false) : natural? digits = none := by
  refine if_neg ?_
  rintro ⟨-, hall⟩
  rw [List.all_eq_true.1 hall c hc] at hdigit
  cases hdigit

theorem natural?_of_isDigit {digits : List Char} (hne : digits ≠ [])
    (hdigits : ∀ c ∈ digits, c.isDigit = true) :
    natural? digits = some (Text.digitsValue digits) :=
  if_pos ⟨hne, List.all_eq_true.2 hdigits⟩

theorem natural?_digits (n : ℕ) : natural? (Text.digits n) = some n := by
  rw [natural?_of_isDigit (Text.digits_ne_nil n) fun _ => Text.isDigit_of_mem_digits,
    Text.digitsValue_digits]

/-- `Decimal.parseUnsigned?` refuses what is neither a digit nor a point. -/
theorem parseUnsigned?_eq_none {negative : Bool} {cs : List Char} {c : Char} (hc : c ∈ cs)
    (hdigit : c.isDigit = false) (hpoint : c ≠ '.') : parseUnsigned? negative cs = none := by
  have hkept : c ∈ cs.takeWhile (· ≠ '.') ++ (cs.dropWhile (· ≠ '.')).tail := by
    have hsplit := List.takeWhile_append_dropWhile (p := (· ≠ '.')) (l := cs)
    rw [← hsplit, List.mem_append] at hc
    refine List.mem_append.2 (hc.imp_right fun hdrop => ?_)
    cases heq : cs.dropWhile (· ≠ '.') with
    | nil =>
      rw [heq] at hdrop
      cases hdrop
    | cons d ds =>
      have hd : d = '.' := by
        have hhead := List.head?_dropWhile_not (· ≠ '.') cs
        rw [heq] at hhead
        simpa using hhead
      rw [heq, hd] at hdrop
      exact (List.mem_cons.1 hdrop).resolve_left hpoint
  rw [parseUnsigned?, natural?_eq_none hkept hdigit]
  rfl

/-- `Decimal.parseUnsigned?` takes the digits before the point and those behind it for the mantissa,
and counts the latter. -/
theorem parseUnsigned?_unsignedBase {n : Json.Numeral} (h : n.IsWellFormed) :
    parseUnsigned? n.negative n.unsignedBase =
      rounded? n.negative n.significand n.decimals.length := by
  have hwhole : ∀ c ∈ n.whole, decide (c ≠ '.') = true := by
    intro c hc
    have hdigit := h.whole.isDigit c hc
    refine decide_eq_true ?_
    rintro rfl
    cases hdigit
  have hcut : n.unsignedBase.takeWhile (· ≠ '.') = n.whole ∧
      (n.unsignedBase.dropWhile (· ≠ '.')).tail = n.decimals := by
    rw [Json.Numeral.unsignedBase, List.takeWhile_append_of_pos hwhole,
      List.dropWhile_append_of_pos hwhole, Json.Numeral.decimals]
    cases n.fraction <;> simp [Json.Numeral.fractionChars]
  have hdigits : ∀ c ∈ n.whole ++ n.decimals, c.isDigit = true := by
    intro c hc
    rcases List.mem_append.1 hc with hc | hc
    · exact h.whole.isDigit c hc
    · unfold Json.Numeral.decimals at hc
      cases heq : n.fraction with
      | none =>
        rw [heq] at hc
        cases hc
      | some decimals =>
        rw [heq] at hc
        exact (h.fraction decimals heq).isDigit c hc
  have hne : n.whole ++ n.decimals ≠ [] := List.append_ne_nil_of_left_ne_nil h.whole.ne_nil _
  rw [parseUnsigned?, hcut.1, hcut.2, natural?_of_isDigit hne hdigits]
  rfl

/-- `Decimal.parse?` reads a sign off and takes no digit for one. -/
theorem parse?_of_digit (negative : Bool) {c : Char} {cs : List Char} (hc : c.isDigit = true) :
    parse? (if negative then '-' :: c :: cs else c :: cs) = parseUnsigned? negative (c :: cs) := by
  cases negative with
  | true => rfl
  | false =>
    refine parse?.eq_3 _ ?_ ?_
    · rintro _ ⟨⟩
      cases hc
    · rintro _ ⟨⟩
      cases hc

/-- `Decimal.parse?` reads a numeral up to its exponent, where `Decimal.rounded?` keeps or rounds
its digits. -/
theorem parse?_base {n : Json.Numeral} (h : n.IsWellFormed) :
    parse? n.base = rounded? n.negative n.significand n.decimals.length := by
  obtain ⟨c, cs, hwhole⟩ := List.exists_cons_of_ne_nil h.whole.ne_nil
  have hc : c.isDigit = true := h.whole.isDigit c (by simp [hwhole])
  rw [← parseUnsigned?_unsignedBase h, Json.Numeral.base, Json.Numeral.unsignedBase, hwhole,
    List.cons_append]
  exact parse?_of_digit n.negative hc

/-- `Decimal.parse?` reads a numeral without an exponent. -/
theorem parse?_chars_of_none {n : Json.Numeral} (h : n.IsWellFormed)
    (hexponent : n.exponent = none) :
    parse? n.chars = rounded? n.negative n.significand n.decimals.length := by
  rw [← parse?_base h, n.chars_eq, hexponent]
  exact congrArg parse? (List.append_nil _)

/-- `Decimal.parse?` refuses a numeral with an exponent. -/
theorem parse?_chars_of_some {n : Json.Numeral} {e : ℤ} (h : n.IsWellFormed)
    (hexponent : n.exponent = some e) : parse? n.chars = none := by
  obtain ⟨c, cs, hwhole⟩ := List.exists_cons_of_ne_nil h.whole.ne_nil
  have hc : c.isDigit = true := h.whole.isDigit c (by simp [hwhole])
  have hmark : 'e' ∈ c :: cs ++ (Json.Numeral.fractionChars n.fraction ++
      Json.Numeral.exponentChars n.exponent) := by
    rw [hexponent]
    simp [Json.Numeral.exponentChars]
  rw [Json.Numeral.chars, hwhole]
  exact (parse?_of_digit n.negative hc).trans (parseUnsigned?_eq_none hmark rfl (by decide))

/-! ## Exponents -/

theorem isExponentMark_eq_false_of_mem_base {n : Json.Numeral} (h : n.IsWellFormed) {c : Char}
    (hc : c ∈ n.base) : isExponentMark c = false := by
  have hcases : c = '-' ∨ c.isDigit = true ∨ c = '.' := by
    unfold Json.Numeral.base at hc
    split at hc
    · exact (List.mem_cons.1 hc).imp_right h.isDigit_or_point
    · exact .inr (h.isDigit_or_point hc)
  rcases hcases with rfl | hdigit | rfl
  · rfl
  · rw [isExponentMark, Bool.or_eq_false_iff, decide_eq_false_iff_not, decide_eq_false_iff_not]
    constructor <;> rintro rfl <;> cases hdigit
  · rfl

/-- `Decimal.withExponent?` reads the sign of the exponent, which says in which direction the point
is moved. -/
theorem withExponent?_exponentChars (d : Decimal) (e : ℤ) :
    d.withExponent? (Json.Numeral.exponentChars (some e)).tail =
      if e < 0 then d.scaleDown? e.natAbs else d.scaleUp? e.natAbs := by
  rw [Json.Numeral.exponentChars, Option.elim_some, List.tail_cons]
  split
  · rw [withExponent?, natural?_digits]
    rfl
  · rw [withExponent?, natural?_digits]
    rfl

/-- `Decimal.parseScientific?` reads what stands before the exponent and then moves the point. -/
theorem parseScientific?_chars {n : Json.Numeral} {e : ℤ} (h : n.IsWellFormed)
    (hexponent : n.exponent = some e) : parseScientific? n.chars =
      (rounded? n.negative n.significand n.decimals.length).bind fun d =>
        if e < 0 then d.scaleDown? e.natAbs else d.scaleUp? e.natAbs := by
  have hbase : ∀ c ∈ n.base, (!isExponentMark c) = true := by
    intro c hc
    rw [isExponentMark_eq_false_of_mem_base h hc]
    rfl
  obtain ⟨rest, hrest⟩ : ∃ rest, Json.Numeral.exponentChars (some e) = 'e' :: rest := ⟨_, rfl⟩
  have hmark : (!isExponentMark 'e') = false := rfl
  have htake : n.chars.takeWhile (!isExponentMark ·) = n.base := by
    rw [n.chars_eq, List.takeWhile_append_of_pos hbase, hexponent, hrest,
      List.takeWhile_cons_of_neg (by simp [hmark]), List.append_nil]
  have hdrop : n.chars.dropWhile (!isExponentMark ·) = 'e' :: rest := by
    rw [n.chars_eq, List.dropWhile_append_of_pos hbase, hexponent, hrest,
      List.dropWhile_cons_of_neg (by simp [hmark])]
  have htail := fun d : Decimal => d.withExponent?_exponentChars e
  rw [hrest] at htail
  simp only [parseScientific?, hdrop, htake, parse?_base h, ← htail, List.tail_cons]

end Decimal

end PigLatin
