import Mathlib.Tactic.Ring
import PigLatin.Json.Number.Reader
import PigLatin.Proofs.Decimal
import PigLatin.Proofs.Digits
import PigLatin.Proofs.Except
import PigLatin.Proofs.Literal.Reader

/-!
# Numerals as they are written

A numeral is written part by part and writes a rational number, by its digits, its point and its
exponent. The reader of numerals finds the parts again. A number that is written in full is written
as a numeral with a point and without an exponent.
-/

namespace PigLatin

namespace Json.Numeral

/-- The number that the numeral writes. -/
def toRat (n : Numeral) : ℚ :=
  let decimals := n.fraction.getD []
  signed n.negative (Text.digitsValue (n.whole ++ decimals)) *
    10 ^ (n.exponent.getD 0 - (decimals.length : ℤ))

/-- The digits behind the point. -/
def decimals (n : Numeral) : List Char := n.fraction.getD []

/-- The number that all the digits write, as if there were no point among them. -/
def significand (n : Numeral) : ℕ := Text.digitsValue (n.whole ++ n.decimals)

/-- The decimals after their point, if there are any. -/
def fractionChars (fraction : Option (List Char)) : List Char := fraction.elim [] ('.' :: ·)

/-- An exponent, always with its sign, if there is one. -/
def exponentChars (exponent : Option ℤ) : List Char :=
  exponent.elim [] fun e => 'e' :: (if e < 0 then '-' else '+') :: Text.digits e.natAbs

/-- The numeral as it is written. -/
def chars (n : Numeral) : List Char :=
  let unsigned := n.whole ++ (fractionChars n.fraction ++ exponentChars n.exponent)
  if n.negative then '-' :: unsigned else unsigned

/-- One digit or more. -/
structure AreDigits (digits : List Char) : Prop where
  /-- There are some. -/
  ne_nil : digits ≠ []
  /-- They are digits. -/
  isDigit : ∀ c ∈ digits, c.isDigit = true

-- Decided along the digits: the instance for statements about all characters would go through the
-- whole of Unicode.
instance (digits : List Char) : Decidable (AreDigits digits) :=
  decidable_of_iff (digits ≠ [] ∧ digits.all Char.isDigit = true)
    ⟨fun h => ⟨h.1, List.all_eq_true.1 h.2⟩, fun h => ⟨h.ne_nil, List.all_eq_true.2 h.isDigit⟩⟩

/-- The parts of the numeral are digits, with no zero before the others. -/
structure IsWellFormed (n : Numeral) : Prop where
  /-- There are digits before the point. -/
  whole : AreDigits n.whole
  /-- If the first of them is zero, then there is no other. -/
  whole_eq : n.whole.head? = some '0' → n.whole = ['0']
  /-- There are digits after the point if there is one. -/
  fraction : ∀ decimals ∈ n.fraction, AreDigits decimals

/-- The numeral is written with a point and without an exponent. -/
structure IsPlain (n : Numeral) : Prop extends n.IsWellFormed where
  /-- There is a point. -/
  isSome_fraction : n.fraction.isSome = true
  /-- There is no exponent. -/
  exponent_eq_none : n.exponent = none

/-- The numeral is written with an exponent and with a single digit before the point. -/
structure IsExponential (n : Numeral) : Prop extends n.IsWellFormed where
  /-- There is one digit before the point. -/
  length_whole : n.whole.length = 1
  /-- There is an exponent, far from zero. -/
  exponent_far : ∃ e, n.exponent = some e ∧ (e < -5 ∨ 15 < e)

/-- Something that is no part of a numeral comes next, or nothing. -/
def EndsNumeral (rest : List Char) : Prop :=
  ∀ c ∈ rest.head?, c.isDigit = false ∧ c ≠ '.' ∧ c ≠ 'e' ∧ c ≠ 'E'

/-! ## Reading back -/

section

variable {digits rest : List Char}

theorem areDigits_digits (n : ℕ) : AreDigits (Text.digits n) :=
  ⟨Text.digits_ne_nil n, fun _ => Text.isDigit_of_mem_digits⟩

theorem readDigits_append (h : AreDigits digits) (hrest : ∀ c ∈ rest.head?, c.isDigit = false) :
    readDigits (digits ++ rest) = .ok (digits, rest) := by
  obtain ⟨c, cs, rfl⟩ := List.exists_cons_of_ne_nil h.ne_nil
  obtain ⟨hc, hcs⟩ := List.forall_mem_cons.1 h.isDigit
  obtain ⟨htake, hdrop⟩ := PigLatin.Numeral.takeWhile_isDigit_append hcs hrest
  simp only [List.cons_append, readDigits, hc, if_true, htake, hdrop]

theorem readWhole_append (h : AreDigits digits) (hzero : digits.head? = some '0' → digits = ['0'])
    (hrest : ∀ c ∈ rest.head?, c.isDigit = false) :
    readWhole (digits ++ rest) = .ok (digits, rest) := by
  by_cases hhead : digits.head? = some '0'
  · rw [hzero hhead]
    cases rest with
    | nil => rfl
    | cons c cs =>
      have hc := hrest c rfl
      simp [readWhole, hc]
  · obtain ⟨c, cs, rfl⟩ := List.exists_cons_of_ne_nil h.ne_nil
    have hne : ∀ d ds, c :: cs ++ rest ≠ '0' :: d :: ds := by
      intro d ds heq
      exact hhead (congrArg some (List.cons.inj heq).1)
    rw [readWhole.eq_2 _ hne, readDigits_append h hrest]

theorem readFraction_append {fraction : Option (List Char)}
    (h : ∀ decimals ∈ fraction, AreDigits decimals)
    (hrest : ∀ c ∈ rest.head?, c.isDigit = false ∧ c ≠ '.') :
    readFraction (fractionChars fraction ++ rest) = .ok (fraction, rest) := by
  cases fraction with
  | none =>
    have hne : ∀ cs, rest ≠ '.' :: cs := by
      rintro cs rfl
      exact (hrest '.' rfl).2 rfl
    exact readFraction.eq_2 _ hne
  | some decimals =>
    have hdigits := readDigits_append (h decimals rfl) fun c hc => (hrest c hc).1
    rw [fractionChars, Option.elim_some, List.cons_append, readFraction, hdigits]
    rfl

/-- `readExponent` takes the sign that `exponentChars` always writes. -/
theorem readExponent_append (exponent : Option ℤ) (hrest : EndsNumeral rest) :
    readExponent (exponentChars exponent ++ rest) = .ok (exponent, rest) := by
  cases exponent with
  | none =>
    cases rest with
    | nil => rfl
    | cons c cs =>
      obtain ⟨-, -, hlower, hupper⟩ := hrest c rfl
      exact if_neg (not_or.2 ⟨hlower, hupper⟩)
  | some e =>
    have hdigits := readDigits_append (areDigits_digits e.natAbs) fun c hc => (hrest c hc).1
    rw [exponentChars, Option.elim_some, List.cons_append, List.cons_append, readExponent,
      if_pos (.inl rfl)]
    by_cases he : e < 0
    · have hvalue : -(e.natAbs : ℤ) = e := by omega
      rw [if_pos he, readSignedDigits, hdigits]
      simp only [bind, Except.bind, pure, Except.pure, Text.digitsValue_digits, hvalue]
    · have hvalue : (e.natAbs : ℤ) = e := by omega
      rw [if_neg he, readSignedDigits.eq_2 _ (by simp), List.head?_cons, if_pos rfl,
        List.tail_cons, hdigits]
      simp only [bind, Except.bind, pure, Except.pure, Text.digitsValue_digits, hvalue]

/-- `read` puts a numeral together from its parts, which are read one after the other. -/
theorem read_of_parts (negative : Bool) {cs cs₁ cs₂ whole : List Char}
    {fraction : Option (List Char)} {exponent : Option ℤ}
    (hwhole : readWhole cs = .ok (whole, cs₁)) (hfraction : readFraction cs₁ = .ok (fraction, cs₂))
    (hexponent : readExponent cs₂ = .ok (exponent, rest)) :
    read (if negative then '-' :: cs else cs) =
      .ok (⟨negative, whole, fraction, exponent⟩, rest) := by
  cases negative with
  | true => simp [read, hwhole, hfraction, hexponent, bind, Except.bind, pure, Except.pure]
  | false =>
    have hsign : cs.head? ≠ some '-' := by
      intro hhead
      obtain ⟨tail, rfl⟩ := List.head?_eq_some_iff.1 hhead
      cases hwhole
    simp [read, hsign, hwhole, hfraction, hexponent, bind, Except.bind, pure, Except.pure]

/-- `read` undoes `chars` in front of whatever is no part of a numeral. -/
theorem read_chars_append {n : Numeral} (h : n.IsWellFormed) (hrest : EndsNumeral rest) :
    read (n.chars ++ rest) = .ok (n, rest) := by
  obtain ⟨negative, whole, fraction, exponent⟩ := n
  have hends : ∀ c ∈ (exponentChars exponent ++ rest).head?, c.isDigit = false ∧ c ≠ '.' := by
    cases exponent with
    | none => exact fun c hc => ⟨(hrest c hc).1, (hrest c hc).2.1⟩
    | some e =>
      rintro c ⟨⟩
      exact ⟨rfl, by decide⟩
  have hends' : ∀ c ∈ (fractionChars fraction ++ (exponentChars exponent ++ rest)).head?,
      c.isDigit = false := by
    cases fraction with
    | none => exact fun c hc => (hends c hc).1
    | some decimals =>
      rintro c ⟨⟩
      rfl
  have hwhole := readWhole_append h.whole h.whole_eq hends'
  have hfraction := readFraction_append h.fraction hends
  have hexponent := readExponent_append exponent hrest
  have hparts := read_of_parts negative hwhole hfraction hexponent
  unfold chars
  cases negative with
  | true => simpa only [if_true, List.cons_append, List.append_assoc] using hparts
  | false => simpa only [Bool.false_eq_true, if_false, List.append_assoc] using hparts

/-- `chars` tells numerals apart. -/
theorem eq_of_chars_eq {m n : Numeral} (hm : m.IsWellFormed) (hn : n.IsWellFormed)
    (h : m.chars = n.chars) : m = n := by
  have hnil : EndsNumeral [] := nofun
  have hread := read_chars_append hm hnil
  rw [h, read_chars_append hn hnil] at hread
  exact (congrArg Prod.fst (Except.ok.inj hread)).symm

end

/-! ## Values -/

/-- The number in units of its last digit, as `significand` counts it, with the point where
`decimals` puts it. -/
theorem toRat_eq (n : Numeral) : n.toRat =
    signed n.negative n.significand * 10 ^ (n.exponent.getD 0 - (n.decimals.length : ℤ)) := rfl

/-- The exponent and the digits before the point bound the number that a numeral writes. -/
theorem abs_toRat_lt {n : Numeral} (h : n.IsWellFormed) :
    |n.toRat| < 10 ^ (n.exponent.getD 0 + n.whole.length) := by
  have hdecimals : ∀ c ∈ n.fraction.getD [], c.isDigit = true := by
    cases hfraction : n.fraction with
    | none => simp
    | some decimals => exact (h.fraction decimals hfraction).isDigit
  have hdigits : ∀ c ∈ n.whole ++ n.fraction.getD [], c.isDigit = true := by
    intro c hc
    exact (List.mem_append.1 hc).elim (h.whole.isDigit c) (hdecimals c)
  have hlt := Text.digitsValue_lt hdigits
  have hpos : (0 : ℚ) < 10 ^ (n.exponent.getD 0 - ((n.fraction.getD []).length : ℤ)) := by
    positivity
  have hcast : (Text.digitsValue (n.whole ++ n.fraction.getD []) : ℚ) <
      10 ^ ((n.whole ++ n.fraction.getD []).length : ℤ) := by
    rw [zpow_natCast]
    exact_mod_cast hlt
  have hsplit : n.exponent.getD 0 + (n.whole.length : ℤ) =
      ((n.whole ++ n.fraction.getD []).length : ℤ) +
        (n.exponent.getD 0 - ((n.fraction.getD []).length : ℤ)) := by
    rw [List.length_append]
    push_cast
    omega
  rw [toRat, abs_mul, abs_of_pos hpos, ← Int.cast_abs, Int.abs_eq_natAbs, natAbs_signed, hsplit,
    zpow_add₀ (by norm_num)]
  exact mul_lt_mul_of_pos_right hcast hpos

/-! ## Numbers written in full -/

theorem head?_digits_eq_zero {n : ℕ} (h : (Text.digits n).head? = some '0') :
    Text.digits n = ['0'] := by
  by_cases hn : n = 0
  · rw [hn]
    rfl
  · exact absurd h (Text.head?_digits_ne_zero hn)

/-- The numeral of a number that is written in full, as `Text.fixedPoint` writes it. -/
def ofFixedPoint (negative : Bool) (n scale : ℕ) : Numeral :=
  if scale = 0 then ⟨negative, Text.digits n, some ['0'], none⟩
  else ⟨negative, Text.digits (n / Nat.pow 10 scale), some (Text.lowDigits scale n), none⟩

section

variable (negative : Bool) (n scale : ℕ)

theorem isPlain_ofFixedPoint : (ofFixedPoint negative n scale).IsPlain := by
  unfold ofFixedPoint
  split
  · refine ⟨⟨areDigits_digits n, head?_digits_eq_zero, ?_⟩, rfl, rfl⟩
    rintro _ ⟨⟩
    exact ⟨by simp, by simp⟩
  · next hscale =>
    refine ⟨⟨areDigits_digits _, head?_digits_eq_zero, ?_⟩, rfl, rfl⟩
    rintro _ ⟨⟩
    refine ⟨fun hnil => hscale ?_, fun _ => Text.isDigit_of_mem_lowDigits⟩
    rw [← Text.length_lowDigits scale n, hnil, List.length_nil]

/-- `ofFixedPoint` takes apart what `Text.fixedPoint` writes. -/
theorem chars_ofFixedPoint : (ofFixedPoint negative n scale).chars =
    if negative then '-' :: Text.fixedPoint n scale else Text.fixedPoint n scale := by
  unfold ofFixedPoint Text.fixedPoint
  split <;> simp [chars, fractionChars, exponentChars]

theorem negative_ofFixedPoint : (ofFixedPoint negative n scale).negative = negative := by
  unfold ofFixedPoint
  split <;> rfl

/-- Where there are no decimals, `Text.fixedPoint` writes a zero behind the point, which counts as a
digit. -/
theorem significand_ofFixedPoint :
    (ofFixedPoint negative n scale).significand = if scale = 0 then n * 10 else n := by
  unfold ofFixedPoint significand
  split
  · have hzero : Text.digitsValue ['0'] = 0 := rfl
    change Text.digitsValue (Text.digits n ++ ['0']) = _
    rw [Text.digitsValue_append, Text.digitsValue_digits, hzero]
    rfl
  · exact PigLatin.Numeral.digitsValue_append_lowDigits n scale

theorem length_decimals_ofFixedPoint :
    (ofFixedPoint negative n scale).decimals.length = if scale = 0 then 1 else scale := by
  unfold ofFixedPoint decimals
  split
  · rfl
  · exact Text.length_lowDigits scale n

/-- The numeral of `ofFixedPoint` writes the number with the point at its place. -/
theorem toRat_ofFixedPoint :
    (ofFixedPoint negative n scale).toRat = signed negative n / 10 ^ scale := by
  rw [toRat_eq, (isPlain_ofFixedPoint negative n scale).exponent_eq_none, Option.getD_none,
    zero_sub, zpow_neg, zpow_natCast, ← div_eq_mul_inv, negative_ofFixedPoint,
    significand_ofFixedPoint, length_decimals_ofFixedPoint]
  split
  · next hscale =>
    rw [hscale, cast_signed, cast_signed]
    push_cast
    ring
  · rfl

end

end Json.Numeral

end PigLatin
