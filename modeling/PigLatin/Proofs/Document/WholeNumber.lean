import PigLatin.Proofs.Document.Grammar
import PigLatin.Proofs.Document.Number
import PigLatin.Proofs.Json.Reader

/-!
# Whole numbers in documents

A whole number that is described as a constant should be written as itself or be refused. This is so
for the numbers of 64 bits. Any other number is read as one of double precision, and what is written
is the text of that, which may be another number.
-/

namespace PigLatin

namespace Json.Numeral

/-- The numeral of a whole number. -/
def ofWhole (negative : Bool) (n : ℕ) : Numeral := ⟨negative, Text.digits n, none, none⟩

theorem isWellFormed_ofWhole (negative : Bool) (n : ℕ) : (ofWhole negative n).IsWellFormed :=
  ⟨areDigits_digits n, head?_digits_eq_zero, nofun⟩

/-- The number is kept as a whole number: it has 64 bits without a sign, or 64 bits with one if it
is below zero. -/
def FitsIn64Bits (negative : Bool) (n : ℕ) : Prop :=
  negative = true ∧ 0 < n ∧ n ≤ 2 ^ 63 ∨ negative = false ∧ n < 2 ^ 64

variable {negative : Bool} {n : ℕ}

/-- `Json.Numeral.value?` keeps a whole number of 64 bits as it is. -/
theorem value?_of_fits (h : FitsIn64Bits negative n) :
    (ofWhole negative n).value? = some (.integer (signed negative n)) := by
  have hinteger : (ofWhole negative n).integer? = some (signed negative n) := by
    unfold ofWhole integer?
    rw [Text.digitsValue_digits, Int64.toInt_minValue]
    rcases h with ⟨rfl, hpos, hle⟩ | ⟨rfl, hlt⟩
    · have hmin : n ≤ 9223372036854775808 := hle
      simp [hpos, hmin, signed]
    · have hsize : n < UInt64.size := hlt
      simp [hsize, signed]
  rw [value?, hinteger]

/-- `Json.Numeral.value?` makes any other whole number one of double precision. -/
theorem value?_of_not_fits (h : ¬FitsIn64Bits negative n) :
    (ofWhole negative n).value? = (ofWhole negative n).float? := by
  have hinteger : (ofWhole negative n).integer? = none := by
    unfold ofWhole integer?
    rw [Text.digitsValue_digits, Int64.toInt_minValue]
    cases negative with
    | true =>
      have hout : 0 < n → 9223372036854775808 < n := by
        intro hpos
        by_contra hle
        exact h (.inl ⟨rfl, hpos, not_lt.1 hle⟩)
      simpa using hout
    | false =>
      have hsize : ¬n < UInt64.size := fun hlt => h (.inr ⟨rfl, hlt⟩)
      simp [hsize]
  rw [value?, hinteger]

/-- `Json.Numeral.float?` hands the minus sign on. -/
theorem exists_float_of_float? {numeral : Numeral} {number : Number}
    (h : numeral.float? = some number) :
    ∃ magnitude, number = .float numeral.negative magnitude := by
  obtain ⟨magnitude, -, heq⟩ := Option.bind_eq_some_iff.1 h
  exact ⟨magnitude, (Option.some.inj heq).symm⟩

end Json.Numeral

namespace Document

/-- The document that describes a whole number as a constant. -/
def literalDocument (negative : Bool) (n : ℕ) : String :=
  String.ofList (Json.numberMember "literal".toList (Json.Numeral.ofWhole negative n))

/-- The document has the wrong shape, or it describes a constant whose text stands for the
number. -/
def IsExactOrRefused (negative : Bool) (n : ℕ) : Prop :=
  ∀ document, Json.parse (literalDocument negative n) = .ok document →
    (∃ error, readExpr document = .error (.shape error)) ∨
      ∃ l, readExpr document = .ok (.literal l) ∧
        (Literal.read l.render.toList).map Literal.content = some (.number (signed negative n))

variable {negative : Bool} {n : ℕ}

/-- `Json.parse` reads the document as an object with the number that the numeral stands for, if it
stands for one. -/
theorem parse_literalDocument : Json.parse (literalDocument negative n) =
    (Json.Numeral.ofWhole negative n).value?.elim (.error .malformed) fun number =>
      .ok (.object [("literal", .number number)]) := by
  have hall : ("literal".toList.all fun c =>
      decide (c ≠ '"' ∧ c ≠ '\\' ∧ ¬c.toNat < 0x20)) = true := by
    decide
  have hkey : Json.IsBare "literal".toList := fun c hc =>
    of_decide_eq_true (List.all_eq_true.1 hall c hc)
  have hparse := Json.parse_numberMember hkey (Json.Numeral.isWellFormed_ofWhole negative n)
  rwa [String.ofList_toList] at hparse

theorem readExpr_literal (number : Json.Number) :
    readExpr (.object [("literal", .number number)]) =
      ((numberLiteral number).map Expr.literal).mapError .shape := rfl

/-- For `IsExactOrRefused` it matters which number the document holds, and nothing else. -/
theorem isExactOrRefused_iff_content : IsExactOrRefused negative n ↔
    ∀ number ∈ (Json.Numeral.ofWhole negative n).value?, ∀ l, numberLiteral number = .ok l →
      l.content = .number (signed negative n) := by
  unfold IsExactOrRefused
  rw [parse_literalDocument]
  cases (Json.Numeral.ofWhole negative n).value? with
  | none => exact iff_of_true nofun nofun
  | some number =>
    simp only [Option.elim_some, Except.ok.injEq, forall_eq', Option.mem_some_iff,
      readExpr_literal]
    cases hliteral : numberLiteral number with
    | error error => exact iff_of_true (.inl ⟨error, rfl⟩) nofun
    | ok l =>
      have hcontent := l.content_of_read_render
      constructor
      · rintro (⟨error, ⟨⟩⟩ | ⟨_, ⟨⟩, hexact⟩) _ ⟨⟩
        rw [hcontent] at hexact
        exact Option.some.inj hexact
      · intro hexact
        refine .inr ⟨l, rfl, ?_⟩
        rw [hcontent, hexact l rfl]

/-- `numberLiteral` keeps whole numbers of 64 bits as they are. -/
theorem content_of_numberLiteral_integer {k : ℤ} {l : Literal}
    (h : numberLiteral (.integer k) = .ok l) : l.content = .number k := by
  simp only [numberLiteral, Int32.toInt_minValue, Int32.toInt_maxValue, Int64.toInt_minValue,
    Int64.toInt_maxValue] at h
  split at h
  · next hint =>
    cases h
    rw [Literal.content, Int32.toInt_ofInt_of_le hint.1 (by omega)]
  · split at h
    · next hlong =>
      cases h
      rw [Literal.content, Int64.toInt_ofInt_of_le hlong.1 (by omega)]
    · cases h

/-- A numeral that `IsExponential`, with an exponent below zero, writes a small fraction. -/
theorem abs_toRat_lt_of_isExponential {numeral : Json.Numeral} {e : ℤ}
    (hexponential : numeral.IsExponential) (hexponent : numeral.exponent = some e) (he : e ≤ 0) :
    |numeral.toRat| < 1 / 10 := by
  obtain ⟨e', he', hfar⟩ := hexponential.exponent_far
  have hsame : e' = e := Option.some.inj (he'.symm.trans hexponent)
  have hlt := Json.Numeral.abs_toRat_lt hexponential.toIsWellFormed
  rw [hexponent, hexponential.length_whole, Option.getD_some, Nat.cast_one] at hlt
  have hle : (10 : ℚ) ^ (e + 1) ≤ 10 ^ (-1 : ℤ) := zpow_le_zpow_right₀ (by norm_num) (by omega)
  rw [zpow_neg_one] at hle
  linarith

/-- A decimal is the same whole number as what it `Approximates`, or neither is a whole number. -/
theorem toRat_eq_iff_of_approximates {d : Decimal} {numeral : Json.Numeral} {k : ℤ}
    (hform : numeral.IsPlain ∨ numeral.IsExponential)
    (happroximates : Decimal.Approximates d numeral.toRat)
    (hexact : (∀ e ∈ numeral.exponent, 0 < e) → d.toRat = numeral.toRat) :
    d.toRat = k ↔ numeral.toRat = k := by
  constructor
  · intro hd
    by_cases hpos : ∀ e ∈ numeral.exponent, 0 < e
    · rw [← hexact hpos, hd]
    · push Not at hpos
      obtain ⟨e, he, hle⟩ := hpos
      have hexponential : numeral.IsExponential := by
        refine hform.resolve_left fun hplain => ?_
        rw [hplain.exponent_eq_none] at he
        cases he
      have hsmall := abs_lt.1 (abs_toRat_lt_of_isExponential hexponential he hle)
      have hnear := abs_le.1 happroximates.near
      have hunit : (1 : ℚ) / 2 / 10 ^ 28 < 1 / 10 := by norm_num
      have hzero : k = 0 := by
        rw [hd] at hnear
        have habove : (k : ℚ) < 1 := by linarith [hnear.2, hsmall.2]
        have hbelow : (-1 : ℚ) < k := by linarith [hnear.1, hsmall.1]
        have habove' : k < 1 := by exact_mod_cast habove
        have hbelow' : -1 < k := by exact_mod_cast hbelow
        omega
      rw [hzero, Int.cast_zero] at hd ⊢
      exact happroximates.eq_zero_iff.1 hd
  · intro hnumeral
    have hunits : numeral.toRat = (k * 10 ^ 28 : ℤ) / 10 ^ 28 := by
      rw [hnumeral, eq_div_iff (by positivity)]
      norm_cast
    rw [happroximates.exact_of_decimals _ hunits, hnumeral]

/-- The constants that `numberLiteral` makes of numbers of double precision are whole numbers where
the texts of those write them. -/
theorem content_of_numberLiteral_float_iff {magnitude : Binary64} {numeral : Json.Numeral} {k : ℤ}
    (htext : IsFloatText negative magnitude numeral) :
    (∀ l, numberLiteral (.float negative magnitude) = .ok l → l.content = .number k) ↔
      numeral.toRat = k ∨ numeral.IsOutOfRange := by
  rcases decimal?_cases htext with ⟨hout, hnone⟩ | ⟨hin, d, hsome, happroximates, hexact⟩
  · refine iff_of_true ?_ (.inr hout)
    simp [numberLiteral, hnone]
  · rw [or_iff_left hin, ← toRat_eq_iff_of_approximates htext.form happroximates hexact]
    simp [numberLiteral, hsome, Literal.content]

/-- A whole number of 64 bits is read. It is refused if it needs all of them and has no sign. -/
theorem exists_parse_literalDocument (h : Json.Numeral.FitsIn64Bits negative n) :
    ∃ document, Json.parse (literalDocument negative n) = .ok document ∧
      ((∃ error, readExpr document = .error error) ↔ negative = false ∧ 2 ^ 63 ≤ n) := by
  have hbounds : (Int64.minValue.toInt ≤ signed negative n ∧
      signed negative n ≤ Int64.maxValue.toInt) ↔ ¬(negative = false ∧ 2 ^ 63 ≤ n) := by
    rw [Int64.toInt_minValue, Int64.toInt_maxValue]
    rcases h with ⟨rfl, -, hle⟩ | ⟨rfl, -⟩
    · simp only [signed, if_true]
      refine iff_of_true ⟨by omega, by omega⟩ ?_
      rintro ⟨⟨⟩, -⟩
    · simp only [signed, Bool.false_eq_true, if_false, true_and]
      omega
  refine ⟨_, by rw [parse_literalDocument, Json.Numeral.value?_of_fits h]; rfl, ?_⟩
  have hok := exists_numberLiteral_integer_iff.trans hbounds
  rw [readExpr_literal]
  cases hliteral : numberLiteral (.integer (signed negative n)) with
  | error error =>
    rw [hliteral] at hok
    refine iff_of_true ⟨_, rfl⟩ ?_
    by_contra hin
    obtain ⟨value, hvalue⟩ := hok.2 hin
    cases hvalue
  | ok l =>
    refine iff_of_false ?_ (hok.1 ⟨l, hliteral⟩)
    rintro ⟨_, ⟨⟩⟩

/-- A whole number of 64 bits in a document is written as itself, or refused if it needs all of the
bits and has no sign. Any other is read as a number of double precision or not at all; it is written
as itself or refused exactly if the text of that number writes the whole number or is out of
range. -/
theorem isExactOrRefused_iff (negative : Bool) (n : ℕ) :
    (Json.Numeral.FitsIn64Bits negative n →
        ∃ document, Json.parse (literalDocument negative n) = .ok document ∧
          ((∃ error, readExpr document = .error error) ↔ negative = false ∧ 2 ^ 63 ≤ n)) ∧
      (IsExactOrRefused negative n ↔ Json.Numeral.FitsIn64Bits negative n ∨
        ∀ magnitude numeral,
          (Json.Numeral.ofWhole negative n).value? = some (.float negative magnitude) →
          IsFloatText negative magnitude numeral →
          numeral.toRat = signed negative n ∨ numeral.IsOutOfRange) := by
  refine ⟨exists_parse_literalDocument, ?_⟩
  rw [isExactOrRefused_iff_content]
  by_cases hfits : Json.Numeral.FitsIn64Bits negative n
  · rw [Json.Numeral.value?_of_fits hfits]
    refine iff_of_true ?_ (.inl hfits)
    rintro _ ⟨⟩ l hl
    exact content_of_numberLiteral_integer hl
  · rw [Json.Numeral.value?_of_not_fits hfits, or_iff_right hfits]
    constructor
    · intro hcontent magnitude numeral hfloat htext
      exact_mod_cast (content_of_numberLiteral_float_iff htext).1 (hcontent _ hfloat)
    · intro htext number hnumber
      obtain ⟨magnitude, rfl⟩ := Json.Numeral.exists_float_of_float? hnumber
      obtain ⟨numeral, hnumeral, -, -⟩ := exists_isFloatText negative magnitude
      exact (content_of_numberLiteral_float_iff hnumeral).2
        (htext magnitude numeral hnumber hnumeral)

/-- A whole number that is read as one of double precision and not refused is written as another
number if it has more than 17 significant digits. -/
theorem not_isExactOrRefused_of_digits {magnitude : Binary64} {d : Decimal}
    (hvalue : (Json.Numeral.ofWhole negative n).value? = some (.float negative magnitude))
    (hd : decimal? negative magnitude = some d)
    (hdigits : ∀ c zeros, n = c * 10 ^ zeros → 10 ^ 17 ≤ c) : ¬IsExactOrRefused negative n := by
  intro h
  obtain ⟨numeral, htext, -, hshortest⟩ := exists_isFloatText negative magnitude
  have hcontent := isExactOrRefused_iff_content.1 h _ hvalue
  rcases (content_of_numberLiteral_float_iff htext).1 (by exact_mod_cast hcontent) with
    heq | hout
  · rw [hshortest] at heq
    have hlt := magnitude.coefficient_shortest_lt
    obtain ⟨zeros, hzeros⟩ :=
      Scientific.exists_zeros_of_toRat_eq hlt heq (hdigits n 0 (by simp))
    exact (hdigits _ _ hzeros).not_gt hlt
  · rcases decimal?_cases htext with ⟨-, hnone⟩ | ⟨hin, -⟩
    · rw [hnone] at hd
      cases hd
    · exact hin hout

/-- The first number of more than 64 bits is written as another one. -/
theorem not_isExactOrRefused_two_pow_64 : ¬IsExactOrRefused false 18446744073709551616 := by
  have hvalue : (Json.Numeral.ofWhole false 18446744073709551616).value? =
      some (.float false ⟨4503599627370496, 12⟩) := by
    decide +kernel
  have hd : decimal? false ⟨4503599627370496, 12⟩ =
      some ⟨18446744073709552000, 0, by decide, by decide⟩ := by
    decide +kernel
  refine not_isExactOrRefused_of_digits hvalue hd fun c zeros heq => ?_
  cases zeros with
  | zero =>
    rw [pow_zero, mul_one] at heq
    omega
  | succ zeros =>
    rw [pow_succ, ← mul_assoc] at heq
    omega

end Document

end PigLatin
