import PigLatin.Document.Literal
import PigLatin.Proofs.Binary64.Shortest
import PigLatin.Proofs.Literal.Value
import PigLatin.Proofs.Scientific

/-!
# Constants described by numbers of double precision

A number of double precision becomes the decimal that its text writes, or it is out of range. Only a
very small number is rounded.
-/

namespace PigLatin

/-- What `Literal.render` writes for a decimal has a point and no exponent, and writes
`Decimal.toRat`. -/
theorem Literal.exists_plain_double (d : Decimal) : ∃ numeral : Json.Numeral, numeral.IsPlain ∧
    numeral.chars = (Literal.double d).render.toList ∧ numeral.toRat = d.toRat := by
  refine ⟨.ofFixedPoint d.isNegative d.mantissa.natAbs d.scale,
    Json.Numeral.isPlain_ofFixedPoint _ _ _, ?_, ?_⟩
  · rw [Json.Numeral.chars_ofFixedPoint, toList_render]
    rfl
  · have hsigned : signed d.isNegative d.mantissa.natAbs = d.mantissa := signed_natAbs d.mantissa
    rw [Json.Numeral.toRat_ofFixedPoint, hsigned]
    rfl

namespace Document

/-- The numeral is what is written for a number of double precision: one with an exponent only where
the first digit is far from the point. -/
structure IsFloatText (negative : Bool) (magnitude : Binary64) (numeral : Json.Numeral) : Prop where
  /-- There are a point and no exponent, or one digit before the point and an exponent. -/
  form : numeral.IsPlain ∨ numeral.IsExponential
  /-- It is written as the number is. -/
  chars_eq : numeral.chars = (Json.Number.float negative magnitude).chars

section

variable {negative : Bool} {magnitude : Binary64} {numeral numeral' : Json.Numeral}

theorem IsFloatText.isWellFormed (h : IsFloatText negative magnitude numeral) :
    numeral.IsWellFormed :=
  h.form.elim (fun hplain => hplain.toIsWellFormed) fun hexponential => hexponential.toIsWellFormed

/-- There is one text, which `Json.Numeral.chars` takes apart. -/
theorem IsFloatText.unique (h : IsFloatText negative magnitude numeral)
    (h' : IsFloatText negative magnitude numeral') : numeral = numeral' :=
  Json.Numeral.eq_of_chars_eq h.isWellFormed h'.isWellFormed (h.chars_eq.trans h'.chars_eq.symm)

/-- The text writes `Binary64.shortest`, with few digits. -/
theorem exists_isFloatText (negative : Bool) (magnitude : Binary64) :
    ∃ numeral, IsFloatText negative magnitude numeral ∧ numeral.IsShort ∧
      numeral.toRat = magnitude.shortest.toRat negative := by
  obtain ⟨numeral, hform, hshort, hchars, hvalue⟩ :=
    Scientific.exists_numeral negative magnitude.coefficient_shortest_lt
  exact ⟨numeral, ⟨hform, hchars⟩, hshort, hvalue⟩

/-- `decimal?` reads the text with `Decimal.parse?`, and with `Decimal.parseScientific?` if that
refuses it; the latter alone can find it out of range. -/
theorem decimal?_cases (h : IsFloatText negative magnitude numeral) :
    (numeral.IsOutOfRange ∧ decimal? negative magnitude = none) ∨
      ¬numeral.IsOutOfRange ∧ ∃ d, decimal? negative magnitude = some d ∧
        Decimal.Approximates d numeral.toRat ∧
        ((∀ e ∈ numeral.exponent, 0 < e) → d.toRat = numeral.toRat) := by
  obtain ⟨numeral', h', hshort, -⟩ := exists_isFloatText negative magnitude
  rw [← h.unique h'] at hshort
  have hcases := Decimal.parse?_or_parseScientific?_cases h.isWellFormed hshort
  rwa [h.chars_eq] at hcases

end

/-- A number of double precision is written as a numeral. If the numeral `IsOutOfRange`, then
`numberLiteral` refuses the number. If it is not, then the number describes a `double` that is the
number the numeral writes, or the nearest decimal where the exponent is negative and 28 decimals are
not enough; `Literal.render` writes it with a point and without an exponent. -/
theorem numberLiteral_float (negative : Bool) (magnitude : Binary64) :
    ∃ numeral, IsFloatText negative magnitude numeral ∧
      ((numeral.IsOutOfRange ∧ numberLiteral (.float negative magnitude) =
          .error (.numberOutOfRange (.float negative magnitude))) ∨
        ¬numeral.IsOutOfRange ∧ ∃ d,
          numberLiteral (.float negative magnitude) = .ok (.double d) ∧
          Decimal.Approximates d numeral.toRat ∧
          ((∀ e ∈ numeral.exponent, 0 < e) → d.toRat = numeral.toRat) ∧
          ∃ written : Json.Numeral, written.IsPlain ∧
            written.chars = (Literal.double d).render.toList ∧ written.toRat = d.toRat) := by
  obtain ⟨numeral, htext, -, -⟩ := exists_isFloatText negative magnitude
  refine ⟨numeral, htext, ?_⟩
  rcases decimal?_cases htext with ⟨hout, hnone⟩ | ⟨hin, d, hsome, happroximates, hexact⟩
  · refine .inl ⟨hout, ?_⟩
    simp only [numberLiteral, hnone]
  · refine .inr ⟨hin, d, ?_, happroximates, hexact, Literal.exists_plain_double d⟩
    simp only [numberLiteral, hsome]

/-- `0.1` is kept, `1e+29` is out of range, and `-1.2345678901234567e-20` has more decimals than a
decimal can have. -/
theorem numberLiteral_float_kept_refused_rounded :
    (∃ d, numberLiteral (.float false ⟨7205759403792794, -56⟩) = .ok (.double d) ∧
        d.toRat = 1 / 10) ∧
      numberLiteral (.float false ⟨5684341886080801, 44⟩) =
        .error (.numberOutOfRange (.float false ⟨5684341886080801, 44⟩)) ∧
      ∃ d, numberLiteral (.float true ⟨8205111011246073, -119⟩) = .ok (.double d) ∧
        Decimal.Approximates d (-12345678901234567 / 10 ^ 36) := by
  refine ⟨?_, ?_, ?_⟩
  · obtain ⟨numeral, htext, hcases⟩ := numberLiteral_float false ⟨7205759403792794, -56⟩
    have hplain : (Json.Numeral.mk false ['0'] (some ['1']) none).IsPlain :=
      ⟨⟨by decide, by decide, by decide⟩, rfl, rfl⟩
    obtain rfl := htext.unique ⟨.inl hplain, by decide +kernel⟩
    obtain ⟨⟨e, ⟨⟩, -⟩, -⟩ | ⟨-, d, hd, -, hexact, -⟩ := hcases
    refine ⟨d, hd, (hexact (by simp)).trans ?_⟩
    change ((1 : ℤ) : ℚ) * 10 ^ ((0 : ℤ) - (1 : ℤ)) = 1 / 10
    norm_num
  · obtain ⟨numeral, htext, hcases⟩ := numberLiteral_float false ⟨5684341886080801, 44⟩
    have hexponential : (Json.Numeral.mk false ['1'] none (some 29)).IsExponential :=
      ⟨⟨by decide, by decide, by decide⟩, rfl, 29, rfl, by decide⟩
    obtain rfl := htext.unique ⟨.inr hexponential, by decide +kernel⟩
    exact (hcases.resolve_right fun hin => hin.1 ⟨29, rfl, .inl (by decide)⟩).2
  · obtain ⟨numeral, htext, hcases⟩ := numberLiteral_float true ⟨8205111011246073, -119⟩
    have hexponential : (Json.Numeral.mk true ['1'] (some "2345678901234567".toList)
        (some (-20))).IsExponential :=
      ⟨⟨by decide, by decide, by decide⟩, rfl, -20, rfl, by decide⟩
    obtain rfl := htext.unique ⟨.inr hexponential, by decide +kernel⟩
    obtain ⟨⟨e, ⟨⟩, hfar | ⟨hpos, -⟩⟩, -⟩ | ⟨-, d, hd, happroximates, -⟩ := hcases
    · exact absurd hfar (by decide)
    · exact absurd hpos (by decide)
    · change Decimal.Approximates d
        (((-12345678901234567 : ℤ) : ℚ) * 10 ^ ((-20 : ℤ) - (16 : ℤ))) at happroximates
      refine ⟨d, hd, ?_⟩
      norm_num at happroximates ⊢
      exact happroximates

end Document

end PigLatin
