import PigLatin.Literal
import PigLatin.Proofs.Chararray

/-!
# Written constants

The text of a constant tells the constant: its type from its last character and its shape, its value
from its digits. Only the number of decimals is not always kept, since a decimal without decimals is
written with one.
-/

namespace PigLatin

namespace Literal

/-! ## Sign and digits -/

/-- The constant as it is written, without the sign. -/
def unsigned : Literal → List Char
  | .int value => Text.digits value.toInt.natAbs
  | .long value => Text.digits value.toInt.natAbs ++ ['L']
  | .float value => Text.fixedPoint value.mantissa.natAbs value.scale ++ ['F']
  | .double value => Text.fixedPoint value.mantissa.natAbs value.scale
  | .chararray text => Chararray.quote text.toList

/-- `Literal.chars` writes a minus sign exactly if the constant is `isNegative`. -/
theorem chars_eq (l : Literal) :
    l.chars = if l.isNegative then '-' :: l.unsigned else l.unsigned := by
  cases l with
  | int value => simp [chars, isNegative, unsigned, Text.integer]
  | long value =>
    simp only [chars, isNegative, unsigned, Text.integer, decide_eq_true_eq]
    split <;> rfl
  | float value =>
    cases hnegative : value.isNegative <;>
      simp [chars, isNegative, unsigned, Decimal.chars, hnegative]
  | double value => rfl
  | chararray text => rfl

theorem chars_of_isNegative {l : Literal} (h : l.isNegative = true) :
    l.chars = '-' :: l.unsigned := by
  simp [chars_eq, h]

theorem chars_of_not_isNegative {l : Literal} (h : l.isNegative = false) :
    l.chars = l.unsigned := by
  simp [chars_eq, h]

theorem exists_digit_fixedPoint (n scale : Nat) :
    ∃ c cs, Text.fixedPoint n scale = c :: cs ∧ c.isDigit = true := by
  have hdigits : ∀ n, ∃ c cs, Text.digits n = c :: cs ∧ c.isDigit = true := by
    intro n
    obtain ⟨c, cs, heq⟩ := List.exists_cons_of_ne_nil (Text.digits_ne_nil n)
    exact ⟨c, cs, heq, Text.isDigit_of_mem_digits (heq ▸ List.mem_cons_self)⟩
  unfold Text.fixedPoint
  split
  · obtain ⟨c, cs, heq, hc⟩ := hdigits n
    exact ⟨c, cs ++ ['.', '0'], by rw [heq]; rfl, hc⟩
  · obtain ⟨c, cs, heq, hc⟩ := hdigits (n / Nat.pow 10 scale)
    exact ⟨c, cs ++ '.' :: Text.lowDigits scale n, by rw [heq]; rfl, hc⟩

/-- Apart from quoted text, what `unsigned` leaves is a word that starts with a digit. -/
theorem unsigned_cases (l : Literal) : (∃ s, l = .chararray s) ∨
    IsWord l.unsigned ∧ ∃ c cs, l.unsigned = c :: cs ∧ c.isDigit = true := by
  cases l with
  | int value =>
    obtain ⟨c, cs, heq⟩ := List.exists_cons_of_ne_nil (Text.digits_ne_nil value.toInt.natAbs)
    exact .inr ⟨isWord_digits _, c, cs, heq,
      Text.isDigit_of_mem_digits (heq ▸ List.mem_cons_self)⟩
  | long value =>
    obtain ⟨c, cs, heq⟩ := List.exists_cons_of_ne_nil (Text.digits_ne_nil value.toInt.natAbs)
    exact .inr ⟨(isWord_digits _).append (by decide), c, cs ++ ['L'], by simp [unsigned, heq],
      Text.isDigit_of_mem_digits (heq ▸ List.mem_cons_self)⟩
  | float value =>
    obtain ⟨c, cs, heq, hc⟩ := exists_digit_fixedPoint value.mantissa.natAbs value.scale
    exact .inr ⟨(isWord_fixedPoint _ _).append (by decide), c, cs ++ ['F'],
      by simp [unsigned, heq], hc⟩
  | double value =>
    exact .inr ⟨isWord_fixedPoint _ _, exists_digit_fixedPoint value.mantissa.natAbs value.scale⟩
  | chararray text => exact .inl ⟨text, rfl⟩

/-- Every constant is written as text that is `Sound`. -/
theorem sound_chars (l : Literal) : Sound l.chars := by
  have hminus : Sound ['-'] := by decide
  rcases l.unsigned_cases with ⟨s, rfl⟩ | ⟨hword, c, cs, heq, hc⟩
  · exact Chararray.sound_quote _
  · have hhead : ∀ d ∈ l.unsigned.head?, d ≠ '-' ∧ d ≠ '*' := by
      rw [heq]
      rintro d ⟨⟩
      constructor <;> rintro rfl <;> cases hc
    rw [chars_eq]
    split
    · exact hminus.append_of_head (.of_isWord hword) hhead
    · exact .of_isWord hword

end Literal

end PigLatin
