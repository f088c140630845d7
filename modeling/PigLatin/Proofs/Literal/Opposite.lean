import PigLatin.Proofs.Literal.Reader

/-!
# Opposite constants

A negative constant is written like a minus sign before the opposite constant, so the text alone
does not tell its sign from an operator.
-/

namespace PigLatin

/-- The decimal with the other sign. -/
def Decimal.opposite (d : Decimal) : Decimal :=
  ⟨-d.mantissa, d.scale, by simpa using d.mantissa_le, d.scale_le⟩

namespace Literal

/-- The negative number of the same type, for a number above zero. -/
def opposite? : Literal → Option Literal
  | .int value => if 0 < value.toInt then some (.int (-value)) else none
  | .long value => if 0 < value.toInt then some (.long (-value)) else none
  | .float value => if 0 < value.mantissa then some (.float value.opposite) else none
  | .double value => if 0 < value.mantissa then some (.double value.opposite) else none
  | .chararray _ => none

theorem toInt_neg_int32 {n : Int32} (h : 0 < n.toInt) : (-n).toInt = -n.toInt := by
  have hlt := n.toInt_lt
  rw [Int32.toInt_neg]
  exact Int.bmod_eq_of_le (by omega) (by omega)

theorem toInt_neg_int64 {n : Int64} (h : 0 < n.toInt) : (-n).toInt = -n.toInt := by
  have hlt := n.toInt_lt
  rw [Int64.toInt_neg]
  exact Int.bmod_eq_of_le (by omega) (by omega)

/-- `opposite?` puts a minus sign before a number above zero. -/
theorem chars_of_opposite? {l m : Literal} (h : l.opposite? = some m) :
    l.isNegative = false ∧ m.isNegative = true ∧ m.chars = '-' :: l.chars := by
  have hdecimal : ∀ d : Decimal, 0 < d.mantissa →
      d.isNegative = false ∧ d.opposite.isNegative = true ∧ d.opposite.chars = '-' :: d.chars := by
    intro d hpos
    have hd : d.isNegative = false := decide_eq_false (by omega)
    have hopposite : d.opposite.isNegative = true :=
      decide_eq_true (show -d.mantissa < 0 by omega)
    have hnatAbs : d.opposite.mantissa.natAbs = d.mantissa.natAbs := Int.natAbs_neg _
    refine ⟨hd, hopposite, ?_⟩
    rw [Decimal.chars, Decimal.chars, hd, hopposite, hnatAbs]
    rfl
  cases l with
  | int value =>
    obtain ⟨hpos, ⟨⟩⟩ := Option.ite_none_right_eq_some.1 h
    have hnonneg : ¬value.toInt < 0 := by omega
    simp [isNegative, chars, Text.integer, toInt_neg_int32 hpos, hpos, hnonneg]
  | long value =>
    obtain ⟨hpos, ⟨⟩⟩ := Option.ite_none_right_eq_some.1 h
    have hnonneg : ¬value.toInt < 0 := by omega
    simp [isNegative, chars, Text.integer, toInt_neg_int64 hpos, hpos, hnonneg]
  | float value =>
    obtain ⟨hpos, ⟨⟩⟩ := Option.ite_none_right_eq_some.1 h
    obtain ⟨hd, hopposite, hchars⟩ := hdecimal value hpos
    exact ⟨hd, hopposite, by simp [chars, hchars]⟩
  | double value =>
    obtain ⟨hpos, ⟨⟩⟩ := Option.ite_none_right_eq_some.1 h
    exact hdecimal value hpos
  | chararray text => cases h

/-! ## One numeral with both signs -/

theorem opposite?_of_int? {n : Int} {l m : Literal} (hl : int? n = some l)
    (hm : int? (-n) = some m) (hnegative : m.isNegative = true) : l.opposite? = some m := by
  obtain ⟨⟨hmin, hmax⟩, ⟨⟩⟩ := Option.ite_none_right_eq_some.1 hl
  obtain ⟨⟨hmin', hmax'⟩, ⟨⟩⟩ := Option.ite_none_right_eq_some.1 hm
  rw [Int32.toInt_minValue] at hmin hmin'
  rw [Int32.toInt_maxValue] at hmax hmax'
  have hvalue : (Int32.ofInt n).toInt = n := Int32.toInt_ofInt_of_le (by omega) (by omega)
  have hvalue' : (Int32.ofInt (-n)).toInt = -n := Int32.toInt_ofInt_of_le (by omega) (by omega)
  have hpos : 0 < n := by
    have hlt : (Int32.ofInt (-n)).toInt < 0 := of_decide_eq_true hnegative
    omega
  rw [opposite?, hvalue, if_pos hpos, Int32.neg_ofInt]

theorem opposite?_of_long? {n : Int} {l m : Literal} (hl : long? n = some l)
    (hm : long? (-n) = some m) (hnegative : m.isNegative = true) : l.opposite? = some m := by
  obtain ⟨⟨hmin, hmax⟩, ⟨⟩⟩ := Option.ite_none_right_eq_some.1 hl
  obtain ⟨⟨hmin', hmax'⟩, ⟨⟩⟩ := Option.ite_none_right_eq_some.1 hm
  rw [Int64.toInt_minValue] at hmin hmin'
  rw [Int64.toInt_maxValue] at hmax hmax'
  have hvalue : (Int64.ofInt n).toInt = n := Int64.toInt_ofInt_of_le (by omega) (by omega)
  have hvalue' : (Int64.ofInt (-n)).toInt = -n := Int64.toInt_ofInt_of_le (by omega) (by omega)
  have hpos : 0 < n := by
    have hlt : (Int64.ofInt (-n)).toInt < 0 := of_decide_eq_true hnegative
    omega
  rw [opposite?, hvalue, if_pos hpos, Int64.neg_ofInt]

end Literal

namespace Decimal

theorem ofParts?_neg (mantissa : Int) (scale : Nat) :
    ofParts? (-mantissa) scale = (ofParts? mantissa scale).map opposite := by
  by_cases h : mantissa.natAbs ≤ maxMantissa ∧ scale ≤ maxScale
  · simp [ofParts?, h, opposite]
  · simp only [ofParts?, Int.natAbs_neg, dif_neg h, Option.map_none]

theorem ofDigits?_neg (mantissa : Int) (scale : Nat) :
    ofDigits? (-mantissa) scale = (ofDigits? mantissa scale).map opposite := by
  have hmod : (-mantissa) % 10 = 0 ↔ mantissa % 10 = 0 := by omega
  unfold ofDigits?
  rw [ofParts?_neg]
  cases ofParts? mantissa scale with
  | some d => rfl
  | none =>
    simp only [Option.map_none, hmod]
    split
    · next h =>
      have hdiv : -mantissa / 10 = -(mantissa / 10) := by omega
      rw [hdiv, ofParts?_neg]
    · rfl

end Decimal

namespace Literal

/-- If `ofNumeral?` makes a negative constant of a numeral with a sign, then it makes the
`opposite?` of that without one. -/
theorem opposite?_of_ofNumeral? {numeral : Numeral} {l m : Literal}
    (hl : ofNumeral? false numeral = some l) (hm : ofNumeral? true numeral = some m)
    (hnegative : m.isNegative = true) : l.opposite? = some m := by
  have hsigned : ∀ n, signed true n = -signed false n := fun _ => rfl
  have hpos : ∀ d : Decimal, d.opposite.isNegative = true → 0 < d.mantissa := by
    intro d h
    have hlt : -d.mantissa < 0 := of_decide_eq_true h
    omega
  cases numeral with
  | int digits => exact opposite?_of_int? hl hm hnegative
  | long digits => exact opposite?_of_long? hl hm hnegative
  | float digits scale =>
    rw [ofNumeral?, hsigned, Decimal.ofDigits?_neg, Option.map_map] at hm
    obtain ⟨d, hd, rfl⟩ := Option.map_eq_some_iff.1 hl
    rw [hd] at hm
    cases hm
    exact if_pos (hpos d hnegative)
  | double digits scale =>
    rw [ofNumeral?, hsigned, Decimal.ofDigits?_neg, Option.map_map] at hm
    obtain ⟨d, hd, rfl⟩ := Option.map_eq_some_iff.1 hl
    rw [hd] at hm
    cases hm
    exact if_pos (hpos d hnegative)

end Literal

end PigLatin
