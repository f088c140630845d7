import PigLatin.Proofs.Decimal
import PigLatin.Proofs.Expr.Basic
import PigLatin.Proofs.Literal.Reader

/-!
# Constants read back as what they are

Reading the text of a constant gives a constant of the same type that stands for the same number or
text. So the text of a constant tells both. The sign of a number shows in its first character.
-/

namespace PigLatin

namespace Literal

/-! ## What constants stand for -/

/-- What a constant stands for, whatever its type. -/
inductive Content where
  | number (value : ℚ)
  | text (text : String)

/-- What the constant stands for. -/
def content : Literal → Content
  | .int value => .number value.toInt
  | .long value => .number value.toInt
  | .float value => .number value.toRat
  | .double value => .number value.toRat
  | .chararray text => .text text

/-- Constants of one type with one `content` are the same but for the number of decimals. -/
theorem sameValue_iff {l m : Literal} :
    l.SameValue m ↔ l.type = m.type ∧ l.content = m.content := by
  cases l with
  | int a =>
    cases m with
    | int b => simp [SameValue, type, content, Int32.toInt_inj]
    | long | float | double | chararray =>
      refine iff_of_false id ?_
      rintro ⟨⟨⟩, -⟩
  | long a =>
    cases m with
    | long b => simp [SameValue, type, content, Int64.toInt_inj]
    | int | float | double | chararray =>
      refine iff_of_false id ?_
      rintro ⟨⟨⟩, -⟩
  | float a =>
    cases m with
    | float b => simp [SameValue, type, content, Decimal.sameValue_iff_toRat_eq]
    | int | long | double | chararray =>
      refine iff_of_false id ?_
      rintro ⟨⟨⟩, -⟩
  | double a =>
    cases m with
    | double b => simp [SameValue, type, content, Decimal.sameValue_iff_toRat_eq]
    | int | long | float | chararray =>
      refine iff_of_false id ?_
      rintro ⟨⟨⟩, -⟩
  | chararray s =>
    cases m with
    | chararray t => simp [SameValue, type, content]
    | int | long | float | double =>
      refine iff_of_false id ?_
      rintro ⟨⟨⟩, -⟩

/-! ## Reading back -/

theorem sameValue_normalForm (l : Literal) : l.SameValue l.normalForm := by
  have hdecimal : ∀ d : Decimal, d.SameValue d.normalForm := by
    intro d
    rcases d.normalForm_cases with heq | ⟨-, -, h⟩
    · rw [heq]
      rfl
    · exact h
  cases l with
  | float value => exact hdecimal value
  | double value => exact hdecimal value
  | int | long | chararray => rfl

theorem toList_render (l : Literal) : l.render.toList = l.chars := String.toList_ofList

/-- The text of a constant has the `content` of the constant. -/
theorem content_of_read_render (l : Literal) :
    (read l.render.toList).map content = some l.content := by
  rw [toList_render, read_chars, Option.map_some, (sameValue_iff.1 l.sameValue_normalForm).2]

theorem head?_chars_eq_iff (l : Literal) : l.chars.head? = some '-' ↔ l.isNegative = true := by
  cases hnegative : l.isNegative with
  | true => simp [chars_of_isNegative hnegative]
  | false =>
    rw [chars_of_not_isNegative hnegative]
    refine iff_of_false ?_ nofun
    rcases l.unsigned_cases with ⟨s, rfl⟩ | ⟨-, c, cs, heq, hdigit⟩
    · nofun
    · rw [heq]
      rintro ⟨⟩
      cases hdigit

/-- The text that `render` writes for a constant, read as a whole, gives a constant of the same type
and value. The constant `isSimple` exactly if its text does not start with a minus sign. Constants
that are written alike are of one type and have one value. -/
theorem read_render_sameValue (l : Literal) :
    (∃ m, read l.render.toList = some m ∧ l.SameValue m) ∧
      ((Expr.literal l).isSimple = true ↔ l.render.toList.head? ≠ some '-') ∧
        ∀ m : Literal, l.render = m.render → l.SameValue m := by
  refine ⟨⟨l.normalForm, ?_, l.sameValue_normalForm⟩, ?_, fun m h => ?_⟩
  · rw [toList_render, read_chars]
  · rw [toList_render, ne_eq, head?_chars_eq_iff, Expr.isSimple, Bool.not_eq_true',
      Bool.not_eq_true]
  · have hnormal : l.normalForm = m.normalForm := by
      rw [← chars_eq_iff_normalForm_eq, ← toList_render, h, toList_render]
    obtain ⟨htype, hcontent⟩ := sameValue_iff.1 l.sameValue_normalForm
    obtain ⟨htype', hcontent'⟩ := sameValue_iff.1 m.sameValue_normalForm
    rw [sameValue_iff, htype, hcontent, hnormal, htype', hcontent']
    exact ⟨rfl, rfl⟩

/-- A `double` without decimals and one with a zero after the point are both written `3.0`. -/
theorem sameValue_three_of_render :
    let three : Decimal := ⟨3, 0, by decide, by decide⟩
    let threePointZero : Decimal := ⟨30, 1, by decide, by decide⟩
    (double three).render = "3.0" ∧ (double threePointZero).render = "3.0" ∧
      (double three).SameValue (double threePointZero) := by
  intro three threePointZero
  have hthree : (double three).render = "3.0" := by decide
  have hthreePointZero : (double threePointZero).render = "3.0" := by decide
  obtain ⟨-, -, hsame⟩ := read_render_sameValue (double three)
  exact ⟨hthree, hthreePointZero, hsame _ (hthree.trans hthreePointZero.symm)⟩

end Literal

end PigLatin
