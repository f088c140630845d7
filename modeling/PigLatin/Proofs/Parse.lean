import PigLatin.BinaryOperator
import PigLatin.Name
import PigLatin.OperatorText
import PigLatin.Proofs.Word
import PigLatin.Statement

/-!
# Reading the parts of an expression

Names, keywords, symbols and operators are read back from their own texts.
-/

namespace PigLatin

@[simp] theorem DataType.parse_keyword (t : DataType) : DataType.parse t.keyword = .ok t := by
  cases t <;> rfl

@[simp] theorem BinaryOperator.parse_symbol (op : BinaryOperator) :
    BinaryOperator.parse op.symbol = .ok op := by
  cases op <;> rfl

@[simp] theorem OperatorText.parse_text (part : Part) (op : OperatorText) :
    OperatorText.parse part op.text = .ok op := by
  simp only [OperatorText.parse, op.trimmed, dif_neg op.nonempty]

theorem OperatorText.parse_eq_ok_iff {part : Part} {s : String} {op : OperatorText} :
    OperatorText.parse part s = .ok op ↔ op.text = Text.trim s := by
  constructor
  · intro h
    unfold OperatorText.parse at h
    split at h
    · cases h
    · cases h
      rfl
  · intro heq
    obtain ⟨text, trimmed, nonempty⟩ := op
    obtain rfl : text = Text.trim s := heq
    simp only [OperatorText.parse, dif_neg nonempty]

/-- `OperatorText.parse` accepts any text that is not blank. -/
theorem OperatorText.exists_parse_iff {part : Part} {s : String} :
    (∃ op, OperatorText.parse part s = .ok op) ↔ Text.isBlank s = false := by
  rw [← Bool.not_eq_true, Text.isBlank_iff]
  constructor
  · rintro ⟨op, hop⟩ hblank
    exact op.nonempty ((OperatorText.parse_eq_ok_iff.1 hop).trans hblank)
  · intro hne
    exact ⟨⟨Text.trim s, Text.trim_trim s, hne⟩, OperatorText.parse_eq_ok_iff.2 rfl⟩

/-! ## Names -/

theorem Alias.parse_eq_ok_iff {s : String} {name : Alias} :
    Alias.parse s = .ok name ↔ name.text = s := by
  constructor
  · intro h
    unfold Alias.parse at h
    split at h
    · cases h
    · split at h
      · cases h
        rfl
      · cases h
  · rintro rfl
    have hne : name.text ≠ "" := by
      intro h
      have hvalid := name.valid
      rw [h] at hvalid
      exact absurd hvalid (by decide)
    simp only [Alias.parse, if_neg hne, dif_pos name.valid]

@[simp] theorem FieldName.parse_text (name : FieldName) : FieldName.parse name.text = .ok name := by
  have hne : name.text ≠ "" := by
    intro h
    have hvalid := name.valid
    rw [h] at hvalid
    exact absurd hvalid (by decide)
  simp only [FieldName.parse, if_neg hne, dif_pos name.valid]

theorem FieldName.parse_eq_ok_iff {s : String} {name : FieldName} :
    FieldName.parse s = .ok name ↔ name.text = s := by
  constructor
  · intro h
    unfold FieldName.parse at h
    split at h
    · cases h
    · split at h
      · cases h
        rfl
      · cases h
  · rintro rfl
    exact FieldName.parse_text name

/-- What `FieldName.parse` accepts is a word. -/
theorem FieldName.isWord_of_parse {s : String} {name : FieldName}
    (h : FieldName.parse s = .ok name) : IsWord s.toList := by
  unfold FieldName.parse at h
  split at h
  · cases h
  · split at h
    · next hvalid => exact FieldName.isWord ⟨s, hvalid⟩
    · cases h

theorem toNat_of_starts {c : Char} (h : functionForm.starts c = true) :
    (65 ≤ c.toNat ∧ c.toNat ≤ 90) ∨ (97 ≤ c.toNat ∧ c.toNat ≤ 122) ∨ c.toNat = 95 := by
  rcases Bool.or_eq_true_iff.1 h with halpha | hunderscore
  · rcases Bool.or_eq_true_iff.1 halpha with hupper | hlower
    · obtain ⟨hfirst, hlast⟩ := of_decide_eq_true hupper
      exact .inl ⟨hfirst, hlast⟩
    · obtain ⟨hfirst, hlast⟩ := Bool.and_eq_true_iff.1 hlower
      exact .inr (.inl ⟨of_decide_eq_true hfirst, of_decide_eq_true hlast⟩)
  · rw [eq_of_beq hunderscore]
    exact .inr (.inr rfl)

/-- In `functionForm` names start neither with white space nor with a digit. -/
theorem not_isWhiteSpace_of_starts {c : Char} (h : functionForm.starts c = true) :
    Unicode.isWhiteSpace c = false := by
  have hbounds := toNat_of_starts h
  have hnot : ¬Unicode.isWhiteSpace c = true := by
    simp [Unicode.isWhiteSpace, Unicode.RangeTable.contains, Unicode.whiteSpaceRanges]
    omega
  simpa using hnot

theorem not_isDigit_of_starts {c : Char} (h : functionForm.starts c = true) :
    c.isDigit = false := by
  have hbounds := toNat_of_starts h
  have hnot : ¬c.isDigit = true := by
    rw [Char.isDigit_iff_toNat]
    have hzero : '0'.toNat = 48 := rfl
    have hnine : '9'.toNat = 57 := rfl
    omega
  simpa using hnot

theorem FieldName.exists_head (name : FieldName) :
    ∃ c cs, name.text.toList = c :: cs ∧ c.isDigit = false := by
  rcases Bool.or_eq_true_iff.1 name.valid with hposition | hname
  · obtain ⟨digits, heq, -⟩ := isPosition_iff.1 hposition
    exact ⟨'$', digits, heq, rfl⟩
  · obtain ⟨c, cs, heq, hc⟩ := NameForm.exists_starts_of_accepts hname
    exact ⟨c, cs, heq, not_isDigit_of_starts (Bool.or_eq_true_iff.2 (.inl hc))⟩

theorem FunctionName.exists_head (name : FunctionName) :
    ∃ c cs, name.text.toList = c :: cs ∧ c.isDigit = false := by
  obtain ⟨c, cs, heq, hc⟩ := NameForm.exists_starts_of_accepts name.valid
  exact ⟨c, cs, heq, not_isDigit_of_starts hc⟩

@[simp] theorem FunctionName.parse_text (name : FunctionName) :
    FunctionName.parse name.text = .ok name := by
  have hblank : Text.isBlank name.text = false := by
    obtain ⟨c, rest, heq, hc⟩ := NameForm.exists_starts_of_accepts name.valid
    simp [Text.isBlank, heq, not_isWhiteSpace_of_starts hc]
  simp only [FunctionName.parse, hblank, dif_pos name.valid]
  rfl

theorem FunctionName.parse_eq_ok_iff {s : String} {name : FunctionName} :
    FunctionName.parse s = .ok name ↔ name.text = s := by
  constructor
  · intro h
    unfold FunctionName.parse at h
    split at h
    · cases h
    · split at h
      · cases h
        rfl
      · cases h
  · rintro rfl
    exact FunctionName.parse_text name

/-! ## Paths -/

theorem StorePath.parse_eq_ok_iff {s : String} {path : StorePath} :
    StorePath.parse s = .ok path ↔ path.text = s := by
  constructor
  · intro h
    unfold StorePath.parse at h
    split at h
    · cases h
    · cases h
      rfl
  · rintro rfl
    have hblank : ¬Text.isBlank path.text = true := Bool.eq_false_iff.1 path.nonblank
    simp only [StorePath.parse, dif_neg hblank]

end PigLatin
