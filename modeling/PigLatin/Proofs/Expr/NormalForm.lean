import PigLatin.Proofs.Expr.Alike

/-!
# Expressions up to what their text cannot tell

The written form of an expression shows no types, apart from those that a value is converted to, and
a few different nodes look alike in it. The normal form of an expression forgets the types and keeps
one of the nodes that look alike.
-/

namespace PigLatin

/-- The field whose name reads like the operator of a sort key. -/
def OperatorText.fieldName? (op : OperatorText) : Option FieldName :=
  if op = .asc then some .asc else if op = .desc then some .desc else none

theorem OperatorText.eq_of_fieldName? {op : OperatorText} {name : FieldName}
    (h : op.fieldName? = some name) : op = .asc ∧ name = .asc ∨ op = .desc ∧ name = .desc := by
  unfold fieldName? at h
  split at h
  · next hasc =>
    cases h
    exact .inl ⟨hasc, rfl⟩
  · split at h
    · next hdesc =>
      cases h
      exact .inr ⟨hdesc, rfl⟩
    · cases h

theorem OperatorText.text_of_fieldName? {op : OperatorText} {name : FieldName}
    (h : op.fieldName? = some name) : name.text = op.text := by
  rcases eq_of_fieldName? h with ⟨rfl, rfl⟩ | ⟨rfl, rfl⟩ <;> rfl

namespace Expr

/-- The expression refers to the field `NOT`. -/
def isFieldNot : Expr → Bool
  | .reference name _ => name = .not
  | _ => false

/-- The negative constant that a sign before the expression makes of it. -/
def opposite? : Expr → Option Literal
  | .literal value => value.opposite?
  | _ => none

/-- An operator after an operand in normal form. A sort key by the field `NOT` looks like the
negation of a field that is named like the order. -/
def suffixedForm (operand : Expr) (op : OperatorText) : Expr :=
  match op.fieldName? with
  | some name =>
    if operand.isFieldNot then .prefixed .not (.reference name .bytearray) none
    else .suffixed operand op none
  | none => .suffixed operand op none

/-- An operator before an operand in normal form. A minus sign before a number above zero looks like
the sign of a negative number. -/
def prefixedForm (op : OperatorText) (operand : Expr) : Expr :=
  match if op = .minus then operand.opposite? else none with
  | some value => .literal value
  | none => .prefixed op operand none

mutual

/-- The expression without its types, with one node in the place of those that look alike. -/
def normalForm : Expr → Expr
  | .reference name _ => .reference name .bytearray
  | .literal value => .literal value.normalForm
  | .suffixed operand op _ => suffixedForm operand.normalForm op
  | .prefixed op operand _ => prefixedForm op operand.normalForm
  | .binary left op right _ => .binary left.normalForm op right.normalForm none
  | .call function arguments _ => .call function (normalForms arguments) none

/-- The expressions in normal form, one by one. -/
def normalForms : List Expr → List Expr
  | [] => []
  | e :: es => e.normalForm :: normalForms es

end

theorem normalForms_eq_map (es : List Expr) : normalForms es = es.map normalForm := by
  induction es with
  | nil => simp [normalForms]
  | cons e es ih => simp [normalForms, ih]

/-! ## The normal form looks alike -/

/-- `suffixedForm` looks like the operator behind its operand. -/
theorem alike_suffixedForm (operand : Expr) (op : OperatorText) (override : Option DataType) :
    Alike (suffixed operand op override) (suffixedForm operand op) := by
  have herased : Alike (suffixed operand op override) (suffixed operand op none) :=
    .suffixed op override none (.refl _)
  unfold suffixedForm
  split
  · next name hname =>
    split
    · next hnot =>
      cases operand with
      | reference fieldName type =>
        obtain rfl : fieldName = .not := of_decide_eq_true hnot
        refine herased.trans ?_
        rcases OperatorText.eq_of_fieldName? hname with ⟨rfl, rfl⟩ | ⟨rfl, rfl⟩
        · exact (Alike.asc type .bytearray).trans (.prefixed .not _ none (.refl _))
        · exact (Alike.desc type .bytearray).trans (.prefixed .not _ none (.refl _))
      | literal | suffixed | prefixed | binary | call => cases hnot
    · exact herased
  · exact herased

/-- `prefixedForm` looks like the operator before its operand. -/
theorem alike_prefixedForm (op : OperatorText) (operand : Expr) (override : Option DataType) :
    Alike (prefixed op operand override) (prefixedForm op operand) := by
  have herased : Alike (prefixed op operand override) (prefixed op operand none) :=
    .prefixed op override none (.refl _)
  unfold prefixedForm
  split
  · next value hvalue =>
    obtain ⟨rfl, hopposite⟩ := Option.ite_none_right_eq_some.1 hvalue
    cases operand with
    | literal l => exact herased.trans (.negate hopposite)
    | reference | suffixed | prefixed | binary | call => cases hopposite
  · exact herased

theorem alike_literal (l : Literal) : Alike (literal l) (literal l.normalForm) := by
  cases l with
  | float value =>
    rcases value.normalForm_cases with heq | ⟨hscale, hscale', h⟩
    · rw [Literal.normalForm, heq]
      exact .refl _
    · exact .float hscale hscale' h
  | double value =>
    rcases value.normalForm_cases with heq | ⟨hscale, hscale', h⟩
    · rw [Literal.normalForm, heq]
      exact .refl _
    · exact .double hscale hscale' h
  | int | long | chararray => exact .refl _

/-- An expression and its `normalForm` are `Alike`. -/
theorem alike_normalForm (e : Expr) : Alike e e.normalForm := by
  induction e with
  | reference name type =>
    rw [normalForm]
    exact .reference name type .bytearray
  | literal value =>
    rw [normalForm]
    exact alike_literal value
  | suffixed operand op override ih =>
    rw [normalForm]
    exact (Alike.suffixed op override override ih).trans (alike_suffixedForm _ op override)
  | prefixed op operand override ih =>
    rw [normalForm]
    exact (Alike.prefixed op override override ih).trans (alike_prefixedForm op _ override)
  | binary left op right override ihleft ihright =>
    rw [normalForm]
    exact .binary op override none ihleft ihright
  | call function arguments override ih =>
    rw [normalForm, normalForms_eq_map]
    exact .call_map function arguments normalForm override none ih

theorem normalForm_written (e : Expr) :
    e.normalForm.isSimple = e.isSimple ∧ e.normalForm.render.toList = e.render.toList :=
  e.alike_normalForm.symm.written

end Expr

end PigLatin
