import PigLatin.Proofs.Document.Expression

/-!
# Descriptions that are read as meant

The description of an expression names its parts by their own texts. The readers of the parts accept
these texts, however they check them, so a description is read as the expression that it was made
for.
-/

namespace PigLatin

/-- The constant can be described by a number or by text: its number is read as a constant of its
own type. -/
def Literal.IsDescribable : Literal → Prop
  | .int _ => True
  | .long value => ¬(Int32.minValue.toInt ≤ value.toInt ∧ value.toInt ≤ Int32.maxValue.toInt)
  | .float _ => False
  | .double _ => False
  | .chararray _ => True

/-- Every constant of the expression can be described. -/
inductive Expr.IsDescribable : Expr → Prop where
  | reference (name : FieldName) (type : DataType) : IsDescribable (.reference name type)
  | literal {value : Literal} (h : value.IsDescribable) : IsDescribable (.literal value)
  | suffixed {operand : Expr} (op : OperatorText) (override : Option DataType)
      (hoperand : IsDescribable operand) : IsDescribable (.suffixed operand op override)
  | prefixed (op : OperatorText) {operand : Expr} (override : Option DataType)
      (hoperand : IsDescribable operand) : IsDescribable (.prefixed op operand override)
  | binary {left right : Expr} (op : BinaryOperator) (override : Option DataType)
      (hleft : IsDescribable left) (hright : IsDescribable right) :
      IsDescribable (.binary left op right override)
  | call (function : FunctionName) {arguments : List Expr} (override : Option DataType)
      (harguments : ∀ e ∈ arguments, IsDescribable e) :
      IsDescribable (.call function arguments override)

namespace Document

/-- The member for a type, if there is a type. -/
def typeMembers : Option DataType → Members
  | some type => [("type", .string type.keyword)]
  | none => []

/-- The number or text that describes a constant, if there is any. -/
def constant? : Literal → Option Json
  | .int value => some (.number (.integer value.toInt))
  | .long value => some (.number (.integer value.toInt))
  | .float _ => none
  | .double _ => none
  | .chararray text => some (.string text)

/-- The value describes the expression. The members of each object are in the order of their
keys. -/
inductive Describes : Json → Expr → Prop where
  | reference (name : FieldName) (declared : Option DataType) :
      Describes (.object (("field", .string name.text) :: typeMembers declared))
        (.reference name (declared.getD .bytearray))
  | literal {value : Literal} {constant : Json} (hconstant : constant? value = some constant)
      (h : value.IsDescribable) : Describes (.object [("literal", constant)]) (.literal value)
  | suffixed {doc : Json} {operand : Expr} (op : OperatorText) (override : Option DataType)
      (hoperand : Describes doc operand) :
      Describes (.object (("operand", doc) :: ("suffix", .string op.text) :: typeMembers override))
        (.suffixed operand op override)
  | prefixed {doc : Json} {operand : Expr} (op : OperatorText) (override : Option DataType)
      (hoperand : Describes doc operand) :
      Describes (.object (("operand", doc) :: ("prefix", .string op.text) :: typeMembers override))
        (.prefixed op operand override)
  | cast {doc : Json} {operand : Expr} (target : DataType) (hoperand : Describes doc operand) :
      Describes (.object [("cast", .string target.keyword), ("operand", doc)])
        (operand.cast target)
  | binary {leftDoc rightDoc : Json} {left right : Expr} (op : BinaryOperator)
      (override : Option DataType) (hleft : Describes leftDoc left)
      (hright : Describes rightDoc right) :
      Describes (.object (("binary", .string op.symbol) :: ("left", leftDoc) ::
        ("right", rightDoc) :: typeMembers override)) (.binary left op right override)
  | call (function : FunctionName) (arguments : List (Json × Expr)) (override : Option DataType)
      (harguments : ∀ argument ∈ arguments, Describes argument.1 argument.2) :
      Describes (.object (("args", .array (arguments.map Prod.fst)) ::
        ("call", .string function.text) :: typeMembers override))
        (.call function (arguments.map Prod.snd) override)

/-! ## Reading the parts -/

theorem typeMember?_of_get? {members : Members} {override : Option DataType}
    (h : members.get? "type" = override.map fun type => .string type.keyword) :
    typeMember? members = .ok override := by
  cases override with
  | none => exact typeMember?_eq_ok_iff.2 (.inl ⟨h, rfl⟩)
  | some type => exact typeMember?_eq_ok_iff.2 (.inr ⟨_, type, h, type.parse_keyword, rfl⟩)

theorem get?_typeMembers (override : Option DataType) : Dictionary.get? "type"
    (typeMembers override) = override.map fun type => .string type.keyword := by
  cases override <;> rfl

/-- `readLiteral` reads the number that `constant?` writes for a whole number as one of the same
type. -/
theorem readLiteral_of_describable {value : Literal} {constant : Json}
    (hconstant : constant? value = some constant) (h : value.IsDescribable) :
    readLiteral constant = .ok value := by
  cases value with
  | int value =>
    cases hconstant
    simp only [readLiteral, numberLiteral, value.minValue_le_toInt, value.toInt_le, and_self,
      if_true, Int32.ofInt_toInt]
  | long value =>
    cases hconstant
    have hint : ¬(Int32.minValue.toInt ≤ value.toInt ∧ value.toInt ≤ Int32.maxValue.toInt) := h
    simp only [readLiteral, numberLiteral, if_neg hint, value.minValue_le_toInt, value.toInt_le,
      and_self, if_true, Int64.ofInt_toInt]
  | float value => cases hconstant
  | double value => cases hconstant
  | chararray text =>
    cases hconstant
    rfl

/-- `readArguments` reads the array of described arguments as the arguments. -/
theorem readArguments_of_forall {members : Members} {arguments : List (Json × Expr)}
    (hmember : members.get? "args" = some (.array (arguments.map Prod.fst)))
    (h : ∀ argument ∈ arguments, readExpr argument.1 = .ok argument.2) :
    readArguments members = .ok (arguments.map Prod.snd) := by
  refine readArguments_eq_ok_iff.2 ⟨_, .items hmember, Except.mapM_eq_ok_iff.2 ?_⟩
  rw [List.forall₂_map_left_iff, List.forall₂_map_right_iff]
  exact List.forall₂_same.2 h

/-! ## Reading the whole -/

/-- `readExpr` reads every description that `Describes` allows as the expression that it
describes. -/
theorem readExpr_of_describes {doc : Json} {e : Expr} (h : Describes doc e) :
    readExpr doc = .ok e := by
  induction h with
  | reference name declared =>
    have htype := typeMember?_of_get? (get?_typeMembers declared)
    exact (readExpr_field_eq_ok_iff (by cases declared <;> rfl)).2
      ⟨name, declared, rfl, htype, rfl⟩
  | literal hconstant h =>
    exact (readExpr_literal_eq_ok_iff rfl).2
      ⟨_, _, rfl, readLiteral_of_describable hconstant h, rfl⟩
  | suffixed op override _ ih =>
    have htype := typeMember?_of_get? (get?_typeMembers override)
    exact (readExpr_suffixed_eq_ok_iff (by cases override <;> rfl)).2
      ⟨op.text, op, _, override, rfl, op.parse_text _,
        readExprMember_eq_ok_iff.2 ⟨_, rfl, ih⟩, htype, rfl⟩
  | prefixed op override _ ih =>
    have htype := typeMember?_of_get? (get?_typeMembers override)
    exact (readExpr_prefixed_eq_ok_iff (by cases override <;> rfl)).2
      ⟨op.text, op, _, override, rfl, op.parse_text _,
        readExprMember_eq_ok_iff.2 ⟨_, rfl, ih⟩, htype, rfl⟩
  | cast target _ ih =>
    exact (readExpr_cast_eq_ok_iff rfl).2
      ⟨_, target, _, rfl, target.parse_keyword, readExprMember_eq_ok_iff.2 ⟨_, rfl, ih⟩, rfl⟩
  | binary op override _ _ ihleft ihright =>
    have htype := typeMember?_of_get? (get?_typeMembers override)
    exact (readExpr_binary_eq_ok_iff (by cases override <;> rfl)).2
      ⟨op.symbol, op, _, _, override, rfl, op.parse_symbol,
        readExprMember_eq_ok_iff.2 ⟨_, rfl, ihleft⟩,
        readExprMember_eq_ok_iff.2 ⟨_, rfl, ihright⟩, htype, rfl⟩
  | call function arguments override _ ih =>
    have htype := typeMember?_of_get? (get?_typeMembers override)
    exact (readExpr_call_eq_ok_iff (by cases override <;> rfl)).2
      ⟨function, _, override, rfl, readArguments_of_forall rfl ih, htype, rfl⟩

theorem exists_described {es : List Expr} (h : ∀ e ∈ es, ∃ doc, Describes doc e) :
    ∃ described : List (Json × Expr), (∀ argument ∈ described, Describes argument.1 argument.2) ∧
      described.map Prod.snd = es := by
  induction es with
  | nil => exact ⟨[], by simp, rfl⟩
  | cons e es ih =>
    obtain ⟨⟨doc, hdoc⟩, hes⟩ := List.forall_mem_cons.1 h
    obtain ⟨described, hdescribed, rfl⟩ := ih hes
    exact ⟨(doc, e) :: described, List.forall_mem_cons.2 ⟨hdoc, hdescribed⟩, rfl⟩

/-- Every expression that `IsDescribable` has a description. -/
theorem exists_describes {e : Expr} (h : e.IsDescribable) : ∃ doc, Describes doc e := by
  induction h with
  | reference name type => exact ⟨_, .reference name (some type)⟩
  | @literal value h =>
    cases value with
    | int | long | chararray => exact ⟨_, .literal rfl h⟩
    | float | double => cases h
  | suffixed op override _ ih =>
    obtain ⟨doc, hdoc⟩ := ih
    exact ⟨_, .suffixed op override hdoc⟩
  | prefixed op override _ ih =>
    obtain ⟨doc, hdoc⟩ := ih
    exact ⟨_, .prefixed op override hdoc⟩
  | binary op override _ _ ihleft ihright =>
    obtain ⟨leftDoc, hleft⟩ := ihleft
    obtain ⟨rightDoc, hright⟩ := ihright
    exact ⟨_, .binary op override hleft hright⟩
  | @call function arguments override _ ih =>
    obtain ⟨described, hdescribed, rfl⟩ := exists_described ih
    exact ⟨_, .call function described override hdescribed⟩

/-- An expression whose constants can be described has a description, and whichever description of
it `readExpr` reads, the result is written, typed and put between parentheses like the
expression. -/
theorem readExpr_faithful {e : Expr} (h : e.IsDescribable) : (∃ doc, Describes doc e) ∧
    ∀ doc, Describes doc e → ∃ result, readExpr doc = .ok result ∧ result.render = e.render ∧
      result.type = e.type ∧ result.isSimple = e.isSimple ∧
        result.parenthesized = e.parenthesized :=
  ⟨exists_describes h, fun _ hdoc => ⟨e, readExpr_of_describes hdoc, rfl, rfl, rfl, rfl⟩⟩

/-- The description of a conversion within the call of a function, with a number that only fits a
`long`. -/
theorem readExpr_call_cast_long : ∃ result,
    readExpr (.object [("args", .array [.object [("cast", .string "chararray"),
      ("operand", .object [("literal", .number (.integer 2147483648))])]]),
      ("call", .string "SIZE"), ("type", .string "long")]) = .ok result ∧
        result.render = "SIZE((chararray)2147483648L)" ∧ result.type = .long ∧
          result.isSimple = false ∧ result.parenthesized = "(SIZE((chararray)2147483648L))" := by
  have hlong : Literal.IsDescribable (.long 2147483648) := by
    unfold Literal.IsDescribable
    decide
  have hcast : Describes (.object [("cast", .string "chararray"),
      ("operand", .object [("literal", .number (.integer 2147483648))])])
      ((Expr.literal (.long 2147483648)).cast .chararray) :=
    .cast .chararray (.literal rfl hlong)
  have hcall := Describes.call ⟨"SIZE", by decide⟩ [(_, _)] (some .long)
    (fun _ hargument => List.mem_singleton.1 hargument ▸ hcast)
  have hdescribable : Expr.IsDescribable (.call ⟨"SIZE", by decide⟩
      [(Expr.literal (.long 2147483648)).cast .chararray] (some .long)) :=
    .call _ _ fun _ hargument => List.mem_singleton.1 hargument ▸ .prefixed _ _ (.literal hlong)
  obtain ⟨result, hread, hrender, htype, hsimple, hparenthesized⟩ :=
    (readExpr_faithful hdescribable).2 _ hcall
  exact ⟨result, hread, hrender.trans (by decide +kernel), htype, hsimple,
    hparenthesized.trans (by decide +kernel)⟩

end Document

end PigLatin
