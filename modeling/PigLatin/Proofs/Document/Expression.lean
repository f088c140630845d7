import PigLatin.Document.Expression
import PigLatin.Proofs.Document.Member
import PigLatin.Proofs.Parse

/-!
# What descriptions are read as

For each kind of expression, the members that an object must have to be read as an expression of
that kind, and the expression that it is read as. The reader looks at no other members.
-/

namespace PigLatin.Document

variable {members members' : Members} {key : String}

namespace Kind

/-- The keys that are looked for before that of the kind. -/
def earlierKeys : Kind → List String
  | field => []
  | literal => ["field"]
  | suffixOp => ["field", "literal"]
  | prefixOp => ["field", "literal", "suffix"]
  | cast => ["field", "literal", "suffix", "prefix"]
  | binary => ["field", "literal", "suffix", "prefix", "cast"]
  | call => ["field", "literal", "suffix", "prefix", "cast", "binary"]

/-- `Kind.ofMembers?` finds the kind whose key is there while all the `earlierKeys` are not. -/
theorem ofMembers?_eq_some_iff {kind : Kind} :
    ofMembers? members = some kind ↔
      Lacks members kind.earlierKeys ∧ ∃ value, members.get? kind.key = some value := by
  cases kind with
  | field => exact find?_contains_eq_some_iff [] (by decide)
  | literal => exact find?_contains_eq_some_iff [field] (by decide)
  | suffixOp => exact find?_contains_eq_some_iff [field, literal] (by decide)
  | prefixOp => exact find?_contains_eq_some_iff [field, literal, suffixOp] (by decide)
  | cast => exact find?_contains_eq_some_iff [field, literal, suffixOp, prefixOp] (by decide)
  | binary =>
    exact find?_contains_eq_some_iff [field, literal, suffixOp, prefixOp, cast] (by decide)
  | call =>
    exact find?_contains_eq_some_iff [field, literal, suffixOp, prefixOp, cast, binary] (by decide)

/-- The keys that are looked for after that of the kind. -/
def laterKeys (kind : Kind) : List String :=
  (all.filter fun later => kind.key ∈ later.earlierKeys).map Kind.key

theorem ofMembers?_of_get? (kind : Kind) {value : Json} (hearlier : Lacks members kind.earlierKeys)
    (hvalue : members.get? kind.key = some value) : ofMembers? members = some kind :=
  ofMembers?_eq_some_iff.2 ⟨hearlier, value, hvalue⟩

/-- The key of the kind that `Kind.ofMembers?` finds is there. -/
theorem exists_get?_key {kind : Kind} (h : ofMembers? members = some kind) :
    ∃ value, members.get? kind.key = some value :=
  (ofMembers?_eq_some_iff.1 h).2

/-- `Kind.ofMembers?` finds the same kind, whatever is put under its `laterKeys`. -/
theorem ofMembers?_congr {kind : Kind} (hkind : ofMembers? members = some kind)
    (h : ∀ key, key ∉ kind.laterKeys → members.get? key = members'.get? key) :
    ofMembers? members' = some kind := by
  obtain ⟨hearlier, value, hvalue⟩ := ofMembers?_eq_some_iff.1 hkind
  have hnotLater : ∀ key ∈ kind.key :: kind.earlierKeys, key ∉ kind.laterKeys := by
    cases kind <;> decide
  refine ofMembers?_of_get? kind (fun key hkey => ?_) ((h _ ?_).symm.trans hvalue)
  · rw [← h key (hnotLater key (List.mem_cons_of_mem _ hkey)), hearlier key hkey]
  · exact hnotLater _ List.mem_cons_self

end Kind

/-! ## Values that describe no expression -/

theorem readExpr_of_ne_object {v : Json} (h : ∀ members, v ≠ .object members) :
    readExpr v = throwShape (.notObject .expression v) := by
  cases v with
  | object members => exact absurd rfl (h members)
  | null | bool | number | string | array => simp [readExpr]

theorem readExpr_of_no_kind (h : Kind.ofMembers? members = none) :
    readExpr (.object members) = throwShape (.notExpression (.object members)) := by
  simp only [readExpr, h]

/-! ## The parts of an expression -/

/-- `readExprMember` looks at the value under its key and at nothing else. -/
theorem readExprMember_eq (key : String) (members : Members) : readExprMember key members =
    ((members.get? key).map readExpr).getD (throwShape (.missing key)) :=
  Dictionary.eq_getD_map_get? (g := readExprMember key) rfl (fun _ _ _ => by rw [readExprMember])
    members

theorem readExprMember_eq_ok_iff {e : Expr} :
    readExprMember key members = .ok e ↔
      ∃ value, members.get? key = some value ∧ readExpr value = .ok e := by
  rw [readExprMember_eq]
  cases members.get? key <;> simp [throwShape]

theorem readExpr_of_readExprMember {e : Expr} {value : Json}
    (hvalue : members.get? key = some value) (h : readExprMember key members = .ok e) :
    readExpr value = .ok e := by
  obtain ⟨value', hvalue', hread⟩ := readExprMember_eq_ok_iff.1 h
  cases hvalue.symm.trans hvalue'
  exact hread

theorem readExprMember_congr (h : members.get? key = members'.get? key) :
    readExprMember key members = readExprMember key members' := by
  simp only [readExprMember_eq, h]

/-- `readArguments` looks at the value under `"args"` and at nothing else; without it there are no
arguments. -/
theorem readArguments_eq (members : Members) :
    readArguments members = ((members.get? "args").map readExprArray).getD (.ok []) :=
  Dictionary.eq_getD_map_get? (g := readArguments) rfl (fun _ _ _ => by rw [readArguments])
    members

/-- `readExprs` reads the values one after the other, and fails with the first that fails. -/
theorem readExprs_eq_mapM (values : List Json) : readExprs values = values.mapM readExpr := by
  induction values with
  | nil => rfl
  | cons value values ih => rw [readExprs, List.mapM_cons, ih]

theorem readArguments_congr (h : members.get? "args" = members'.get? "args") :
    readArguments members = readArguments members' := by
  simp only [readArguments_eq, h]

/-- The values that describe arguments: the items of the array under the key, or none at all if the
key is not there. -/
inductive HasArguments (members : Members) : List Json → Prop where
  | absent (hnone : members.get? "args" = none) : HasArguments members []
  | items {values : List Json} (hitems : members.get? "args" = some (.array values)) :
      HasArguments members values

theorem HasArguments.readArguments_eq {values : List Json} (h : HasArguments members values) :
    readArguments members = values.mapM readExpr := by
  rw [Document.readArguments_eq]
  cases h with
  | absent hnone =>
    rw [hnone]
    rfl
  | items hitems =>
    rw [hitems, ← readExprs_eq_mapM]
    rfl

/-- `readArguments` succeeds exactly if each value among the arguments is read by `readExpr`. -/
theorem readArguments_eq_ok_iff {arguments : List Expr} :
    readArguments members = .ok arguments ↔
      ∃ values, HasArguments members values ∧ values.mapM readExpr = .ok arguments := by
  constructor
  · intro h
    rw [readArguments_eq] at h
    cases hargs : members.get? "args" with
    | none =>
      rw [hargs] at h
      exact ⟨[], .absent hargs, h⟩
    | some value =>
      rw [hargs] at h
      cases value with
      | array values => exact ⟨values, .items hargs, readExprs_eq_mapM values ▸ h⟩
      | null | bool | number | string | object => cases h
  · rintro ⟨values, hvalues, h⟩
    rw [hvalues.readArguments_eq, h]

/-! ## Expressions by their kinds -/

section

variable {e : Expr}

/-- What `readExpr` asks of an object with a field: a name, and a type that can be read if there is
one. -/
theorem readExpr_field_eq_ok_iff (hkind : Kind.ofMembers? members = some .field) :
    readExpr (.object members) = .ok e ↔ ∃ name : FieldName, ∃ override,
      members.get? "field" = some (.string name.text) ∧ typeMember? members = .ok override ∧
        e = .reference name (override.getD .bytearray) := by
  simp only [readExpr, hkind, readReference, Except.bind_eq_ok_iff, stringMember_eq_ok_iff,
    liftBuild_eq_ok_iff, FieldName.parse_eq_ok_iff]
  constructor
  · rintro ⟨s, hs, override, htype, name, rfl, hpure⟩
    cases hpure
    exact ⟨name, override, hs, htype, rfl⟩
  · rintro ⟨name, override, hs, htype, rfl⟩
    exact ⟨name.text, hs, override, htype, name, rfl, rfl⟩

/-- What `readExpr` asks of an object with a constant. A type beside it is not looked at. -/
theorem readExpr_literal_eq_ok_iff (hkind : Kind.ofMembers? members = some .literal) :
    readExpr (.object members) = .ok e ↔ ∃ constant value,
      members.get? "literal" = some constant ∧ readLiteral constant = .ok value ∧
        e = .literal value := by
  obtain ⟨constant, hconstant⟩ := Kind.exists_get?_key hkind
  have hconstant : members.get? "literal" = some constant := hconstant
  simp only [readExpr, hkind, readConstant, hconstant, Except.mapError_eq_ok_iff,
    Except.map_eq_ok_iff]
  constructor
  · rintro ⟨value, hvalue, rfl⟩
    exact ⟨constant, value, rfl, hvalue, rfl⟩
  · rintro ⟨_, value, heq, hvalue, rfl⟩
    cases heq
    exact ⟨value, hvalue, rfl⟩

theorem readExpr_suffixed_eq_ok_iff (hkind : Kind.ofMembers? members = some .suffixOp) :
    readExpr (.object members) = .ok e ↔ ∃ s op operand override,
      members.get? "suffix" = some (.string s) ∧ OperatorText.parse .suffixOperator s = .ok op ∧
        readExprMember "operand" members = .ok operand ∧ typeMember? members = .ok override ∧
          e = .suffixed operand op override := by
  simp only [readExpr, hkind, Except.bind_eq_ok_iff, stringMember_eq_ok_iff, liftBuild_eq_ok_iff]
  constructor
  · rintro ⟨s, hs, operand, hoperand, override, htype, op, hop, hpure⟩
    cases hpure
    exact ⟨s, op, operand, override, hs, hop, hoperand, htype, rfl⟩
  · rintro ⟨s, op, operand, override, hs, hop, hoperand, htype, rfl⟩
    exact ⟨s, hs, operand, hoperand, override, htype, op, hop, rfl⟩

theorem readExpr_prefixed_eq_ok_iff (hkind : Kind.ofMembers? members = some .prefixOp) :
    readExpr (.object members) = .ok e ↔ ∃ s op operand override,
      members.get? "prefix" = some (.string s) ∧ OperatorText.parse .prefixOperator s = .ok op ∧
        readExprMember "operand" members = .ok operand ∧ typeMember? members = .ok override ∧
          e = .prefixed op operand override := by
  simp only [readExpr, hkind, Except.bind_eq_ok_iff, stringMember_eq_ok_iff, liftBuild_eq_ok_iff]
  constructor
  · rintro ⟨s, hs, operand, hoperand, override, htype, op, hop, hpure⟩
    cases hpure
    exact ⟨s, op, operand, override, hs, hop, hoperand, htype, rfl⟩
  · rintro ⟨s, op, operand, override, hs, hop, hoperand, htype, rfl⟩
    exact ⟨s, hs, operand, hoperand, override, htype, op, hop, rfl⟩

/-- What `readExpr` asks of an object with a conversion: the name of a type and an operand. A type
beside them is not looked at. -/
theorem readExpr_cast_eq_ok_iff (hkind : Kind.ofMembers? members = some .cast) :
    readExpr (.object members) = .ok e ↔ ∃ s target operand,
      members.get? "cast" = some (.string s) ∧ DataType.parse s = .ok target ∧
        readExprMember "operand" members = .ok operand ∧ e = operand.cast target := by
  simp only [readExpr, hkind, Except.bind_eq_ok_iff, stringMember_eq_ok_iff, liftBuild_eq_ok_iff]
  constructor
  · rintro ⟨s, hs, target, htarget, operand, hoperand, hpure⟩
    cases hpure
    exact ⟨s, target, operand, hs, htarget, hoperand, rfl⟩
  · rintro ⟨s, target, operand, hs, htarget, hoperand, rfl⟩
    exact ⟨s, hs, target, htarget, operand, hoperand, rfl⟩

/-- What `readExpr` asks of an object with an operator between two operands. The operator is checked
before the operands are read. -/
theorem readExpr_binary_eq_ok_iff (hkind : Kind.ofMembers? members = some .binary) :
    readExpr (.object members) = .ok e ↔ ∃ s op left right override,
      members.get? "binary" = some (.string s) ∧ BinaryOperator.parse s = .ok op ∧
        readExprMember "left" members = .ok left ∧ readExprMember "right" members = .ok right ∧
          typeMember? members = .ok override ∧ e = .binary left op right override := by
  simp only [readExpr, hkind, Except.bind_eq_ok_iff, stringMember_eq_ok_iff, liftBuild_eq_ok_iff]
  constructor
  · rintro ⟨s, hs, op, hop, left, hleft, right, hright, override, htype, hpure⟩
    cases hpure
    exact ⟨s, op, left, right, override, hs, hop, hleft, hright, htype, rfl⟩
  · rintro ⟨s, op, left, right, override, hs, hop, hleft, hright, htype, rfl⟩
    exact ⟨s, hs, op, hop, left, hleft, right, hright, override, htype, rfl⟩

/-- What `readExpr` asks of an object with the call of a function. The arguments may be missing. -/
theorem readExpr_call_eq_ok_iff (hkind : Kind.ofMembers? members = some .call) :
    readExpr (.object members) = .ok e ↔ ∃ function : FunctionName, ∃ arguments override,
      members.get? "call" = some (.string function.text) ∧
        readArguments members = .ok arguments ∧ typeMember? members = .ok override ∧
          e = .call function arguments override := by
  simp only [readExpr, hkind, Except.bind_eq_ok_iff, stringMember_eq_ok_iff, liftBuild_eq_ok_iff,
    FunctionName.parse_eq_ok_iff]
  constructor
  · rintro ⟨s, hs, arguments, harguments, override, htype, function, rfl, hpure⟩
    cases hpure
    exact ⟨function, arguments, override, hs, harguments, htype, rfl⟩
  · rintro ⟨function, arguments, override, hs, harguments, htype, rfl⟩
    exact ⟨function.text, hs, arguments, harguments, override, htype, function, rfl, rfl⟩

end

/-! ## Keys that do not count -/

/-- What stands under the `laterKeys` of the kind makes no difference to `readExpr`, neither to the
expression nor to what is wrong with it. -/
theorem readExpr_object_congr {kind : Kind} (hkind : Kind.ofMembers? members = some kind)
    (h : ∀ key, key ∉ kind.laterKeys → members.get? key = members'.get? key) :
    readExpr (.object members) = readExpr (.object members') := by
  have hkind' := Kind.ofMembers?_congr hkind h
  have htype : typeMember? members = typeMember? members' :=
    typeMember?_congr (h _ (by cases kind <;> decide))
  have hoperand : readExprMember "operand" members = readExprMember "operand" members' :=
    readExprMember_congr (h _ (by cases kind <;> decide))
  have hkey : stringMember kind.key members = stringMember kind.key members' :=
    stringMember_congr (h _ (by cases kind <;> decide))
  simp only [readExpr, hkind, hkind']
  cases kind with
  | field =>
    simp only [Kind.key] at hkey
    simp only [readReference, hkey, htype]
  | literal =>
    have hconstant := h "literal" (by decide)
    simp only [readConstant, hconstant]
  | suffixOp | prefixOp | cast =>
    simp only [Kind.key] at hkey
    simp only [hkey, hoperand, htype]
  | binary =>
    have hleft : readExprMember "left" members = readExprMember "left" members' :=
      readExprMember_congr (h _ (by decide))
    have hright : readExprMember "right" members = readExprMember "right" members' :=
      readExprMember_congr (h _ (by decide))
    simp only [Kind.key] at hkey
    simp only [hkey, hleft, hright, htype]
  | call =>
    have harguments : readArguments members = readArguments members' :=
      readArguments_congr (h _ (by decide))
    simp only [Kind.key] at hkey
    simp only [hkey, harguments, htype]

end PigLatin.Document
