import Mathlib.Logic.Relation
import PigLatin.Proofs.Expr.Basic

/-!
# Where the type of an expression comes from

A node has the type that it was given, or one that follows from what it is, or else the type of its
leading operand: the only operand of an operator before or after it, the left one of two, the first
argument of a function. The type of an expression is thus found on one walk from its root. Nothing
off this walk decides about the type.
-/

namespace PigLatin.Expr

/-! ## The walk -/

/-- The walk from the expression along leading operands ends with the type. -/
inductive LeadsTo : Expr → DataType → Prop where
  | reference (name : FieldName) (type : DataType) : LeadsTo (reference name type) type
  | literal (value : Literal) : LeadsTo (literal value) value.type
  | suffixedGiven (operand : Expr) (op : OperatorText) (type : DataType) :
      LeadsTo (suffixed operand op (some type)) type
  | suffixed {operand : Expr} (op : OperatorText) {type : DataType} (h : LeadsTo operand type) :
      LeadsTo (suffixed operand op none) type
  | prefixedGiven (op : OperatorText) (operand : Expr) (type : DataType) :
      LeadsTo (prefixed op operand (some type)) type
  | prefixed (op : OperatorText) {operand : Expr} {type : DataType} (h : LeadsTo operand type) :
      LeadsTo (prefixed op operand none) type
  | binaryGiven (left : Expr) (op : BinaryOperator) (right : Expr) (type : DataType) :
      LeadsTo (binary left op right (some type)) type
  | predicate (left : Expr) {op : BinaryOperator} (right : Expr) (hop : op.isPredicate = true) :
      LeadsTo (binary left op right none) .boolean
  | arithmetic {left : Expr} {op : BinaryOperator} (right : Expr) {type : DataType}
      (hop : op.isArithmetic = true) (h : LeadsTo left type) :
      LeadsTo (binary left op right none) type
  | callGiven (function : FunctionName) (arguments : List Expr) (type : DataType) :
      LeadsTo (call function arguments (some type)) type
  | nullary (function : FunctionName) : LeadsTo (call function [] none) .bytearray
  | call (function : FunctionName) {first : Expr} (others : List Expr) {type : DataType}
      (h : LeadsTo first type) : LeadsTo (call function (first :: others) none) type

/-- Where the walk ends, `type` finds the type. -/
theorem type_eq_of_leadsTo {e : Expr} {t : DataType} (h : e.LeadsTo t) : e.type = t := by
  induction h with
  | reference | literal | suffixedGiven | prefixedGiven | binaryGiven | callGiven => rfl
  | suffixed op h ih | prefixed op h ih => simpa [type] using ih
  | predicate left right hop => simp [type, hop]
  | arithmetic right hop h ih => simpa [type, BinaryOperator.isPredicate, hop] using ih
  | nullary function => simp [type, firstType]
  | call function others h ih => simpa [type, firstType] using ih

/-- The walk ends for every expression, with the type that `type` finds. -/
theorem leadsTo_type (e : Expr) : e.LeadsTo e.type := by
  induction e with
  | reference name type => exact .reference name type
  | literal value => exact .literal value
  | suffixed operand op override ih =>
    cases override with
    | some type => exact .suffixedGiven operand op type
    | none => exact .suffixed op ih
  | prefixed op operand override ih =>
    cases override with
    | some type => exact .prefixedGiven op operand type
    | none => exact .prefixed op ih
  | binary left op right override ihl ihr =>
    cases override with
    | some type => exact .binaryGiven left op right type
    | none =>
      cases hop : op.isArithmetic with
      | true =>
        have htype : (binary left op right none).type = left.type := by
          simp [type, BinaryOperator.isPredicate, hop]
        rw [htype]
        exact .arithmetic right hop ihl
      | false =>
        have hpredicate : op.isPredicate = true := by
          simp [BinaryOperator.isPredicate, hop]
        have htype : (binary left op right none).type = .boolean := by
          simp [type, hpredicate]
        rw [htype]
        exact .predicate left right hpredicate
  | call function arguments override ih =>
    cases override with
    | some type => exact .callGiven function arguments type
    | none =>
      cases arguments with
      | nil => exact .nullary function
      | cons first others => exact .call function others (ih first List.mem_cons_self)

/-- `LeadsTo` walks from an expression to its `type`, and to no other. -/
theorem leadsTo_iff {e : Expr} {t : DataType} : e.LeadsTo t ↔ e.type = t := by
  constructor
  · exact type_eq_of_leadsTo
  · rintro rfl
    exact leadsTo_type e

/-- With no type of its own, a node between two operands takes that of the left one exactly if the
operator is `+`, `-`, `*`, `/` or `%`, and is `boolean` otherwise. -/
theorem leadsTo_binary_none_iff {left right : Expr} {op : BinaryOperator} {t : DataType} :
    (binary left op right none).LeadsTo t ↔
      if op ∈ [.add, .subtract, .multiply, .divide, .modulo] then left.LeadsTo t
      else t = .boolean := by
  rw [leadsTo_iff, leadsTo_iff]
  by_cases hop : op.isArithmetic = true
  · rw [if_pos (BinaryOperator.isArithmetic_iff.1 hop)]
    simp [type, BinaryOperator.isPredicate, hop]
  · rw [if_neg fun hmem => hop (BinaryOperator.isArithmetic_iff.2 hmem)]
    simp [type, BinaryOperator.isPredicate, hop, eq_comm]

/-! ## Off the walk -/

theorem firstType_append_cons {e e' : Expr} (before after : List Expr) (h : e'.type = e.type) :
    firstType (before ++ e' :: after) = firstType (before ++ e :: after) := by
  cases before with
  | nil => exact h
  | cons first others => rfl

/-- A right operand, or an argument other than the first one, is another expression, somewhere in
the tree. -/
inductive AsideChange : Expr → Expr → Prop where
  | right (left : Expr) (op : BinaryOperator) (right right' : Expr) (override : Option DataType) :
      AsideChange (binary left op right override) (binary left op right' override)
  | argument (function : FunctionName) (first : Expr) (before : List Expr) (e e' : Expr)
      (after : List Expr) (override : Option DataType) :
      AsideChange (call function (first :: before ++ e :: after) override)
        (call function (first :: before ++ e' :: after) override)
  | inSuffixed {operand operand' : Expr} (op : OperatorText) (override : Option DataType)
      (h : AsideChange operand operand') :
      AsideChange (suffixed operand op override) (suffixed operand' op override)
  | inPrefixed (op : OperatorText) {operand operand' : Expr} (override : Option DataType)
      (h : AsideChange operand operand') :
      AsideChange (prefixed op operand override) (prefixed op operand' override)
  | inLeft {left left' : Expr} (op : BinaryOperator) (right : Expr) (override : Option DataType)
      (h : AsideChange left left') :
      AsideChange (binary left op right override) (binary left' op right override)
  | inRight (left : Expr) (op : BinaryOperator) {right right' : Expr} (override : Option DataType)
      (h : AsideChange right right') :
      AsideChange (binary left op right override) (binary left op right' override)
  | inCall (function : FunctionName) (before : List Expr) {e e' : Expr} (after : List Expr)
      (override : Option DataType) (h : AsideChange e e') :
      AsideChange (call function (before ++ e :: after) override)
        (call function (before ++ e' :: after) override)

/-- Any number of changes, one after the other. -/
def AsideChanges : Expr → Expr → Prop := Relation.ReflTransGen AsideChange

theorem type_eq_of_asideChange {e e' : Expr} (h : AsideChange e e') : e'.type = e.type := by
  -- On the way from the root to the change only a leading operand could pass its type on.
  induction h with
  | right | argument | inRight => rfl
  | inSuffixed op override h ih | inPrefixed op override h ih | inLeft op right override h ih =>
    simp only [type, ih]
  | inCall function before after override h ih => simp only [type, firstType_append_cons _ _ ih]

theorem type_eq_of_asideChanges {e e' : Expr} (h : AsideChanges e e') : e'.type = e.type := by
  induction h with
  | refl => rfl
  | tail _ hchange ih => exact (type_eq_of_asideChange hchange).trans ih

end PigLatin.Expr
