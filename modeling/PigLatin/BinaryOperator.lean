import PigLatin.BuildError
import PigLatin.Text.Keyword

/-!
# Binary operators

The operators that stand between two operands: arithmetic, comparisons and the logical connectives.
-/

namespace PigLatin

/-- An operator between two operands. -/
inductive BinaryOperator where
  | add
  | subtract
  | multiply
  | divide
  | modulo
  | equal
  | notEqual
  | lessThan
  | greaterThan
  | lessEqual
  | greaterEqual
  /-- The left operand matches the regular expression on the right. -/
  | patternMatch
  | and
  | or
  deriving DecidableEq, Repr

namespace BinaryOperator

/-- The operator as it is written. -/
def symbol : BinaryOperator → String
  | add => "+"
  | subtract => "-"
  | multiply => "*"
  | divide => "/"
  | modulo => "%"
  | equal => "=="
  | notEqual => "!="
  | lessThan => "<"
  | greaterThan => ">"
  | lessEqual => "<="
  | greaterEqual => ">="
  | patternMatch => "matches"
  | and => "AND"
  | or => "OR"

/-- The operator computes a number from numbers. -/
def isArithmetic : BinaryOperator → Bool
  | add | subtract | multiply | divide | modulo => true
  | _ => false

/-- The operator answers yes or no, whatever its operands are. -/
def isPredicate (op : BinaryOperator) : Bool := !op.isArithmetic

theorem isArithmetic_iff {op : BinaryOperator} :
    op.isArithmetic = true ↔ op ∈ [add, subtract, multiply, divide, modulo] := by
  cases op <;> decide

/-- The predicates are the comparisons and the logical connectives. -/
theorem isPredicate_iff {op : BinaryOperator} : op.isPredicate = true ↔ op ∈
    [equal, notEqual, lessThan, greaterThan, lessEqual, greaterEqual, patternMatch, and, or] := by
  cases op <;> decide

/-! ## Reading -/

/-- The operator of a word or sign in small letters. This table is kept apart from `symbol`, by
which operators are written. -/
def ofWord? : String → Option BinaryOperator
  | "+" => some add
  | "-" => some subtract
  | "*" => some multiply
  | "/" => some divide
  | "%" => some modulo
  | "==" => some equal
  | "!=" => some notEqual
  | "<" => some lessThan
  | ">" => some greaterThan
  | "<=" => some lessEqual
  | ">=" => some greaterEqual
  | "matches" => some patternMatch
  | "and" => some and
  | "or" => some or
  | _ => none

/-- The operator that the text spells: that of `ofWord?` for the text in small letters and without
the white space around it. -/
def parse (s : String) : Except BuildError BinaryOperator :=
  let word := Text.lowerCase (Text.trim s)
  match ofWord? word with
  | some op => .ok op
  | none => .error (if word = "" then .empty .binaryOperator else .invalidOperator s)

/-- The two tables agree: `ofWord?` knows the `symbol` of each operator by its small letters, and it
knows nothing else. -/
theorem ofWord?_eq_some_iff {word : String} {op : BinaryOperator} :
    ofWord? word = some op ↔ word = Text.lowerCase op.symbol := by
  constructor
  · intro h
    unfold ofWord? at h
    split at h <;> cases h <;> decide
  · rintro rfl
    cases op <;> decide

end BinaryOperator

end PigLatin
