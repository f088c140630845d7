import PigLatin.BinaryOperator
import PigLatin.Literal
import PigLatin.Name
import PigLatin.OperatorText
import PigLatin.Unicode.Alphabetic

/-!
# Expressions

Expressions compute a value from the fields of a relation. A node is *simple* if it can be part of
another expression as it stands: field references and constants that are not negative. Every other
node is put between parentheses there, so that the written form keeps the shape of the tree.

A node has a type: the one it was given, or else the one that follows from its operands.
-/

namespace PigLatin

/-- An expression over the fields of a relation. -/
inductive Expr where
  /-- A field, with its declared type. -/
  | reference (name : FieldName) (type : DataType)
  /-- A constant. -/
  | literal (value : Literal)
  /-- An operator after its operand. -/
  | suffixed (operand : Expr) (operator : OperatorText) (override : Option DataType)
  /-- An operator before its operand. -/
  | prefixed (operator : OperatorText) (operand : Expr) (override : Option DataType)
  /-- An operator between its operands. -/
  | binary (left : Expr) (operator : BinaryOperator) (right : Expr) (override : Option DataType)
  /-- A function applied to arguments. -/
  | call (function : FunctionName) (arguments : List Expr) (override : Option DataType)

/-- The operator is a word, or ends in one, and needs a blank between itself and its operand. -/
def OperatorText.endsInWord (op : OperatorText) : Bool :=
  match op.text.toList.getLast? with
  | some c => Unicode.isAlphabetic c || Unicode.isNumeric c
  | none => false

namespace Expr

/-! ## Written form -/

/-- The expression can be part of another one without parentheses. -/
def isSimple : Expr → Bool
  | .reference _ _ => true
  | .literal value => !value.isNegative
  | _ => false

/-- Text as it stands inside a larger expression: bare if it is simple, else in parentheses. -/
def enclose (simple : Bool) (text : String) : String :=
  if simple then text else "(" ++ text ++ ")"

mutual

/-- The expression as it is written in a script. -/
def render : Expr → String
  | .reference name _ => name.text
  | .literal value => value.render
  | .suffixed operand op _ => enclose operand.isSimple operand.render ++ " " ++ op.text
  | .prefixed op operand _ =>
    op.text ++ (if op.endsInWord then " " else "") ++ enclose operand.isSimple operand.render
  | .binary left op right _ =>
    enclose left.isSimple left.render ++ " " ++ op.symbol ++ " " ++
      enclose right.isSimple right.render
  | .call function arguments _ =>
    function.text ++ "(" ++ ", ".intercalate (renderAll arguments) ++ ")"

/-- The expressions as they are written in a script, one by one. -/
def renderAll : List Expr → List String
  | [] => []
  | e :: es => e.render :: renderAll es

end

theorem renderAll_eq_map (es : List Expr) : renderAll es = es.map render := by
  induction es with
  | nil => simp [renderAll]
  | cons e es ih => simp [renderAll, ih]

/-- The expression as it is written inside another one. -/
def parenthesized (e : Expr) : String := enclose e.isSimple e.render

/-! ## Types -/

mutual

/-- The type of the value that the expression computes. -/
def type : Expr → DataType
  | .reference _ type => type
  | .literal value => value.type
  | .suffixed operand _ override => override.getD operand.type
  | .prefixed _ operand override => override.getD operand.type
  | .binary left op _ override => override.getD (if op.isPredicate then .boolean else left.type)
  | .call _ arguments override => override.getD (firstType arguments)

/-- The type of the first expression; without any, that of uninterpreted bytes. -/
def firstType : List Expr → DataType
  | [] => .bytearray
  | e :: _ => e.type

end

/-! ## Building expressions -/

/-- Whether the value is missing. -/
def isNull (e : Expr) : Expr := .suffixed e .isNull (some .boolean)

/-- Whether there is a value. -/
def isNotNull (e : Expr) : Expr := .suffixed e .isNotNull (some .boolean)

/-- The expression as a key of ascending order. -/
def asc (e : Expr) : Expr := .suffixed e .asc none

/-- The expression as a key of descending order. -/
def desc (e : Expr) : Expr := .suffixed e .desc none

/-- The opposite truth value. -/
def not (e : Expr) : Expr := .prefixed .not e (some .boolean)

/-- The opposite number. -/
def negate (e : Expr) : Expr := .prefixed .minus e none

/-- The value converted to a type. -/
def cast (e : Expr) (type : DataType) : Expr := .prefixed (.cast type) e (some type)

/-- The operator between two expressions, with the type that follows from them. -/
def combine (left : Expr) (op : BinaryOperator) (right : Expr) : Expr := .binary left op right none

/-- The sum. -/
def plus (left right : Expr) : Expr := left.combine .add right

/-- The difference. -/
def minus (left right : Expr) : Expr := left.combine .subtract right

/-- The product. -/
def times (left right : Expr) : Expr := left.combine .multiply right

/-- The quotient. -/
def dividedBy (left right : Expr) : Expr := left.combine .divide right

/-- The remainder. -/
def modulo (left right : Expr) : Expr := left.combine .modulo right

/-- Whether both values are equal. -/
def equals (left right : Expr) : Expr := left.combine .equal right

/-- Whether the values differ. -/
def notEquals (left right : Expr) : Expr := left.combine .notEqual right

/-- Whether the first value is below the second. -/
def lessThan (left right : Expr) : Expr := left.combine .lessThan right

/-- Whether the first value is above the second. -/
def greaterThan (left right : Expr) : Expr := left.combine .greaterThan right

/-- Whether the first value is not above the second. -/
def atMost (left right : Expr) : Expr := left.combine .lessEqual right

/-- Whether the first value is not below the second. -/
def atLeast (left right : Expr) : Expr := left.combine .greaterEqual right

/-- Whether both hold. -/
def and (left right : Expr) : Expr := left.combine .and right

/-- Whether one of them holds. -/
def or (left right : Expr) : Expr := left.combine .or right

/-- Whether the text that the expression computes matches a regular expression. -/
def matchesPattern (e : Expr) (pattern : String) : Expr :=
  e.combine .patternMatch (.literal (.chararray pattern))

end Expr

end PigLatin
