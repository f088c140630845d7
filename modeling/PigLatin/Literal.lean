import PigLatin.Chararray
import PigLatin.DataType
import PigLatin.Decimal

/-!
# Literals

The constants of a script. A number is written so that its type can be read off it: `42` is an
`int`, `42L` a `long`, `1.5F` a `float` and `1.5` a `double`.
-/

namespace PigLatin

/-- A constant. -/
inductive Literal where
  | int (value : Int32)
  | long (value : Int64)
  | float (value : Decimal)
  | double (value : Decimal)
  | chararray (text : String)
  deriving DecidableEq

namespace Literal

/-- The constant as it is written. -/
def chars : Literal → List Char
  | .int value => Text.integer value.toInt
  | .long value => Text.integer value.toInt ++ ['L']
  | .float value => value.chars ++ ['F']
  | .double value => value.chars
  | .chararray text => Chararray.quote text.toList

/-- `chars` as a text. -/
def render (l : Literal) : String := String.ofList l.chars

/-- The type of the constant. -/
def type : Literal → DataType
  | .int _ => .int
  | .long _ => .long
  | .float _ => .float
  | .double _ => .double
  | .chararray _ => .chararray

/-- The constant is a number below zero. Its sign keeps it from standing bare beside an operator,
where two minus signs would start a comment. -/
def isNegative : Literal → Bool
  | .int value => value.toInt < 0
  | .long value => value.toInt < 0
  | .float value => value.isNegative
  | .double value => value.isNegative
  | .chararray _ => false

/-- Both constants are of one type and have one value, however many decimals are written. -/
def SameValue : Literal → Literal → Prop
  | .int a, .int b => a = b
  | .long a, .long b => a = b
  | .float a, .float b => a.SameValue b
  | .double a, .double b => a.SameValue b
  | .chararray a, .chararray b => a = b
  | _, _ => False

instance (a b : Literal) : Decidable (SameValue a b) := by
  cases a <;> cases b <;> simp only [SameValue] <;> infer_instance

end Literal

end PigLatin
