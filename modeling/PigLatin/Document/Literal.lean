import PigLatin.Decimal.Reader
import PigLatin.Document.Error
import PigLatin.Literal

/-!
# Descriptions of constants

A constant is described by a number or by text. A whole number becomes an `int` if it fits and a
`long` otherwise; a number of double precision becomes the decimal that its written form says.
-/

namespace PigLatin.Document

/-- The decimal that a number of double precision is read as when it is written: its text goes to
`Decimal.parse?`, and to `Decimal.parseScientific?` if that refuses it. -/
def decimal? (negative : Bool) (magnitude : Binary64) : Option Decimal :=
  let text := (Json.Number.float negative magnitude).chars
  (Decimal.parse? text).or (Decimal.parseScientific? text)

/-- The constant that a number describes. -/
def numberLiteral : Json.Number → Except ShapeError Literal
  | .integer n =>
    if Int32.minValue.toInt ≤ n ∧ n ≤ Int32.maxValue.toInt then .ok (.int (Int32.ofInt n))
    else if Int64.minValue.toInt ≤ n ∧ n ≤ Int64.maxValue.toInt then .ok (.long (Int64.ofInt n))
    else .error (.integerTooLarge n)
  | n@(.float negative magnitude) =>
    match decimal? negative magnitude with
    | some d => .ok (.double d)
    | none => .error (.numberOutOfRange n)

/-- The constant that a value describes. -/
def readLiteral : Json → Except ShapeError Literal
  | .number n => numberLiteral n
  | .string s => .ok (.chararray s)
  | found => .error (.notLiteral found)

end PigLatin.Document
