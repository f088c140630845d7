import PigLatin.DataType

/-!
# Operators given as text

An operator that stands before or after a single operand may be any text that is not blank. It is
kept without the blanks around it.
-/

namespace PigLatin

/-- The text of an operator before or after its operand. -/
structure OperatorText where
  /-- The text itself. -/
  text : String
  /-- It has no blanks at its ends. -/
  trimmed : Text.trim text = text
  /-- There is some text. -/
  nonempty : text ≠ ""
  deriving DecidableEq

namespace OperatorText

/-- The operator that the text is, or an error that names the part that was left blank. -/
def parse (part : Part) (s : String) : Except BuildError OperatorText :=
  if h : Text.trim s = "" then .error (.empty part) else .ok ⟨Text.trim s, Text.trim_trim s, h⟩

/-- The test for a missing value. -/
def isNull : OperatorText := ⟨"IS NULL", by decide, by decide⟩

/-- The test for a value that is not missing. -/
def isNotNull : OperatorText := ⟨"IS NOT NULL", by decide, by decide⟩

/-- Ascending order. -/
def asc : OperatorText := ⟨"ASC", by decide, by decide⟩

/-- Descending order. -/
def desc : OperatorText := ⟨"DESC", by decide, by decide⟩

/-- Logical negation. -/
def not : OperatorText := ⟨"NOT", by decide, by decide⟩

/-- The sign change. -/
def minus : OperatorText := ⟨"-", by decide, by decide⟩

/-- Conversion to a type, written as its keyword between parentheses. -/
def cast (type : DataType) : OperatorText :=
  ⟨"(" ++ type.keyword ++ ")", by cases type <;> decide, by cases type <;> decide⟩

end OperatorText

end PigLatin
