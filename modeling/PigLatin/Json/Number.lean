import PigLatin.Binary64.Shortest

/-!
# Numbers in documents

A number in a document is a whole number or a number of double precision. Which of the two it is
depends on how it was written.
-/

namespace PigLatin.Json

/-- A number in a document. -/
inductive Number where
  /-- A whole number. -/
  | integer (value : Int)
  /-- A number of double precision, by its sign and its magnitude; there are two zeros. -/
  | float (negative : Bool) (magnitude : Binary64)
  deriving DecidableEq

namespace Number

/-- The number as it is written: one of double precision in the fewest digits that read as it. -/
def chars : Number → List Char
  | .integer value => Text.integer value
  | .float negative magnitude =>
    if negative then '-' :: magnitude.shortest.chars else magnitude.shortest.chars

/-- `chars` as a text. -/
def render (n : Number) : String := String.ofList n.chars

end Number

end PigLatin.Json
