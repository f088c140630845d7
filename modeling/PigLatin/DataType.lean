import PigLatin.BuildError
import PigLatin.Text.Keyword

/-!
# Data types

The types that a value can have, their keywords, and the reading of a keyword.
-/

namespace PigLatin

/-- A type of values. -/
inductive DataType where
  | boolean
  /-- Signed integers of 32 bits. -/
  | int
  /-- Signed integers of 64 bits. -/
  | long
  /-- Floating-point numbers of 32 bits. -/
  | float
  /-- Floating-point numbers of 64 bits. -/
  | double
  /-- Text. -/
  | chararray
  /-- Uninterpreted bytes, the type of a field with no declared schema. -/
  | bytearray
  /-- Ordered sets of fields. -/
  | tuple
  /-- Collections of tuples. -/
  | bag
  /-- Values under text keys. -/
  | map
  deriving DecidableEq, Repr

namespace DataType

/-- Every data type, scalars before collections. -/
def all : List DataType :=
  [boolean, int, long, float, double, chararray, bytearray, tuple, bag, map]

theorem mem_all (t : DataType) : t ∈ all := by
  cases t <;> decide

/-- The word for the type in a script. -/
def keyword : DataType → String
  | boolean => "boolean"
  | int => "int"
  | long => "long"
  | float => "float"
  | double => "double"
  | chararray => "chararray"
  | bytearray => "bytearray"
  | tuple => "tuple"
  | bag => "bag"
  | map => "map"

/-- The values of the type are numbers. -/
def isNumeric : DataType → Bool
  | int | long | float | double => true
  | _ => false

/-- The type that the text spells: the one whose `keyword` is the text in small letters and without
the white space around it. The keywords themselves are taken as they are. -/
def parse (s : String) : Except BuildError DataType :=
  let wanted := Text.lowerCase (Text.trim s)
  match all.find? fun t => t.keyword = wanted with
  | some t => .ok t
  | none => .error (.unknownType s)

/-- The search finds a type by its `keyword`, of which no two are the same. -/
theorem find?_keyword_eq_some_iff {word : String} {t : DataType} :
    (all.find? fun t => t.keyword = word) = some t ↔ word = t.keyword := by
  constructor
  · intro h
    have hfound := List.find?_some h
    exact (of_decide_eq_true hfound).symm
  · rintro rfl
    cases t <;> decide

/-- The keywords are in small letters. -/
theorem lowerCase_keyword (t : DataType) : Text.lowerCase t.keyword = t.keyword := by
  cases t <;> decide

end DataType

end PigLatin
