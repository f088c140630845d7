import PigLatin.Dictionary
import PigLatin.Json.Number

/-!
# Documents

The values that a JSON document can hold. The members of an object are a dictionary: they are in
the order of their keys, and of two members with one key the later one counts.
-/

namespace PigLatin

/-- A value in a document. -/
inductive Json where
  | null
  | bool (value : Bool)
  | number (value : Json.Number)
  | string (value : String)
  | array (items : List Json)
  | object (members : List (String × Json))

end PigLatin
