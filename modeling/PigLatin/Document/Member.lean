import PigLatin.DataType
import PigLatin.Document.Error

/-!
# Members that hold text

An object describes by its members. A member that may be left out must really be left out: `null` in
its place is a value like any other.
-/

namespace PigLatin.Document

/-- The members of an object. -/
abbrev Members := Dictionary Json

/-- The value is text. -/
def asString (key : String) : Json → Except ItemError String
  | .string s => .ok s
  | found => throwShape (.notString key found)

/-- The text of a member that must be there. -/
def stringMember (key : String) (members : Members) : Except ItemError String :=
  match members.get? key with
  | some value => asString key value
  | none => throwShape (.missing key)

/-- The text of a member that may be left out. -/
def stringMember? (key : String) (members : Members) : Except ItemError (Option String) :=
  match members.get? key with
  | some value => (asString key value).map some
  | none => .ok none

/-- The type that the description gives, if it gives one. -/
def typeMember? (members : Members) : Except ItemError (Option DataType) := do
  match ← stringMember? "type" members with
  | some name => (liftBuild (DataType.parse name)).map some
  | none => return none

end PigLatin.Document
