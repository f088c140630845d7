import PigLatin.BuildError
import PigLatin.Name.Form
import PigLatin.Text.Blank
import PigLatin.Unicode.Number

/-!
# Names

The names in a script: aliases of relations, names of fields and names of functions. A name is kept
exactly as it was given, so blanks around it make it invalid.
-/

namespace PigLatin

/-- A letter, a digit or an underscore of ASCII. -/
def isWordChar (c : Char) : Bool := c.isAlphanum || c == '_'

/-- Aliases are single words that start with a letter. -/
def aliasForm : NameForm := ⟨Char.isAlpha, isWordChar, []⟩

/-- Names of fields are words that start with a letter, joined by two colons. -/
def fieldForm : NameForm := ⟨Char.isAlpha, isWordChar, [':', ':']⟩

/-- Names of functions are words that start with a letter or an underscore, joined by points. -/
def functionForm : NameForm := ⟨fun c => c.isAlpha || c == '_', isWordChar, ['.']⟩

/-- The characters are a position: a dollar sign and one or more decimal digits. -/
def isPosition : List Char → Bool
  | '$' :: digits => !digits.isEmpty && digits.all Unicode.isDecimalDigit
  | _ => false

/-! ## Aliases -/

/-- The alias under which a script knows a relation. -/
structure Alias where
  /-- The alias itself. -/
  text : String
  /-- It has the form of an alias. -/
  valid : aliasForm.accepts text.toList = true
  deriving DecidableEq

/-- The alias that the text is. -/
def Alias.parse (s : String) : Except BuildError Alias :=
  if s = "" then .error (.empty .relationAlias)
  else if valid : aliasForm.accepts s.toList = true then .ok ⟨s, valid⟩
  else .error (.invalidAlias s)

/-! ## Fields -/

/-- The name of a field of the current relation, or its position. -/
structure FieldName where
  /-- The name itself. -/
  text : String
  /-- It has the form of a name or of a position. -/
  valid : (isPosition text.toList || fieldForm.accepts text.toList) = true
  deriving DecidableEq

/-- The name of a field that the text is. -/
def FieldName.parse (s : String) : Except BuildError FieldName :=
  if s = "" then .error (.empty .fieldName)
  else if valid : (isPosition s.toList || fieldForm.accepts s.toList) = true then .ok ⟨s, valid⟩
  else .error (.invalidFieldName s)

/-! ## Functions -/

/-- The name of a function, with the names of its packages before it. -/
structure FunctionName where
  /-- The name itself. -/
  text : String
  /-- It has the form of a name of a function. -/
  valid : functionForm.accepts text.toList = true
  deriving DecidableEq

/-- The name of a function that the text is. -/
def FunctionName.parse (s : String) : Except BuildError FunctionName :=
  if Text.isBlank s then .error (.empty .functionName)
  else if valid : functionForm.accepts s.toList = true then .ok ⟨s, valid⟩
  else .error (.invalidFunctionName s)

end PigLatin
