import PigLatin.Text.Quoted

/-!
# Build errors

The reasons for which an expression or a statement cannot be built. Every check is made when a part
is built, so whatever has been built can be written.
-/

namespace PigLatin

/-- The parts that must not be left empty. -/
inductive Part where
  | relationAlias
  | fieldName
  | functionName
  | binaryOperator
  | prefixOperator
  | suffixOperator
  | storePath
  deriving DecidableEq, Repr

/-- What a message calls the part. -/
def Part.name : Part → String
  | .relationAlias => "relation alias"
  | .fieldName => "field name"
  | .functionName => "function name"
  | .binaryOperator => "binary operator"
  | .prefixOperator => "prefix operator"
  | .suffixOperator => "suffix operator"
  | .storePath => "store path"

/-- Why an expression or a statement cannot be built. -/
inductive BuildError where
  /-- Nothing, or nothing but blanks, was given for the part. -/
  | empty (part : Part)
  /-- The text is no relation alias. -/
  | invalidAlias (text : String)
  /-- The text is neither a field name nor a position. -/
  | invalidFieldName (text : String)
  /-- The text is no function name. -/
  | invalidFunctionName (text : String)
  /-- The text is no binary operator. -/
  | invalidOperator (text : String)
  /-- The text is no data type. -/
  | unknownType (text : String)
  deriving DecidableEq, Repr

/-- The wording of the error. Refused text is quoted, except for the name of a type. -/
def BuildError.message : BuildError → String
  | .empty part => part.name ++ " must not be empty"
  | .invalidAlias text => "invalid relation alias: " ++ Text.quoted text
  | .invalidFieldName text => "invalid field name: " ++ Text.quoted text
  | .invalidFunctionName text => "invalid function name: " ++ Text.quoted text
  | .invalidOperator text => "unknown binary operator: " ++ Text.quoted text
  | .unknownType text => "unknown field type: " ++ text

end PigLatin
