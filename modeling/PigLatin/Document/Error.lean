import PigLatin.BuildError
import PigLatin.Json.Printer
import PigLatin.Storage

/-!
# Errors in documents

The reasons for which a document does not describe expressions and statements. A message shows the
value that was found in its shortest form.
-/

namespace PigLatin.Document

/-- What an item of a document describes. -/
inductive Subject where
  | expression
  | statement
  deriving DecidableEq, Repr

/-- How a value has the wrong shape for what it should describe. -/
inductive ShapeError where
  /-- The value is no object. -/
  | notObject (subject : Subject) (found : Json)
  /-- The object has no such member. -/
  | missing (key : String)
  /-- The member of the object is no text. -/
  | notString (key : String) (found : Json)
  /-- The arguments of a function are no array. -/
  | argumentsNotArray (found : Json)
  /-- The constant is neither a number nor text. -/
  | notLiteral (found : Json)
  /-- The whole number has more than 64 bits with its sign. -/
  | integerTooLarge (value : Int)
  /-- The number is no decimal. -/
  | numberOutOfRange (value : Json.Number)
  /-- The object has none of the members that tell expressions apart. -/
  | notExpression (found : Json)
  /-- The value has none of the members that tell statements apart. -/
  | notStatement (found : Json)

/-- The wording of the error. -/
def ShapeError.message : ShapeError → String
  | .notObject .expression found => "expression must be a JSON object, got " ++ found.render
  | .notObject .statement found => "statement must be a JSON object, got " ++ found.render
  | .missing key => "missing \"" ++ key ++ "\""
  | .notString key found => "\"" ++ key ++ "\" must be a string, got " ++ found.render
  | .argumentsNotArray found => "\"args\" must be an array, got " ++ found.render
  | .notLiteral found => "literal must be a number or string, got " ++ found.render
  | .integerTooLarge value =>
    "integer literal " ++ (Json.Number.integer value).render ++ " does not fit in a long"
  | .numberOutOfRange value => "number literal " ++ value.render ++ " is out of range"
  | .notExpression found => "not an expression: " ++ found.render
  | .notStatement found => "not a statement: " ++ found.render

/-- Why an item of a document cannot be written in a script. -/
inductive ItemError where
  /-- What it describes cannot be built. -/
  | build (error : BuildError)
  /-- Its storage function is not known. -/
  | resolve (error : ResolveError)
  /-- It has the wrong shape. -/
  | shape (error : ShapeError)

/-- The wording of the error. -/
def ItemError.message : ItemError → String
  | .build error => "Build error: " ++ error.message
  | .resolve error => "Resolve error: " ++ error.message
  | .shape error => "Unexpected document shape: " ++ error.message

/-- Makes the `BuildError` of a part the error of its item. -/
def liftBuild {α : Type} (result : Except BuildError α) : Except ItemError α :=
  result.mapError .build

/-- Fails with the `ShapeError` as the error of the item. -/
def throwShape {α : Type} (error : ShapeError) : Except ItemError α := .error (.shape error)

end PigLatin.Document
