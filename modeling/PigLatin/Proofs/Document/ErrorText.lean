import PigLatin.Document.Lines

/-!
# The texts of errors

What is written for each error, in full. The first words tell whether a part could not be built, a
storage function is not known, a value has the wrong shape, or the document could not be read.
-/

namespace PigLatin

/-- The text that is written for a part that could not be built. -/
inductive BuildError.Displays : BuildError → String → Prop where
  | emptyAlias : Displays (.empty .relationAlias) "relation alias must not be empty"
  | emptyField : Displays (.empty .fieldName) "field name must not be empty"
  | emptyFunction : Displays (.empty .functionName) "function name must not be empty"
  | emptyBinary : Displays (.empty .binaryOperator) "binary operator must not be empty"
  | emptyPrefix : Displays (.empty .prefixOperator) "prefix operator must not be empty"
  | emptySuffix : Displays (.empty .suffixOperator) "suffix operator must not be empty"
  | emptyPath : Displays (.empty .storePath) "store path must not be empty"
  | invalidAlias (text : String) :
      Displays (.invalidAlias text) ("invalid relation alias: " ++ Text.quoted text)
  | invalidFieldName (text : String) :
      Displays (.invalidFieldName text) ("invalid field name: " ++ Text.quoted text)
  | invalidFunctionName (text : String) :
      Displays (.invalidFunctionName text) ("invalid function name: " ++ Text.quoted text)
  | invalidOperator (text : String) :
      Displays (.invalidOperator text) ("unknown binary operator: " ++ Text.quoted text)
  | unknownType (text : String) : Displays (.unknownType text) ("unknown field type: " ++ text)

/-- `BuildError.message` is the text of the error. -/
theorem BuildError.displays_iff {error : BuildError} {text : String} :
    error.Displays text ↔ text = error.message := by
  constructor
  · rintro ⟨⟩ <;> rfl
  · rintro rfl
    cases error with
    | empty part => cases part <;> constructor
    | _ => constructor

/-- The text that is written for a name that does not stand for an invocation. -/
inductive ResolveError.Displays : ResolveError → String → Prop where
  | unresolved (name : String) :
      Displays (.unresolved name) ("unresolved storage function: " ++ name)

/-- `ResolveError.message` is the text of the error. -/
theorem ResolveError.displays_iff {error : ResolveError} {text : String} :
    error.Displays text ↔ text = error.message := by
  constructor
  · rintro ⟨⟩
    rfl
  · rintro rfl
    exact .unresolved _

namespace Document

/-- The text that is written for a value of the wrong shape. -/
inductive ShapeError.Displays : ShapeError → String → Prop where
  | notExpressionObject (found : Json) : Displays (.notObject .expression found)
      ("expression must be a JSON object, got " ++ found.render)
  | notStatementObject (found : Json) : Displays (.notObject .statement found)
      ("statement must be a JSON object, got " ++ found.render)
  | missing (key : String) : Displays (.missing key) ("missing \"" ++ key ++ "\"")
  | notString (key : String) (found : Json) : Displays (.notString key found)
      ("\"" ++ key ++ "\" must be a string, got " ++ found.render)
  | argumentsNotArray (found : Json) : Displays (.argumentsNotArray found)
      ("\"args\" must be an array, got " ++ found.render)
  | notLiteral (found : Json) : Displays (.notLiteral found)
      ("literal must be a number or string, got " ++ found.render)
  | integerTooLarge (value : Int) : Displays (.integerTooLarge value)
      ("integer literal " ++ String.ofList (Text.integer value) ++ " does not fit in a long")
  | numberOutOfRange (value : Json.Number) : Displays (.numberOutOfRange value)
      ("number literal " ++ value.render ++ " is out of range")
  | notExpression (found : Json) : Displays (.notExpression found)
      ("not an expression: " ++ found.render)
  | notStatement (found : Json) : Displays (.notStatement found)
      ("not a statement: " ++ found.render)

/-- `ShapeError.message` is the text of the error. -/
theorem ShapeError.displays_iff {error : ShapeError} {text : String} :
    error.Displays text ↔ text = error.message := by
  constructor
  · rintro ⟨⟩ <;> rfl
  · rintro rfl
    cases error with
    | notObject subject found => cases subject <;> constructor
    | _ => constructor

/-- The text that is written when there are no lines for a document. What is wrong with a text that
is no document is worded by `jsonError`. -/
inductive RenderError.Displays (jsonError : String → Json.Fault → String) :
    RenderError → String → Prop where
  | noInput : Displays jsonError .noInput "No input provided. Use --input or pipe JSON to stdin."
  | notText : Displays jsonError .notText "IO error: stream did not contain valid UTF-8"
  | notJson (text : String) (fault : Json.Fault) : Displays jsonError (.notJson text fault)
      ("Invalid JSON: " ++ jsonError text fault)
  | build {error : BuildError} {text : String} (h : error.Displays text) :
      Displays jsonError (.item (.build error)) ("Build error: " ++ text)
  | resolve {error : ResolveError} {text : String} (h : error.Displays text) :
      Displays jsonError (.item (.resolve error)) ("Resolve error: " ++ text)
  | shape {error : ShapeError} {text : String} (h : error.Displays text) :
      Displays jsonError (.item (.shape error)) ("Unexpected document shape: " ++ text)

/-- `RenderError.message` is the text of the error. -/
theorem RenderError.displays_iff {jsonError : String → Json.Fault → String} {error : RenderError}
    {text : String} : error.Displays jsonError text ↔ text = error.message jsonError := by
  constructor
  · intro h
    cases h with
    | noInput | notText | notJson => rfl
    | build h => rw [BuildError.displays_iff.1 h]; rfl
    | resolve h => rw [ResolveError.displays_iff.1 h]; rfl
    | shape h => rw [ShapeError.displays_iff.1 h]; rfl
  · rintro rfl
    cases error with
    | noInput => exact .noInput
    | notText => exact .notText
    | notJson text fault => exact .notJson text fault
    | item error =>
      cases error with
      | build error => exact .build (BuildError.displays_iff.2 rfl)
      | resolve error => exact .resolve (ResolveError.displays_iff.2 rfl)
      | shape error => exact .shape (ShapeError.displays_iff.2 rfl)

end Document

end PigLatin
