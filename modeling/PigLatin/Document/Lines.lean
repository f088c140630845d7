import PigLatin.Document.Expression
import PigLatin.Document.Statement
import PigLatin.Json.Reader

/-!
# Documents as lines of a script

A document is an item or an array of items, and each item becomes one line: an expression under the
key `expression` as it is, a statement with a semicolon after it. The first item that fails decides,
and then there are no lines at all.
-/

namespace PigLatin.Document

/-- The expression in an item that holds one. -/
def expressionOf? : Json → Option Json
  | .object members => Dictionary.get? "expression" members
  | _ => none

/-- The line that an item describes. -/
def renderItem (resolve : Resolver) (item : Json) : Except ItemError String :=
  match expressionOf? item with
  | some value => (readExpr value).map Expr.render
  | none => (renderStatement resolve item).map fun text => text ++ ";"

/-- The items of a document. -/
def items : Json → List Json
  | .array items => items
  | item => [item]

/-- The lines that a document describes. -/
def renderLines (resolve : Resolver) (document : Json) : Except ItemError (List String) :=
  (items document).mapM (renderItem resolve)

/-- Why there are no lines for a document. -/
inductive RenderError where
  /-- There is no document. -/
  | noInput
  /-- The document is not text: its bytes are no UTF-8. -/
  | notText
  /-- The text is no document. -/
  | notJson (text : String) (fault : Json.Fault)
  /-- An item of the document cannot be written. -/
  | item (error : ItemError)

/-- The wording of the error. What is wrong with a text that is no document is worded by the reader
of documents, for which `jsonError` stands. -/
def RenderError.message (jsonError : String → Json.Fault → String) : RenderError → String
  | .noInput => "No input provided. Use --input or pipe JSON to stdin."
  | .notText => "IO error: stream did not contain valid UTF-8"
  | .notJson text fault => "Invalid JSON: " ++ jsonError text fault
  | .item error => error.message

/-- The lines that the text of a document describes, with storage functions beside those that are
always there. -/
def render (input : Option String) (storage : List (String × String)) :
    Except RenderError (List String) :=
  match input with
  | none => .error .noInput
  | some text => do
    let document ← (Json.parse text).mapError (.notJson text)
    (renderLines (Registry.standard.registerAll storage).resolve document).mapError .item

end PigLatin.Document
