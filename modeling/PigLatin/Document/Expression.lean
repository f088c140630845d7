import PigLatin.Document.Literal
import PigLatin.Document.Member
import PigLatin.Expr

/-!
# Descriptions of expressions

An object describes an expression. Which kind of expression it is can be told from its members: the
first key that is there, in a fixed order of keys, decides, and whatever else the object holds
cannot make up for what is wrong with that kind.
-/

namespace PigLatin.Document

/-- The kinds of expressions that can be described. -/
inductive Kind where
  | field
  | literal
  | suffixOp
  | prefixOp
  | cast
  | binary
  | call
  deriving DecidableEq, Repr

namespace Kind

/-- Every kind, in the order in which their keys are looked for. -/
def all : List Kind := [field, literal, suffixOp, prefixOp, cast, binary, call]

/-- The key that tells the kind. -/
def key : Kind → String
  | field => "field"
  | literal => "literal"
  | suffixOp => "suffix"
  | prefixOp => "prefix"
  | cast => "cast"
  | binary => "binary"
  | call => "call"

/-- The kind of expression that the members describe. -/
def ofMembers? (members : Members) : Option Kind := all.find? fun kind => members.contains kind.key

end Kind

/-- The reference that the members describe. A field without a declared type is uninterpreted. -/
def readReference (members : Members) : Except ItemError Expr := do
  let name ← stringMember "field" members
  let type ← typeMember? members
  let name ← liftBuild (FieldName.parse name)
  return .reference name (type.getD .bytearray)

/-- The constant that the members describe. -/
def readConstant (members : Members) : Except ItemError Expr :=
  match members.get? "literal" with
  | some value => ((readLiteral value).map .literal).mapError .shape
  | none => throwShape (.missing "literal")

mutual

/-- The expression that the value describes. -/
def readExpr : Json → Except ItemError Expr
  | .object members =>
    match Kind.ofMembers? members with
    | some .field => readReference members
    | some .literal => readConstant members
    | some .suffixOp => do
      let op ← stringMember "suffix" members
      let operand ← readExprMember "operand" members
      let override ← typeMember? members
      let op ← liftBuild (OperatorText.parse .suffixOperator op)
      return .suffixed operand op override
    | some .prefixOp => do
      let op ← stringMember "prefix" members
      let operand ← readExprMember "operand" members
      let override ← typeMember? members
      let op ← liftBuild (OperatorText.parse .prefixOperator op)
      return .prefixed op operand override
    | some .cast => do
      let target ← stringMember "cast" members
      let target ← liftBuild (DataType.parse target)
      let operand ← readExprMember "operand" members
      return operand.cast target
    | some .binary => do
      let op ← stringMember "binary" members
      let op ← liftBuild (BinaryOperator.parse op)
      let left ← readExprMember "left" members
      let right ← readExprMember "right" members
      let override ← typeMember? members
      return .binary left op right override
    | some .call => do
      let function ← stringMember "call" members
      let arguments ← readArguments members
      let override ← typeMember? members
      let function ← liftBuild (FunctionName.parse function)
      return .call function arguments override
    | none => throwShape (.notExpression (.object members))
  | found => throwShape (.notObject .expression found)

/-- The expression that the member under the key describes. -/
def readExprMember (key : String) : List (String × Json) → Except ItemError Expr
  | [] => throwShape (.missing key)
  | (k, value) :: members => if k = key then readExpr value else readExprMember key members

/-- The arguments that the members describe: none at all if there is no member for them. -/
def readArguments : List (String × Json) → Except ItemError (List Expr)
  | [] => .ok []
  | (k, value) :: members =>
    if k = "args" then readExprArray value else readArguments members

/-- The expressions that the items of the value describe. -/
def readExprArray : Json → Except ItemError (List Expr)
  | .array items => readExprs items
  | found => throwShape (.argumentsNotArray found)

/-- The expressions that the values describe. -/
def readExprs : List Json → Except ItemError (List Expr)
  | [] => .ok []
  | value :: values => do
    let expr ← readExpr value
    let exprs ← readExprs values
    return expr :: exprs

end

end PigLatin.Document
