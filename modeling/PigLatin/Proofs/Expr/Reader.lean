import PigLatin.Proofs.Expr.BuilderMade
import PigLatin.Proofs.Expr.NormalForm
import PigLatin.Proofs.Parse

/-!
# Reading expressions back

A reader of written expressions. The blanks outside of parentheses and quoted text cut an expression
into operands and the words of an operator, which tell the outermost node; each operand is then
read by itself. What is written for an expression reads back as its normal form, so the expressions
that are written alike are those with one normal form.
-/

namespace PigLatin

/-- The characters without the parentheses around them, if these belong together. -/
def unparenthesize : List Char → List Char
  | '(' :: cs =>
    match Place.start.untilClosed cs with
    | some (inside, []) => inside
    | _ => '(' :: cs
  | cs => cs

/-- The operator after an operand that the words spell. -/
def OperatorText.suffix? (words : List (List Char)) : Option OperatorText :=
  suffixes.find? fun op => Place.start.pieces ' ' op.text.toList = words

namespace Expr

section

/-! ## The reader -/

variable (read : List Char → Option Expr)

/-- The arguments that the characters between the parentheses of a function write. A blank before
them makes the first one look like those after a comma. -/
def readArguments (inside : List Char) : Option (List Expr) :=
  if inside = [] then some []
  else ((Place.start.pieces ',' (' ' :: inside)).map List.tail).mapM read

/-- The function and its arguments that the characters write. -/
def readCall (cs : List Char) : Option Expr :=
  match cs.dropWhile (· ≠ '(') with
  | '(' :: rest =>
    match Place.start.untilClosed rest with
    | some (inside, []) => do
      let function ← (FunctionName.parse (String.ofList (cs.takeWhile (· ≠ '(')))).toOption
      let arguments ← readArguments read inside
      return .call function arguments none
    | _ => none
  | _ => none

/-- The field, or the function with its arguments, that the characters write. -/
def readName (cs : List Char) : Option Expr :=
  match (FieldName.parse (String.ofList cs)).toOption with
  | some name => some (.reference name .bytearray)
  | none => readCall read cs

/-- The expression that a single word is: a constant, a field, a function with its arguments, or an
operand after an operator that needs no blank. -/
def readWord (word : List Char) : Option Expr :=
  match word with
  | '-' :: operand =>
    match (Literal.read word).filter Literal.isNegative with
    | some value => some (.literal value)
    | none => (read (unparenthesize operand)).map fun e => .prefixed .minus e none
  | '(' :: rest => do
    let (keyword, operand) ← Place.start.untilClosed rest
    let type ← (DataType.parse (String.ofList keyword)).toOption
    let e ← read (unparenthesize operand)
    return .prefixed (.cast type) e none
  | _ =>
    match Literal.read word with
    | some value => some (.literal value)
    | none => readName read word

/-- The operand and the operator after it that the words write. -/
def readSuffixed (operand : List Char) (words : List (List Char)) : Option Expr := do
  let op ← OperatorText.suffix? words
  let e ← read (unparenthesize operand)
  return .suffixed e op none

/-- The expression that the words write. -/
def readWords : List (List Char) → Option Expr
  | [] => none
  | [word] => readWord read word
  | [first, second] =>
    if first = OperatorText.not.text.toList then
      (read (unparenthesize second)).map fun e => .prefixed .not e none
    else readSuffixed read first [second]
  | [first, second, third] =>
    match (BinaryOperator.parse (String.ofList second)).toOption with
    | some op => do
      let left ← read (unparenthesize first)
      let right ← read (unparenthesize third)
      return .binary left op right none
    | none => readSuffixed read first [second, third]
  | first :: words => readSuffixed read first words

end

/-- The expression that the characters write, if it has fewer levels than the bound. -/
def readWithin : Nat → List Char → Option Expr
  | 0, _ => none
  | bound + 1, cs => readWords (readWithin bound) (Place.start.pieces ' ' cs)

/-- The expression that the characters write. No expression has more levels than characters. -/
def read (cs : List Char) : Option Expr := readWithin (cs.length + 1) cs

/-! ## Operands -/

/-- `unparenthesize` takes away the parentheses that `parenthesized` puts around an expression, and
nothing else. -/
theorem unparenthesize_parenthesized {e : Expr} (h : Closed e.render.toList) :
    unparenthesize e.parenthesized.toList = e.render.toList := by
  rw [toList_parenthesized]
  split
  · next hsimple =>
    cases hrender : e.render.toList with
    | nil => rfl
    | cons c cs =>
      unfold unparenthesize
      split
      · next heq =>
        cases heq
        have hhead := head_render_of_isSimple hsimple (c := '(') (by rw [hrender]; rfl)
        exact absurd hhead (by decide)
      · rfl
  · simp [unparenthesize, h.untilClosed []]

end Expr

end PigLatin
