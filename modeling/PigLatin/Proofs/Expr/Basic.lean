import PigLatin.Expr

/-!
# Nodes of expressions

Induction over expressions, and the characters that each kind of node is written with.
-/

namespace PigLatin.Expr

/-- Induction over expressions: the arguments of a `call` are expressions of their own. -/
@[elab_as_elim, induction_eliminator]
theorem inductionOn {motive : Expr → Prop}
    (reference : ∀ name type, motive (reference name type))
    (literal : ∀ value, motive (literal value))
    (suffixed : ∀ operand op override, motive operand → motive (suffixed operand op override))
    (prefixed : ∀ op operand override, motive operand → motive (prefixed op operand override))
    (binary : ∀ left op right override, motive left → motive right →
      motive (binary left op right override))
    (call : ∀ function arguments override, (∀ e ∈ arguments, motive e) →
      motive (call function arguments override)) : ∀ e, motive e
  | .reference name type => reference name type
  | .literal value => literal value
  | .suffixed operand op override =>
    suffixed operand op override
      (inductionOn reference literal suffixed prefixed binary call operand)
  | .prefixed op operand override =>
    prefixed op operand override
      (inductionOn reference literal suffixed prefixed binary call operand)
  | .binary left op right override =>
    binary left op right override
      (inductionOn reference literal suffixed prefixed binary call left)
      (inductionOn reference literal suffixed prefixed binary call right)
  | .call function arguments override =>
    call function arguments override fun e _ =>
      inductionOn reference literal suffixed prefixed binary call e

/-! ## Operators -/

theorem toList_text_not : OperatorText.not.text.toList = ['N', 'O', 'T'] := by decide

theorem toList_text_minus : OperatorText.minus.text.toList = ['-'] := by decide

theorem toList_text_cast (type : DataType) :
    (OperatorText.cast type).text.toList = '(' :: type.keyword.toList ++ [')'] := by
  simp [OperatorText.cast]

theorem endsInWord_of_getLast? {op : OperatorText} {c : Char}
    (h : op.text.toList.getLast? = some c) :
    op.endsInWord = (Unicode.isAlphabetic c || Unicode.isNumeric c) := by
  simp only [OperatorText.endsInWord, h]

/-- Of the characters of ASCII, `endsInWord` takes the letters and digits for those that a word can
end in. -/
theorem endsInWord_of_ascii {op : OperatorText} {c : Char}
    (h : op.text.toList.getLast? = some c) (hascii : c.toNat < 128) :
    op.endsInWord = c.isAlphanum := by
  rw [endsInWord_of_getLast? h, Unicode.isAlphabetic_of_ascii hascii,
    Unicode.isNumeric_of_ascii hascii, Char.isAlphanum]

theorem endsInWord_not : OperatorText.not.endsInWord = true :=
  endsInWord_of_ascii (c := 'T') (by rw [toList_text_not]; rfl) (by decide)

theorem endsInWord_minus : OperatorText.minus.endsInWord = false :=
  endsInWord_of_ascii (c := '-') (by rw [toList_text_minus]; rfl) (by decide)

theorem endsInWord_cast (type : DataType) : (OperatorText.cast type).endsInWord = false :=
  endsInWord_of_ascii (c := ')') (by rw [toList_text_cast, List.getLast?_concat]) (by decide)

/-! ## Written forms -/

section

variable (operand left right : Expr) (op : OperatorText) (override : Option DataType)

theorem render_suffixed :
    (suffixed operand op override).render = operand.parenthesized ++ " " ++ op.text := rfl

theorem render_prefixed : (prefixed op operand override).render =
    op.text ++ (if op.endsInWord then " " else "") ++ operand.parenthesized := rfl

theorem render_binary (symbol : BinaryOperator) : (binary left symbol right override).render =
    left.parenthesized ++ " " ++ symbol.symbol ++ " " ++ right.parenthesized := rfl

theorem render_call (function : FunctionName) (arguments : List Expr) :
    (call function arguments override).render =
      function.text ++ "(" ++ ", ".intercalate (renderAll arguments) ++ ")" := rfl

end

/-- `parenthesized` puts what is not `isSimple` between parentheses, and nothing else. -/
theorem toList_parenthesized (e : Expr) : e.parenthesized.toList =
    if e.isSimple then e.render.toList else '(' :: e.render.toList ++ [')'] := by
  unfold parenthesized enclose
  split <;> simp

@[simp] theorem toList_render_reference (name : FieldName) (type : DataType) :
    (reference name type).render.toList = name.text.toList := rfl

@[simp] theorem toList_render_literal (value : Literal) :
    (literal value).render.toList = value.chars :=
  String.toList_ofList

@[simp] theorem toList_render_suffixed (operand : Expr) (op : OperatorText)
    (override : Option DataType) : (suffixed operand op override).render.toList =
      operand.parenthesized.toList ++ ' ' :: op.text.toList := by
  simp [render_suffixed]

@[simp] theorem toList_render_prefixed (op : OperatorText) (operand : Expr)
    (override : Option DataType) : (prefixed op operand override).render.toList =
      op.text.toList ++ (if op.endsInWord then [' '] else []) ++ operand.parenthesized.toList := by
  simp only [render_prefixed, String.toList_append]
  split <;> simp

theorem toList_render_not (operand : Expr) (override : Option DataType) :
    (prefixed .not operand override).render.toList =
      OperatorText.not.text.toList ++ ' ' :: operand.parenthesized.toList := by
  simp [endsInWord_not]

theorem toList_render_minus (operand : Expr) (override : Option DataType) :
    (prefixed .minus operand override).render.toList = '-' :: operand.parenthesized.toList := by
  simp [endsInWord_minus, toList_text_minus]

theorem toList_render_cast (type : DataType) (operand : Expr) (override : Option DataType) :
    (prefixed (.cast type) operand override).render.toList =
      (OperatorText.cast type).text.toList ++ operand.parenthesized.toList := by
  simp [endsInWord_cast]

@[simp] theorem toList_render_binary (left : Expr) (op : BinaryOperator) (right : Expr)
    (override : Option DataType) : (binary left op right override).render.toList =
      left.parenthesized.toList ++ ' ' :: (op.symbol.toList ++ ' ' ::
        right.parenthesized.toList) := by
  simp [render_binary]

/-- The arguments of a function as they are written, with commas and blanks between them. -/
def argumentChars (arguments : List Expr) : List Char :=
  [',', ' '].intercalate (arguments.map fun e => e.render.toList)

@[simp] theorem toList_render_call (function : FunctionName) (arguments : List Expr)
    (override : Option DataType) : (call function arguments override).render.toList =
      function.text.toList ++ ('(' :: argumentChars arguments ++ [')']) := by
  have hmap : (arguments.map render).map String.toList =
      arguments.map fun e => e.render.toList := by
    simp
  simp [render_call, renderAll_eq_map, argumentChars, hmap]

theorem argumentChars_cons (e : Expr) (es : List Expr) : argumentChars (e :: es) =
    e.render.toList ++ es.flatMap fun e => ',' :: ' ' :: e.render.toList := by
  induction es generalizing e with
  | nil => simp [argumentChars]
  | cons first rest ih =>
    simp only [argumentChars, List.map_cons] at ih ⊢
    simp [ih]

/-- Each argument has a comma and a blank on the side of every argument beside it. -/
theorem argumentChars_append_cons (es : List Expr) (e : Expr) (rest : List Expr) :
    argumentChars (es ++ e :: rest) = (es.flatMap fun e => e.render.toList ++ [',', ' ']) ++
      (e.render.toList ++ rest.flatMap fun e => ',' :: ' ' :: e.render.toList) := by
  induction es with
  | nil => simp [argumentChars_cons]
  | cons first es ih =>
    rw [List.cons_append, argumentChars_cons, List.flatMap_cons, List.append_assoc, ← ih]
    cases es <;> simp [argumentChars_cons]

end PigLatin.Expr
