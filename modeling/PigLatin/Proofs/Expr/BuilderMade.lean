import PigLatin.Proofs.Expr.Sound
import PigLatin.Proofs.Pieces

/-!
# Expressions made by the builders

The builders put no text of their caller's before or after an operand: they know four operators
that follow an operand, and before it the negation, the sign change and the conversions. Of an
expression that is made with them alone, the blanks outside of parentheses separate the operands of
its outermost node from the words of its operator.
-/

namespace PigLatin

namespace OperatorText

/-- The operators that the builders put after an operand. -/
def suffixes : List OperatorText := [.isNull, .isNotNull, .asc, .desc]

/-- The operators that the builders put before an operand. -/
def prefixes : List OperatorText := .not :: .minus :: DataType.all.map .cast

/-- The `suffixes` of the builders leave nothing open. -/
theorem isClean_of_mem_suffixes {op : OperatorText} (h : op ∈ suffixes) : op.IsClean := by
  simp only [suffixes, List.mem_cons, List.not_mem_nil, or_false] at h
  rcases h with rfl | rfl | rfl | rfl <;> decide

/-- The `prefixes` of the builders: negation, change of sign and conversion. -/
theorem mem_prefixes {op : OperatorText} :
    op ∈ prefixes ↔ op = .not ∨ op = .minus ∨ ∃ type, op = .cast type := by
  simp [prefixes, DataType.mem_all, eq_comm]

theorem isClean_of_mem_prefixes {op : OperatorText} (h : op ∈ prefixes) : op.IsClean := by
  rcases mem_prefixes.1 h with rfl | rfl | ⟨type, rfl⟩
  · decide
  · decide
  · cases type <;> decide

end OperatorText

namespace Expr

/-- The expression is made by the builders, and by nodes whose operator or function is given to
them, at any depth. Any node may have been given a type. -/
inductive BuilderMade : Expr → Prop where
  | reference (name : FieldName) (type : DataType) : BuilderMade (reference name type)
  | literal (value : Literal) : BuilderMade (literal value)
  | suffixed {operand : Expr} {op : OperatorText} (override : Option DataType)
      (hoperand : BuilderMade operand) (hop : op ∈ OperatorText.suffixes) :
      BuilderMade (suffixed operand op override)
  | prefixed {op : OperatorText} {operand : Expr} (override : Option DataType)
      (hop : op ∈ OperatorText.prefixes) (hoperand : BuilderMade operand) :
      BuilderMade (prefixed op operand override)
  | binary {left right : Expr} (op : BinaryOperator) (override : Option DataType)
      (hleft : BuilderMade left) (hright : BuilderMade right) :
      BuilderMade (binary left op right override)
  | call (function : FunctionName) {arguments : List Expr} (override : Option DataType)
      (harguments : ∀ e ∈ arguments, BuilderMade e) :
      BuilderMade (call function arguments override)

namespace BuilderMade

variable {e f : Expr}

theorem isNull (h : e.BuilderMade) : e.isNull.BuilderMade :=
  .suffixed _ h (by simp [OperatorText.suffixes])

theorem isNotNull (h : e.BuilderMade) : e.isNotNull.BuilderMade :=
  .suffixed _ h (by simp [OperatorText.suffixes])

theorem asc (h : e.BuilderMade) : e.asc.BuilderMade :=
  .suffixed _ h (by simp [OperatorText.suffixes])

theorem desc (h : e.BuilderMade) : e.desc.BuilderMade :=
  .suffixed _ h (by simp [OperatorText.suffixes])

theorem not (h : e.BuilderMade) : e.not.BuilderMade :=
  .prefixed _ (OperatorText.mem_prefixes.2 (.inl rfl)) h

theorem negate (h : e.BuilderMade) : e.negate.BuilderMade :=
  .prefixed _ (OperatorText.mem_prefixes.2 (.inr (.inl rfl))) h

theorem cast (h : e.BuilderMade) (type : DataType) : (e.cast type).BuilderMade :=
  .prefixed _ (OperatorText.mem_prefixes.2 (.inr (.inr ⟨type, rfl⟩))) h

theorem combine (he : e.BuilderMade) (op : BinaryOperator) (hf : f.BuilderMade) :
    (e.combine op f).BuilderMade := .binary op _ he hf

/-- The builders put no operators into an expression but those that are `IsClean`. -/
theorem hasCleanOperators (h : e.BuilderMade) : e.HasCleanOperators := by
  induction h with
  | reference name type => exact .reference name type
  | literal value => exact .literal value
  | suffixed override _ hop ih =>
    exact .suffixed override ih (OperatorText.isClean_of_mem_suffixes hop)
  | prefixed override hop _ ih =>
    exact .prefixed override ih (OperatorText.isClean_of_mem_prefixes hop)
  | binary op override _ _ ihleft ihright => exact .binary op override ihleft ihright
  | call function override _ ih => exact .call function override ih

/-- What the builders make leaves no parenthesis and no quoted text open. -/
theorem closed_render (h : e.BuilderMade) : Closed e.render.toList :=
  (sound_render h.hasCleanOperators).closed

theorem closed_argumentChars {es : List Expr} (h : ∀ e ∈ es, e.BuilderMade) :
    Closed (argumentChars es) :=
  (sound_argumentChars fun e he => sound_render (h e he).hasCleanOperators).closed

end BuilderMade

/-! ## Pieces -/

/-- Constants are not cut at blanks or commas, whatever quoted text says. -/
theorem isPiece_chars {separator : Char} (hseparator : separator = ' ' ∨ separator = ',')
    (l : Literal) : IsPiece separator l.chars := by
  have hminus : IsPiece separator ['-'] := by
    refine .of_plain ?_
    rcases hseparator with rfl | rfl <;> decide
  have hpunctuation : separator ∈ punctuation := by
    rcases hseparator with rfl | rfl <;> decide
  rcases l.unsigned_cases with ⟨s, rfl⟩ | ⟨hword, -⟩
  · exact .quote (by rcases hseparator with rfl | rfl <;> decide) _
  · rw [Literal.chars_eq]
    split
    · exact hminus.append (.of_isWord hpunctuation hword)
    · exact .of_isWord hpunctuation hword

/-- Operands are not cut at blanks or commas: `parenthesized` hides both. -/
theorem isPiece_parenthesized {separator : Char} (hseparator : separator = ' ' ∨ separator = ',')
    {e : Expr} (h : Closed e.render.toList) : IsPiece separator e.parenthesized.toList := by
  have hpunctuation : separator ∈ punctuation := by
    rcases hseparator with rfl | rfl <;> decide
  rw [toList_parenthesized]
  split
  · next hsimple =>
    cases e with
    | reference name type =>
      rw [toList_render_reference]
      exact .of_isWord hpunctuation name.isWord
    | literal value =>
      rw [toList_render_literal]
      exact isPiece_chars hseparator value
    | suffixed | prefixed | binary | call => cases hsimple
  · exact .parens (by rcases hseparator with rfl | rfl <;> decide) h

/-- No comma stands in the text of an expression outside of parentheses and quoted text. -/
theorem BuilderMade.isPiece_render {e : Expr} (h : e.BuilderMade) :
    IsPiece ',' e.render.toList := by
  have hparenthesized : ∀ {e : Expr}, e.BuilderMade → IsPiece ',' e.parenthesized.toList :=
    fun h => isPiece_parenthesized (.inr rfl) h.closed_render
  have hword : ∀ {cs : List Char}, IsWord cs → IsPiece ',' cs := .of_isWord (by decide)
  cases h with
  | reference name type =>
    rw [toList_render_reference]
    exact hword name.isWord
  | literal value =>
    rw [toList_render_literal]
    exact isPiece_chars (.inr rfl) value
  | @suffixed operand op override hoperand hop =>
    rw [toList_render_suffixed]
    refine (hparenthesized hoperand).append (.of_plain ?_)
    simp only [OperatorText.suffixes, List.mem_cons, List.not_mem_nil, or_false] at hop
    rcases hop with rfl | rfl | rfl | rfl <;> decide
  | @prefixed op operand override hop hoperand =>
    rw [toList_render_prefixed]
    refine (IsPiece.append ?_ ?_).append (hparenthesized hoperand)
    · rcases OperatorText.mem_prefixes.1 hop with rfl | rfl | ⟨type, rfl⟩
      · exact .of_plain (by decide)
      · exact .of_plain (by decide)
      · rw [toList_text_cast]
        exact .parens (by decide) (by cases type <;> decide)
    · split <;> exact .of_plain (by decide)
  | @binary left right op override hleft hright =>
    have hblank : IsPiece ',' [' '] := .of_plain (by decide)
    have hsymbol : IsPiece ',' op.symbol.toList := .of_plain (by cases op <;> decide)
    rw [toList_render_binary]
    exact (hparenthesized hleft).append
      (hblank.append (hsymbol.append (hblank.append (hparenthesized hright))))
  | call function override harguments =>
    rw [toList_render_call]
    exact (hword function.isWord).append (.parens (by decide) (closed_argumentChars harguments))

end Expr

end PigLatin
