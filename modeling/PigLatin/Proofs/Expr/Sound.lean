import PigLatin.Proofs.Expr.Basic
import PigLatin.Proofs.Literal

/-!
# Written expressions are lexically sound

However deep an expression is nested, and whatever its constants say, its written form leaves
nothing open, starts no comment and stays on one line, as long as the texts of its operators do so
themselves. The parentheses that a compound node gets within a larger expression belong together.
-/

namespace PigLatin

/-! ## Operators that keep their peace -/

/-- The text of an operator holds no quote, no line break and no comment, and its parentheses are
balanced. -/
structure OperatorText.IsClean (op : OperatorText) : Prop where
  noQuote : '\'' ∉ op.text.toList
  noLineBreak : '\n' ∉ op.text.toList
  noComment : CommentFree op.text.toList
  balanced : Closed op.text.toList

instance (op : OperatorText) : Decidable op.IsClean :=
  decidable_of_iff ('\'' ∉ op.text.toList ∧ '\n' ∉ op.text.toList ∧ CommentFree op.text.toList ∧
      Closed op.text.toList)
    ⟨fun ⟨noQuote, noLineBreak, noComment, balanced⟩ =>
        ⟨noQuote, noLineBreak, noComment, balanced⟩,
      fun h => ⟨h.noQuote, h.noLineBreak, h.noComment, h.balanced⟩⟩

theorem OperatorText.IsClean.sound {op : OperatorText} (h : op.IsClean) : Sound op.text.toList :=
  .of_notMem_quote h.noQuote h.balanced h.noComment h.noLineBreak

namespace Expr

/-- Every operator before or after an operand is clean, at any depth. -/
inductive HasCleanOperators : Expr → Prop where
  | reference (name : FieldName) (type : DataType) : HasCleanOperators (reference name type)
  | literal (value : Literal) : HasCleanOperators (literal value)
  | suffixed {operand : Expr} {op : OperatorText} (override : Option DataType)
      (hoperand : HasCleanOperators operand) (hop : op.IsClean) :
      HasCleanOperators (suffixed operand op override)
  | prefixed {operand : Expr} {op : OperatorText} (override : Option DataType)
      (hoperand : HasCleanOperators operand) (hop : op.IsClean) :
      HasCleanOperators (prefixed op operand override)
  | binary {left right : Expr} (op : BinaryOperator) (override : Option DataType)
      (hleft : HasCleanOperators left) (hright : HasCleanOperators right) :
      HasCleanOperators (binary left op right override)
  | call (function : FunctionName) {arguments : List Expr} (override : Option DataType)
      (harguments : ∀ e ∈ arguments, HasCleanOperators e) :
      HasCleanOperators (call function arguments override)

/-! ## Soundness -/

/-- What `isSimple` starts with a quote or with a character of a word. -/
theorem head_render_of_isSimple {e : Expr} {c : Char} (hsimple : e.isSimple = true)
    (h : c ∈ e.render.toList.head?) : c = '\'' ∨ c ∉ punctuation := by
  cases e with
  | reference name type =>
    rw [toList_render_reference] at h
    exact .inr (name.isWord c (List.mem_of_mem_head? h))
  | literal value =>
    have hnonneg : value.isNegative = false := by simpa [isSimple] using hsimple
    rw [toList_render_literal, Literal.chars_of_not_isNegative hnonneg] at h
    rcases value.unsigned_cases with ⟨s, rfl⟩ | ⟨hword, -⟩
    · cases h
      exact .inl rfl
    · exact .inr (hword c (List.mem_of_mem_head? h))
  | suffixed | prefixed | binary | call => cases hsimple

/-- Within a larger expression, text starts with a parenthesis, a quote or a character of a word. -/
theorem head_parenthesized {e : Expr} {c : Char} (h : c ∈ e.parenthesized.toList.head?) :
    c = '(' ∨ c = '\'' ∨ c ∉ punctuation := by
  rw [toList_parenthesized] at h
  split at h
  · next hsimple => exact .inr (head_render_of_isSimple hsimple h)
  · cases h
    exact .inl rfl

/-- No operand goes on with a comment that an operator could begin. -/
theorem head_parenthesized_ne (e : Expr) :
    ∀ c ∈ e.parenthesized.toList.head?, c ≠ '-' ∧ c ≠ '*' := by
  intro c hc
  constructor <;> rintro rfl <;> exact absurd (head_parenthesized hc) (by decide)

theorem sound_parenthesized {e : Expr} (h : Sound e.render.toList) :
    Sound e.parenthesized.toList := by
  rw [toList_parenthesized]
  split
  · exact h
  · exact h.parens

theorem sound_symbol (op : BinaryOperator) : Sound op.symbol.toList := by
  cases op <;> decide

theorem sound_argumentChars {es : List Expr} (h : ∀ e ∈ es, Sound e.render.toList) :
    Sound (argumentChars es) := by
  have hcomma : Sound [','] := by decide
  induction es with
  | nil => exact .of_isWord (by decide)
  | cons e es ih =>
    obtain ⟨he, hes⟩ := List.forall_mem_cons.1 h
    cases es with
    | nil => simpa [argumentChars] using he
    | cons next es =>
      have hrest := (he.append_of_head hcomma (by simp)).append_blank (ih hes)
      simpa [argumentChars] using hrest

/-- Every expression with clean operators is written as text that is `Sound`. -/
theorem sound_render {e : Expr} (h : e.HasCleanOperators) : Sound e.render.toList := by
  induction h with
  | reference name type => rw [toList_render_reference]; exact .of_isWord name.isWord
  | literal value => rw [toList_render_literal]; exact value.sound_chars
  | suffixed override hoperand hop ih =>
    rw [toList_render_suffixed]
    exact (sound_parenthesized ih).append_blank hop.sound
  | @prefixed operand op override hoperand hop ih =>
    have hspaced : Sound (op.text.toList ++ if op.endsInWord then [' '] else []) := by
      split
      · exact hop.sound.append_of_head (by decide) (by simp)
      · simpa using hop.sound
    rw [toList_render_prefixed]
    exact hspaced.append_of_head (sound_parenthesized ih) operand.head_parenthesized_ne
  | binary op override hleft hright ihleft ihright =>
    rw [toList_render_binary]
    exact (sound_parenthesized ihleft).append_blank
      ((sound_symbol op).append_blank (sound_parenthesized ihright))
  | call function override harguments ih =>
    rw [toList_render_call]
    exact (Sound.of_isWord function.isWord).append_of_head (sound_argumentChars ih).parens (by simp)

end Expr

end PigLatin
