import PigLatin.Proofs.Expr.Reader

/-!
# Expressions that are written alike

Each kind of node that the builders make is found again in the words that are written for it. So the
text of an expression determines its normal form, and no two expressions have one text but those
that look alike.
-/

namespace PigLatin.Expr

section

variable {read : List Char → Option Expr}

/-! ## Single words -/

theorem readWord_chars (l : Literal) : readWord read l.chars = some (.literal l.normalForm) := by
  have hread := l.read_chars
  cases hnegative : l.isNegative with
  | true =>
    have hnormalForm : l.normalForm.isNegative = true := by rw [l.unsigned_normalForm.1, hnegative]
    rw [Literal.chars_of_isNegative hnegative] at hread ⊢
    simp only [readWord, hread, Option.filter_some, hnormalForm, if_true]
  | false =>
    have hhead : ∀ c ∈ l.chars.head?, c ≠ '-' ∧ c ≠ '(' := by
      intro c hc
      have hsimple : (literal l).isSimple = true := by simp [isSimple, hnegative]
      have hcase := head_render_of_isSimple hsimple (by rwa [toList_render_literal])
      constructor <;> rintro rfl <;> exact absurd hcase (by decide)
    unfold readWord
    split
    · next heq => exact absurd rfl (hhead '-' (by rw [heq]; rfl)).1
    · next heq => exact absurd rfl (hhead '(' (by rw [heq]; rfl)).2
    · rw [hread]

/-- `readWord` takes a word that starts like a name neither for a constant nor for an operator with
its operand. -/
theorem readWord_cons {c : Char} {cs : List Char} (hdigit : c.isDigit = false)
    (hpunctuation : c ∉ punctuation) : readWord read (c :: cs) = readName read (c :: cs) := by
  have hminus : c ≠ '-' := fun h => hpunctuation (h ▸ by decide)
  have hopen : c ≠ '(' := fun h => hpunctuation (h ▸ by decide)
  unfold readWord
  split
  · next heq =>
    cases heq
    exact absurd rfl hminus
  · next heq =>
    cases heq
    exact absurd rfl hopen
  · simp only [Literal.read_eq_none hdigit hpunctuation]

theorem readWord_reference (name : FieldName) :
    readWord read name.text.toList = some (.reference name .bytearray) := by
  obtain ⟨c, cs, heq, hdigit⟩ := name.exists_head
  have hc : c ∉ punctuation := name.isWord c (heq ▸ List.mem_cons_self)
  rw [heq, readWord_cons hdigit hc, ← heq, readName, String.ofList_toList, FieldName.parse_text]
  rfl

/-- `readWord` reads a conversion back, if it reads its operand back. -/
theorem readWord_cast {e : Expr} (type : DataType) (h : Closed e.render.toList)
    (hread : read e.render.toList = some e.normalForm) :
    readWord read ((OperatorText.cast type).text.toList ++ e.parenthesized.toList) =
      some (prefixedForm (.cast type) e.normalForm) := by
  have hkeyword : Closed type.keyword.toList := by cases type <;> decide
  have hminus : OperatorText.cast type ≠ .minus := by cases type <;> decide
  simp [toList_text_cast, readWord, hkeyword.untilClosed, unparenthesize_parenthesized h, hread,
    prefixedForm, hminus, Except.toOption]

/-- Only constants are written with a digit first, so `Numeral.ofChars?` refuses all other
operands. -/
theorem exists_numeral_of_parenthesized {e : Expr} {numeral : Numeral}
    (h : Numeral.ofChars? e.parenthesized.toList = some numeral) :
    ∃ l, e = .literal l ∧ Literal.ofNumeral? false numeral = some l.normalForm := by
  have hnone : ∀ {c : Char} {cs : List Char}, e.parenthesized.toList = c :: cs →
      ¬c.isDigit = false := by
    intro c cs heq hc
    simp [heq, Numeral.ofChars?, hc] at h
  cases hsimple : e.isSimple with
  | false =>
    have hparenthesized := e.toList_parenthesized
    rw [hsimple] at hparenthesized
    exact absurd rfl (hnone hparenthesized)
  | true =>
    have hparenthesized := e.toList_parenthesized
    rw [hsimple, if_pos rfl] at hparenthesized
    cases e with
    | reference name type =>
      obtain ⟨c, cs, heq, hc⟩ := name.exists_head
      exact absurd hc (hnone (by rw [hparenthesized, toList_render_reference, heq]))
    | literal l =>
      have hnonneg : l.isNegative = false := by simpa [isSimple] using hsimple
      rw [toList_render_literal, Literal.chars_of_not_isNegative hnonneg] at hparenthesized
      have hnumber : ∀ s, l ≠ .chararray s := by
        rintro s rfl
        exact absurd rfl (hnone hparenthesized)
      obtain ⟨numeral', hread, hnumeral⟩ := Literal.exists_numeral hnumber
      rw [← hparenthesized, h] at hread
      cases hread
      rw [hnonneg] at hnumeral
      exact ⟨l, rfl, hnumeral⟩
    | suffixed | prefixed | binary | call => cases hsimple

/-- A sign before an operand makes a negative constant exactly of the constant that is its
`opposite?`. -/
theorem opposite?_eq_filter (e : Expr) : e.normalForm.opposite? =
    (Literal.read ('-' :: e.parenthesized.toList)).filter Literal.isNegative := by
  cases hconstant : (Literal.read ('-' :: e.parenthesized.toList)).filter Literal.isNegative with
  | some m =>
    obtain ⟨hread, hnegative⟩ := Option.filter_eq_some_iff.1 hconstant
    obtain ⟨numeral, hnumeral, hm⟩ := Option.bind_eq_some_iff.1 hread
    obtain ⟨l, rfl, hl⟩ := exists_numeral_of_parenthesized hnumeral
    exact Literal.opposite?_of_ofNumeral? hl hm hnegative
  | none =>
    cases hform : e.normalForm with
    | literal l =>
      cases hopposite : l.opposite? with
      | none => exact hopposite
      | some m =>
        obtain ⟨hl, hm, hchars⟩ := Literal.chars_of_opposite? hopposite
        obtain ⟨hsimple, hrender⟩ := e.normalForm_written
        have hparenthesized : e.parenthesized.toList = l.chars := by
          rw [toList_parenthesized, ← hsimple, ← hrender, hform]
          simp [isSimple, hl]
        rw [hparenthesized, ← hchars, m.read_chars, Option.filter_some, m.unsigned_normalForm.1,
          hm] at hconstant
        cases hconstant
    | reference | suffixed | prefixed | binary | call => rfl

/-- `readWord` reads a change of sign back, if it reads its operand back. -/
theorem readWord_minus {e : Expr} (h : Closed e.render.toList)
    (hread : read e.render.toList = some e.normalForm) :
    readWord read ('-' :: e.parenthesized.toList) = some (prefixedForm .minus e.normalForm) := by
  simp only [readWord, unparenthesize_parenthesized h, hread, Option.map_some, prefixedForm,
    if_true, ← opposite?_eq_filter]
  cases e.normalForm.opposite? <;> rfl

/-! ## Functions and their arguments -/

theorem render_ne_nil (e : Expr) : e.render.toList ≠ [] := by
  cases e with
  | reference name type =>
    obtain ⟨c, cs, heq, -⟩ := name.exists_head
    simp [heq]
  | literal value =>
    rw [toList_render_literal, Literal.chars_eq]
    rcases value.unsigned_cases with ⟨s, rfl⟩ | ⟨-, c, cs, heq, -⟩
    · exact List.cons_ne_nil _ _
    · split <;> simp [heq]
  | prefixed op operand override =>
    simp [op.nonempty]
  | suffixed | binary | call => simp

/-- `Place.pieces` cuts the arguments of a function at the commas between them. -/
theorem pieces_argumentChars {e : Expr} {es : List Expr}
    (h : ∀ a ∈ e :: es, IsPiece ',' a.render.toList) :
    Place.start.pieces ',' (' ' :: argumentChars (e :: es)) =
      (e :: es).map fun a => ' ' :: a.render.toList := by
  have hblank : IsPiece ',' [' '] := .of_plain (by decide)
  induction es generalizing e with
  | nil =>
    have he := hblank.append (h e List.mem_cons_self)
    simpa [argumentChars] using he.pieces_eq
  | cons next es ih =>
    obtain ⟨he, hes⟩ := List.forall_mem_cons.1 h
    have hsplit : argumentChars (e :: next :: es) =
        e.render.toList ++ ',' :: ' ' :: argumentChars (next :: es) := by
      simp [argumentChars]
    rw [hsplit, List.map_cons, ← ih hes]
    exact (hblank.append he).pieces_append_cons _

theorem readArguments_argumentChars {es : List Expr}
    (hpieces : ∀ e ∈ es, IsPiece ',' e.render.toList)
    (hread : ∀ e ∈ es, read e.render.toList = some e.normalForm) :
    readArguments read (argumentChars es) = some (normalForms es) := by
  have heach : ∀ {es : List Expr}, (∀ e ∈ es, read e.render.toList = some e.normalForm) →
      (es.map fun e => e.render.toList).mapM read = some (normalForms es) := by
    intro es hread
    induction es with
    | nil => simp [normalForms]
    | cons e es ih =>
      obtain ⟨he, hes⟩ := List.forall_mem_cons.1 hread
      simp [normalForms, he, ih hes]
  cases es with
  | nil => simp [readArguments, argumentChars, normalForms]
  | cons e es =>
    have hne : argumentChars (e :: es) ≠ [] := by
      simp [argumentChars_cons, e.render_ne_nil]
    rw [readArguments, if_neg hne, pieces_argumentChars hpieces, List.map_map]
    exact heach hread

/-- `readWord` reads a call back, if it reads the arguments back. -/
theorem readWord_call {function : FunctionName} {arguments : List Expr}
    (hpieces : ∀ e ∈ arguments, IsPiece ',' e.render.toList)
    (hclosed : Closed (argumentChars arguments))
    (hread : ∀ e ∈ arguments, read e.render.toList = some e.normalForm) :
    readWord read (function.text.toList ++ ('(' :: argumentChars arguments ++ [')'])) =
      some (.call function (normalForms arguments) none) := by
  have hname : ∀ c ∈ function.text.toList, (decide (c ≠ '(')) = true := by
    intro c hc
    have hne : c ≠ '(' := by
      rintro rfl
      exact function.isWord _ hc (by decide)
    exact decide_eq_true hne
  have hdrop : (function.text.toList ++ ('(' :: argumentChars arguments ++ [')'])).dropWhile
      (· ≠ '(') = '(' :: (argumentChars arguments ++ [')']) := by
    rw [List.dropWhile_append_of_pos hname]
    simp
  have htake : (function.text.toList ++ ('(' :: argumentChars arguments ++ [')'])).takeWhile
      (· ≠ '(') = function.text.toList := by
    rw [List.takeWhile_append_of_pos hname]
    simp
  have hcall : readCall read (function.text.toList ++ ('(' :: argumentChars arguments ++ [')'])) =
      some (.call function (normalForms arguments) none) := by
    simp only [readCall, hdrop, htake, hclosed.untilClosed [], String.ofList_toList,
      FunctionName.parse_text, readArguments_argumentChars hpieces hread]
    rfl
  have hfield : (FieldName.parse (String.ofList (function.text.toList ++
      ('(' :: argumentChars arguments ++ [')'])))).toOption = none := by
    cases hparse : FieldName.parse (String.ofList (function.text.toList ++
        ('(' :: argumentChars arguments ++ [')']))) with
    | error _ => rfl
    | ok name => exact absurd (FieldName.isWord_of_parse hparse '(' (by simp)) (by decide)
  obtain ⟨c, cs, heq, hdigit⟩ := function.exists_head
  have hc : c ∉ punctuation := function.isWord c (heq ▸ List.mem_cons_self)
  rw [heq, List.cons_append] at hcall hfield ⊢
  rw [readWord_cons hdigit hc, readName, hfield]
  exact hcall

/-! ## Several words -/

theorem suffix?_pieces {op : OperatorText} (hop : op ∈ OperatorText.suffixes) :
    OperatorText.suffix? (Place.start.pieces ' ' op.text.toList) = some op := by
  revert op
  decide

theorem readSuffixed_pieces {e : Expr} {op : OperatorText} (hop : op ∈ OperatorText.suffixes)
    (h : Closed e.render.toList) (hread : read e.render.toList = some e.normalForm) :
    readSuffixed read e.parenthesized.toList (Place.start.pieces ' ' op.text.toList) =
      some (.suffixed e.normalForm op none) := by
  simp [readSuffixed, suffix?_pieces hop, unparenthesize_parenthesized h, hread]

/-- The field `NOT` is the only operand that looks like a negation. -/
theorem isFieldNot_normalForm_iff (e : Expr) : e.normalForm.isFieldNot = true ↔
    e.parenthesized.toList = OperatorText.not.text.toList := by
  obtain ⟨hsimple, hrender⟩ := e.normalForm_written
  rw [toList_parenthesized, ← hsimple, ← hrender, toList_text_not]
  cases e.normalForm with
  | reference name type =>
    have hname : name = .not ↔ name.text.toList = ['N', 'O', 'T'] := by
      constructor
      · rintro rfl
        rfl
      · intro htext
        obtain ⟨text, valid⟩ := name
        obtain rfl : text = "NOT" := String.toList_inj.1 htext
        rfl
    simp [isFieldNot, isSimple, hname]
  | literal l =>
    refine iff_of_false (by simp [isFieldNot]) fun h => ?_
    cases hnegative : l.isNegative with
    | true => simp [isSimple, hnegative] at h
    | false =>
      simp only [isSimple, hnegative, Bool.not_false, if_true, toList_render_literal,
        Literal.chars_of_not_isNegative hnegative] at h
      rcases l.unsigned_cases with ⟨s, rfl⟩ | ⟨-, c, cs, heq, hc⟩
      · cases h
      · rw [heq] at h
        cases h
        cases hc
  | suffixed | prefixed | binary | call => simp [isFieldNot, isSimple]

/-- `readWords` reads an operator behind its operand back, if it reads the operand back. -/
theorem readWords_suffixed {e : Expr} {op : OperatorText} (hop : op ∈ OperatorText.suffixes)
    (hfield : ∀ name : FieldName, op.fieldName? = some name →
      read (unparenthesize name.text.toList) = some (.reference name .bytearray))
    (h : Closed e.render.toList) (hread : read e.render.toList = some e.normalForm) :
    readWords read (e.parenthesized.toList :: Place.start.pieces ' ' op.text.toList) =
      some (suffixedForm e.normalForm op) := by
  have hsuffixed := readSuffixed_pieces hop h hread
  have horder : ∀ name : FieldName, op.fieldName? = some name →
      Place.start.pieces ' ' op.text.toList = [op.text.toList] →
      readWords read (e.parenthesized.toList :: Place.start.pieces ' ' op.text.toList) =
        some (suffixedForm e.normalForm op) := by
    intro name hname hpieces
    rw [hpieces] at hsuffixed ⊢
    simp only [readWords, suffixedForm, hname, ← isFieldNot_normalForm_iff]
    split
    · rw [← OperatorText.text_of_fieldName? hname, hfield name hname]
      rfl
    · exact hsuffixed
  simp only [OperatorText.suffixes, List.mem_cons, List.not_mem_nil, or_false] at hop
  rcases hop with rfl | rfl | rfl | rfl
  · exact hsuffixed
  · exact hsuffixed
  · exact horder _ rfl rfl
  · exact horder _ rfl rfl

theorem readWords_not {e : Expr} (h : Closed e.render.toList)
    (hread : read e.render.toList = some e.normalForm) :
    readWords read [OperatorText.not.text.toList, e.parenthesized.toList] =
      some (.prefixed .not e.normalForm none) := by
  simp [readWords, unparenthesize_parenthesized h, hread]

/-- `readWords` reads an operator between two operands back, if it reads the operands back. -/
theorem readWords_binary {left right : Expr} {op : BinaryOperator}
    (hleft : Closed left.render.toList) (hright : Closed right.render.toList)
    (hreadLeft : read left.render.toList = some left.normalForm)
    (hreadRight : read right.render.toList = some right.normalForm) :
    readWords read [left.parenthesized.toList, op.symbol.toList, right.parenthesized.toList] =
      some (.binary left.normalForm op right.normalForm none) := by
  simp [readWords, unparenthesize_parenthesized hleft, unparenthesize_parenthesized hright,
    hreadLeft, hreadRight, Except.toOption]

end

/-! ## Whole expressions -/

theorem length_render_le (e : Expr) :
    e.render.toList.length ≤ e.parenthesized.toList.length := by
  rw [toList_parenthesized]
  split
  · exact Nat.le_refl _
  · simp
    omega

theorem length_render_le_of_mem {e : Expr} {es : List Expr} (h : e ∈ es) :
    e.render.toList.length ≤ (argumentChars es).length := by
  obtain ⟨before, after, rfl⟩ := List.append_of_mem h
  simp [argumentChars_append_cons]
  omega

/-- `readWords` finds the outermost node in the words, whichever way shorter texts are read back. -/
theorem readWords_render {e : Expr} (h : e.BuilderMade) {read : List Char → Option Expr}
    (hread : ∀ {f : Expr}, f.BuilderMade → f.render.toList.length < e.render.toList.length →
      read f.render.toList = some f.normalForm) :
    readWords read (Place.start.pieces ' ' e.render.toList) = some e.normalForm := by
  have hpiece : ∀ {e : Expr}, e.BuilderMade → IsPiece ' ' e.parenthesized.toList :=
    fun h => isPiece_parenthesized (.inl rfl) h.closed_render
  cases h with
  | reference name type =>
    have hname : IsPiece ' ' name.text.toList := .of_isWord (by decide) name.isWord
    rw [toList_render_reference, hname.pieces_eq, normalForm]
    exact readWord_reference name
  | literal value =>
    rw [toList_render_literal, (isPiece_chars (.inl rfl) value).pieces_eq, normalForm]
    exact readWord_chars value
  | @suffixed operand op override hoperand hop =>
    simp only [toList_render_suffixed, List.length_append, List.length_cons] at hread
    rw [toList_render_suffixed, (hpiece hoperand).pieces_append_cons, normalForm]
    refine readWords_suffixed hop (fun name hname => ?_) hoperand.closed_render
      (hread hoperand (by have := operand.length_render_le; omega))
    have hfield : BuilderMade (reference name .bytearray) := .reference name .bytearray
    have hunparenthesize := unparenthesize_parenthesized hfield.closed_render
    have htext := OperatorText.text_of_fieldName? hname
    have hname := hread hfield (by rw [toList_render_reference, htext]; omega)
    rw [← hunparenthesize, normalForm] at hname
    simpa [toList_parenthesized, isSimple] using hname
  | @prefixed op operand override hop hoperand =>
    have hlength := operand.length_render_le
    have hclosed := hoperand.closed_render
    rw [normalForm]
    rcases OperatorText.mem_prefixes.1 hop with rfl | rfl | ⟨type, rfl⟩
    · have hnot : IsPiece ' ' OperatorText.not.text.toList := .of_plain (by decide)
      simp only [toList_render_not, List.length_append, List.length_cons] at hread
      rw [toList_render_not, hnot.pieces_append_cons, (hpiece hoperand).pieces_eq]
      exact readWords_not hclosed (hread hoperand (by omega))
    · have hminus : IsPiece ' ' ['-'] := .of_plain (by decide)
      have hword := (hminus.append (hpiece hoperand)).pieces_eq
      simp only [toList_render_minus, List.length_cons] at hread
      rw [toList_render_minus, ← List.singleton_append, hword]
      exact readWord_minus hclosed (hread hoperand (by omega))
    · have hcast : IsPiece ' ' (OperatorText.cast type).text.toList := by
        rw [toList_text_cast]
        exact .parens (by decide) (by cases type <;> decide)
      have hword := (hcast.append (hpiece hoperand)).pieces_eq
      have htext : 0 < (OperatorText.cast type).text.toList.length := by
        simp [toList_text_cast]
      simp only [toList_render_cast, List.length_append] at hread
      rw [toList_render_cast, hword]
      exact readWord_cast type hclosed (hread hoperand (by omega))
  | @binary left right op override hleft hright =>
    have hlengthLeft := left.length_render_le
    have hlengthRight := right.length_render_le
    have hsymbol : IsPiece ' ' op.symbol.toList := .of_plain (by cases op <;> decide)
    simp only [toList_render_binary, List.length_append, List.length_cons] at hread
    rw [toList_render_binary, (hpiece hleft).pieces_append_cons, hsymbol.pieces_append_cons,
      (hpiece hright).pieces_eq, normalForm]
    exact readWords_binary hleft.closed_render hright.closed_render
      (hread hleft (by omega)) (hread hright (by omega))
  | @call function arguments override harguments =>
    have hclosed := BuilderMade.closed_argumentChars harguments
    have hword : IsPiece ' ' (function.text.toList ++ ('(' :: argumentChars arguments ++ [')'])) :=
      (IsPiece.of_isWord (by decide) function.isWord).append (.parens (by decide) hclosed)
    simp only [toList_render_call, List.length_append, List.length_cons] at hread
    rw [toList_render_call, hword.pieces_eq, normalForm]
    refine readWord_call (fun e he => (harguments e he).isPiece_render) hclosed fun e he => ?_
    have hlength := length_render_le_of_mem he
    exact hread (harguments e he) (by omega)

/-- A bound above the length of the text is enough for `readWithin`. -/
theorem readWithin_render {e : Expr} (h : e.BuilderMade) {bound : Nat}
    (hbound : e.render.toList.length < bound) :
    readWithin bound e.render.toList = some e.normalForm := by
  induction bound generalizing e with
  | zero => exact absurd hbound (Nat.not_lt_zero _)
  | succ bound ih => exact readWords_render h fun hf hlt => ih hf (by omega)

/-- `read` gives the `normalForm` of every expression that the builders make. -/
theorem read_render {e : Expr} (h : e.BuilderMade) :
    read e.render.toList = some e.normalForm :=
  readWithin_render h (Nat.lt_succ_self _)

/-- The text of an expression that the builders make determines its `normalForm`. -/
theorem normalForm_eq_of_render_eq {e f : Expr} (he : e.BuilderMade) (hf : f.BuilderMade)
    (h : e.render = f.render) : e.normalForm = f.normalForm := by
  have hread := read_render he
  rw [h, read_render hf] at hread
  exact (Option.some.inj hread).symm

/-- Two expressions that the builders make have one text exactly if they are `Alike`. -/
theorem render_eq_iff_alike {e f : Expr} (he : e.BuilderMade) (hf : f.BuilderMade) :
    e.render = f.render ↔ Alike e f := by
  constructor
  · intro hrender
    have hnormalForm := normalForm_eq_of_render_eq he hf hrender
    exact e.alike_normalForm.trans (hnormalForm ▸ f.alike_normalForm.symm)
  · intro halike
    exact String.toList_inj.1 halike.written.2

/-- The field `NOT` in ascending order is written like the negation of the field `ASC`, and the sign
change of a number like the negative number. -/
theorem render_asc_not_and_negate :
    (asc (.reference .not .chararray)).render = (not (.reference .asc .boolean)).render ∧
      (negate (.literal (.int 5))).render = (Expr.literal (.int (-5))).render := by
  refine ⟨?_, ?_⟩
  · exact (render_eq_iff_alike (BuilderMade.reference _ _).asc (BuilderMade.reference _ _).not).2
      (.asc _ _)
  · exact (render_eq_iff_alike (BuilderMade.literal _).negate (.literal _)).2
      (.negate (by decide))

end PigLatin.Expr
