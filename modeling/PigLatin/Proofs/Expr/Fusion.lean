import PigLatin.Proofs.Expr.Basic
import PigLatin.Proofs.Literal
import PigLatin.Proofs.Name

/-!
# Expressions that read as fields

The written form of a compound expression holds a blank, a parenthesis or a minus sign, none of
which a name has. The exception is an operator that stands before a simple operand without a blank:
if it ends in one of the other characters of names, operator and operand may fuse into one name.
-/

namespace PigLatin

theorem OperatorText.toList_ne_nil (op : OperatorText) : op.text.toList ≠ [] := by
  intro h
  exact op.nonempty (String.toList_eq_nil_iff.1 h)

namespace Expr

/-! ## Simple operands -/

/-- The written form can go on with a word that has been begun: a name, or a whole number. -/
inductive ContinuesWord : Expr → Prop where
  | reference {name : FieldName} (hname : fieldForm.accepts name.text.toList = true)
      (type : DataType) : ContinuesWord (reference name type)
  | int {value : Int32} (hvalue : (Literal.int value).isNegative = false) :
      ContinuesWord (literal (.int value))
  | long {value : Int64} (hvalue : (Literal.long value).isNegative = false) :
      ContinuesWord (literal (.long value))

/-- The expressions that are `isSimple`: references, and constants that are not below zero. -/
theorem simple_cases {e : Expr} (h : e.isSimple = true) :
    (∃ name type, e = reference name type) ∨
      ∃ value, e = literal value ∧ value.isNegative = false := by
  cases e with
  | reference name type => exact .inl ⟨name, type, rfl⟩
  | literal value => exact .inr ⟨value, rfl, by simpa [isSimple] using h⟩
  | suffixed | prefixed | binary | call => cases h

theorem toList_render_of_not_isNegative {value : Literal} (h : value.isNegative = false) :
    (literal value).render.toList = value.unsigned := by
  rw [toList_render_literal, Literal.chars_of_not_isNegative h]

theorem point_mem_fixedPoint (n scale : Nat) : '.' ∈ Text.fixedPoint n scale := by
  unfold Text.fixedPoint
  split <;> simp

/-- Of what can stand bare, `fieldForm` goes on with a word that has been begun exactly through what
`ContinuesWord`. -/
theorem scan_inWord_render_iff {e : Expr} (hsimple : e.isSimple = true) :
    fieldForm.scan .inWord e.render.toList = true ↔ e.ContinuesWord := by
  have hdigits : ∀ n, ∀ c ∈ Text.digits n, isWordChar c = true := fun n c hc =>
    isWordChar_of_isDigit (Text.isDigit_of_mem_digits hc)
  rcases simple_cases hsimple with ⟨name, type, rfl⟩ | ⟨value, rfl, hvalue⟩
  · rw [toList_render_reference, name.scan_inWord_iff]
    constructor
    · intro hname
      exact .reference hname type
    · rintro ⟨hname, -⟩
      assumption
  · rw [toList_render_of_not_isNegative hvalue]
    cases value with
    | int n => exact iff_of_true (scan_inWord_of_isWordChar (hdigits _)) (.int hvalue)
    | long n =>
      refine iff_of_true (scan_inWord_of_isWordChar fun c hc => ?_) (.long hvalue)
      rcases List.mem_append.1 hc with hc | hc
      · exact hdigits _ c hc
      · rw [List.mem_singleton.1 hc]
        rfl
    | float d =>
      have hpoint : '.' ∈ (Literal.float d).unsigned :=
        List.mem_append_left _ (point_mem_fixedPoint _ _)
      exact iff_of_false (not_scan_inWord_of_mem hpoint rfl) nofun
    | double d => exact iff_of_false (not_scan_inWord_of_mem (point_mem_fixedPoint _ _) rfl) nofun
    | chararray s =>
      have hquote : '\'' ∈ (Literal.chararray s).unsigned := List.mem_cons_self
      exact iff_of_false (not_scan_inWord_of_mem hquote rfl) nofun

/-- `Literal.render` starts with a character that no name starts with, so `FieldName.parse` refuses
it. -/
theorem not_parse_literal (value : Literal) (name : FieldName) :
    FieldName.parse (literal value).render ≠ .ok name := by
  intro h
  have hword := FieldName.isWord_of_parse h
  obtain ⟨first, rest, heq, hfirst⟩ := name.exists_head
  rw [FieldName.parse_eq_ok_iff.1 h] at heq
  rw [toList_render_literal, Literal.chars_eq] at hword heq
  split at hword
  · exact hword.notMem (by decide) List.mem_cons_self
  · next hnonneg =>
    rw [if_neg hnonneg] at heq
    rcases value.unsigned_cases with ⟨s, rfl⟩ | ⟨-, c, cs, heq', hdigit⟩
    · exact hword.quote_notMem List.mem_cons_self
    · rw [heq'] at heq
      obtain ⟨rfl, -⟩ := List.cons.inj heq
      rw [hdigit] at hfirst
      cases hfirst

/-- Of what can stand bare, `fieldForm` accepts from its start only references, by their names. -/
theorem accepts_render_iff {e : Expr} (hsimple : e.isSimple = true) :
    fieldForm.accepts e.render.toList = true ↔ ∃ name type, e = reference name type ∧
      fieldForm.accepts name.text.toList = true := by
  rcases simple_cases hsimple with ⟨name, type, rfl⟩ | ⟨value, rfl, -⟩
  · rw [toList_render_reference]
    constructor
    · intro hname
      exact ⟨name, type, rfl, hname⟩
    · rintro ⟨_, _, ⟨⟩, hname⟩
      exact hname
  · refine iff_of_false (fun hname => ?_) ?_
    · obtain ⟨name, hparse⟩ := FieldName.exists_parse_iff.2 (.inr hname)
      exact not_parse_literal value name hparse
    · rintro ⟨_, _, ⟨⟩, -⟩

/-- Nothing that can stand bare starts with a colon, which would go on with the colon of an
operator. -/
theorem render_ne_colon_cons {e : Expr} (hsimple : e.isSimple = true) (cs : List Char) :
    e.render.toList ≠ ':' :: cs := by
  intro h
  rcases simple_cases hsimple with ⟨name, type, rfl⟩ | ⟨value, rfl, hvalue⟩
  · rw [toList_render_reference] at h
    have hvalid := name.valid
    rw [h] at hvalid
    simp [isPosition, NameForm.accepts, NameForm.scan, fieldForm] at hvalid
  · rw [toList_render_of_not_isNegative hvalue] at h
    rcases value.unsigned_cases with ⟨s, rfl⟩ | ⟨-, c, rest, heq, hdigit⟩
    · cases h
    · obtain ⟨rfl, -⟩ := List.cons.inj (heq.symm.trans h)
      cases hdigit

/-- Whatever can stand bare shows a character of ASCII that is not a digit, apart from the constants
of type `int`. -/
theorem exists_not_isDigit_of_isSimple {e : Expr} (hsimple : e.isSimple = true) :
    (∃ value, e = literal (.int value)) ∨
      ∃ c ∈ e.render.toList, c.toNat < 128 ∧ c.isDigit = false := by
  rcases simple_cases hsimple with ⟨name, type, rfl⟩ | ⟨value, rfl, hvalue⟩
  · right
    rw [toList_render_reference]
    obtain ⟨c, cs, heq, hdigit⟩ := name.exists_head
    have hc : c ∈ name.text.toList := by
      rw [heq]
      exact List.mem_cons_self
    refine ⟨c, hc, ?_, hdigit⟩
    rcases Bool.or_eq_true_iff.1 name.valid with hposition | hname
    · obtain ⟨digits, heq', -⟩ := isPosition_iff.1 hposition
      obtain ⟨rfl, -⟩ := List.cons.inj (heq.symm.trans heq')
      decide
    · exact toNat_lt_of_isPlainChar (isPlainChar_of_accepts hname c hc)
  · rw [toList_render_of_not_isNegative hvalue]
    cases value with
    | int n => exact .inl ⟨n, rfl⟩
    | long n => exact .inr ⟨'L', by simp [Literal.unsigned], by decide, rfl⟩
    | float d => exact .inr ⟨'F', by simp [Literal.unsigned], by decide, rfl⟩
    | double d => exact .inr ⟨'.', point_mem_fixedPoint _ _, by decide, rfl⟩
    | chararray s => exact .inr ⟨'\'', List.mem_cons_self, by decide, rfl⟩

/-- Of what can stand bare, only whole numbers of type `int` are written with digits alone, so that
`$` before them makes a position. -/
theorem isDecimalDigit_render_iff {e : Expr} (hsimple : e.isSimple = true) :
    (∀ c ∈ e.render.toList, Unicode.isDecimalDigit c = true) ↔
      ∃ value, e = literal (.int value) := by
  constructor
  · intro hall
    rcases exists_not_isDigit_of_isSimple hsimple with hint | ⟨c, hc, hascii, hdigit⟩
    · exact hint
    · rw [← Unicode.isDecimalDigit_of_ascii hascii, hall c hc] at hdigit
      cases hdigit
  · rintro ⟨value, rfl⟩ c hc
    have hvalue : (Literal.int value).isNegative = false := by simpa [isSimple] using hsimple
    rw [toList_render_of_not_isNegative hvalue] at hc
    exact Unicode.isDecimalDigit_of_isDigit (Text.isDigit_of_mem_digits hc)

/-! ## Operators -/

/-- The operator and the operand are written as one name. -/
inductive Fuses : OperatorText → Expr → Prop where
  | position {op : OperatorText} {value : Int32} (hop : op.text = "$")
      (hvalue : (Literal.int value).isNegative = false) : Fuses op (literal (.int value))
  | word {op : OperatorText} {operand : Expr} (hop : fieldForm.accepts op.text.toList = true)
      (hlast : op.text.toList.getLast? = some '_') (hoperand : operand.ContinuesWord) :
      Fuses op operand
  | qualifier {op : OperatorText} {qualifier : List Char} {name : FieldName}
      (hqualifier : fieldForm.accepts qualifier = true)
      (hop : op.text.toList = qualifier ++ [':', ':'])
      (hname : fieldForm.accepts name.text.toList = true) (type : DataType) :
      Fuses op (reference name type)

/-- What `ContinuesWord` is written without parentheses. -/
theorem ContinuesWord.isSimple {e : Expr} (h : e.ContinuesWord) : e.isSimple = true := by
  cases h with
  | reference => rfl
  | int hvalue | long hvalue => simp [Expr.isSimple, hvalue]

/-- An operand that fuses is written without parentheses. -/
theorem Fuses.isSimple {op : OperatorText} {operand : Expr} (h : Fuses op operand) :
    operand.isSimple = true := by
  cases h with
  | position hop hvalue => simp [Expr.isSimple, hvalue]
  | word hop hlast hoperand => exact hoperand.isSimple
  | qualifier => rfl

/-- An operator that `Fuses` with its operand is written without a blank after it. -/
theorem Fuses.endsInWord {op : OperatorText} {operand : Expr} (h : Fuses op operand) :
    op.endsInWord = false := by
  cases h with
  | position hop hvalue => exact endsInWord_of_ascii (c := '$') (by rw [hop]; rfl) (by decide)
  | word hop hlast hoperand => exact endsInWord_of_ascii hlast (by decide)
  | qualifier hqualifier hop hname type =>
    refine endsInWord_of_ascii (c := ':') ?_ (by decide)
    rw [hop]
    simp

/-- Where `endsInWord` asks for no blank and `isSimple` for no parentheses, operator and operand
stand side by side. -/
theorem toList_render_prefixed_bare {op : OperatorText} {operand : Expr}
    (hspace : op.endsInWord = false) (hsimple : operand.isSimple = true)
    (override : Option DataType) : (prefixed op operand override).render.toList =
      op.text.toList ++ operand.render.toList := by
  rw [toList_render_prefixed, toList_parenthesized, hspace, hsimple]
  simp

/-- What `Fuses` is read by `FieldName.parse` as one name, whatever type the node is given. -/
theorem Fuses.exists_parse {op : OperatorText} {operand : Expr} (h : Fuses op operand)
    (override : Option DataType) :
    ∃ name, FieldName.parse (prefixed op operand override).render = .ok name := by
  rw [FieldName.exists_parse_iff, toList_render_prefixed_bare h.endsInWord h.isSimple]
  cases h with
  | @position value hop hvalue =>
    refine .inl (isPosition_iff.2 ⟨(literal (.int value)).render.toList, by rw [hop]; rfl, ?_, ?_⟩)
    · rw [toList_render_of_not_isNegative hvalue]
      exact Text.digits_ne_nil _
    · exact (isDecimalDigit_render_iff (by simp [Expr.isSimple, hvalue])).2 ⟨value, rfl⟩
  | word hop hlast hoperand =>
    rw [NameForm.accepts_append hop]
    exact .inr ((scan_inWord_render_iff hoperand.isSimple).2 hoperand)
  | qualifier hqualifier hop hname type =>
    have hseparator := @NameForm.scan_separator_append fieldForm ':' [':'] rfl rfl
    rw [hop, List.append_assoc, NameForm.accepts_append hqualifier]
    exact .inr ((hseparator _).trans hname)

/-- An operator that makes a position with its operand, by `isPosition`, is the dollar sign: it
cannot end in a digit. -/
theorem fuses_of_isPosition {op : OperatorText} {operand : Expr} (hspace : op.endsInWord = false)
    (hsimple : operand.isSimple = true)
    (h : isPosition (op.text.toList ++ operand.render.toList) = true) : Fuses op operand := by
  obtain ⟨digits, heq, -, hdigits⟩ := isPosition_iff.1 h
  obtain ⟨first, rest, hop⟩ := List.exists_cons_of_ne_nil op.toList_ne_nil
  rw [hop, List.cons_append] at heq
  obtain ⟨rfl, rfl⟩ := List.cons.inj heq
  have hrest : rest = [] := by
    by_contra hne
    have hlast : op.text.toList.getLast? = some (rest.getLast hne) := by
      rw [hop, List.getLast?_cons, List.getLast?_eq_some_getLast hne]
      rfl
    have hdigit := hdigits _ (List.mem_append_left _ (List.getLast_mem hne))
    rw [endsInWord_of_getLast? hlast, Unicode.isNumeric_of_isDecimalDigit hdigit,
      Bool.or_true] at hspace
    cases hspace
  subst hrest
  obtain ⟨value, rfl⟩ := (isDecimalDigit_render_iff hsimple).1 hdigits
  refine .position (String.toList_inj.1 hop) ?_
  simpa [isSimple] using hsimple

/-- An operator that starts a name which `fieldForm` accepts ends in an underscore there or in the
two colons. -/
theorem fuses_of_accepts {op : OperatorText} {operand : Expr} (hspace : op.endsInWord = false)
    (hsimple : operand.isSimple = true)
    (h : fieldForm.accepts (op.text.toList ++ operand.render.toList) = true) :
    Fuses op operand := by
  rcases (@NameForm.accepts_append_iff fieldForm ':' [':'] rfl rfl _ _ op.toList_ne_nil).1 h with
    ⟨hop, hoperand⟩ | ⟨qualifier, before, after, rest, hqualifier, hop, hbefore, hsep, hoperand,
      hrest⟩
  · refine .word hop ?_ ((scan_inWord_render_iff hsimple).1 hoperand)
    have hlast : op.text.toList.getLast? = some (op.text.toList.getLast op.toList_ne_nil) :=
      List.getLast?_eq_some_getLast _
    have hchar : isWordChar (op.text.toList.getLast op.toList_ne_nil) = true := by
      rcases NameForm.last_of_scan hop _ hlast with hstarts | hcontinues
      · exact isWordChar_of_isAlpha hstarts
      · exact hcontinues
    rw [endsInWord_of_ascii hlast (toNat_lt_of_isWordChar hchar)] at hspace
    rw [isWordChar, hspace, Bool.false_or] at hchar
    rw [hlast, eq_of_beq hchar]
  · cases after with
    | nil =>
      rw [List.append_nil] at hsep
      rw [List.nil_append] at hoperand
      rw [← hoperand] at hrest
      obtain ⟨name, type, rfl, hname⟩ := (accepts_render_iff hsimple).1 hrest
      refine .qualifier hqualifier ?_ hname type
      rw [hop, ← hsep]
      rfl
    | cons c after =>
      -- What is left of the separator is a colon.
      have hcolon : c = ':' := by
        have hmem : c ∈ fieldForm.separator := by simp [hsep]
        simpa [fieldForm] using hmem
      rw [hcolon] at hoperand
      exact absurd hoperand (render_ne_colon_cons hsimple _)

/-- What `FieldName.parse` reads as one name `Fuses`: the name is a position or of `fieldForm`. -/
theorem fuses_of_parse {op : OperatorText} {operand : Expr} {override : Option DataType}
    {name : FieldName} (h : FieldName.parse (prefixed op operand override).render = .ok name) :
    Fuses op operand := by
  have hword := FieldName.isWord_of_parse h
  rw [toList_render_prefixed, toList_parenthesized] at hword
  have hspace : op.endsInWord = false := by
    by_contra hspace
    rw [Bool.not_eq_false] at hspace
    exact hword.blank_notMem (by simp [hspace])
  have hsimple : operand.isSimple = true := by
    by_contra hcompound
    exact hword.paren_notMem (by simp [hcompound])
  have hname := FieldName.exists_parse_iff.1 ⟨name, h⟩
  rw [toList_render_prefixed_bare hspace hsimple] at hname
  rcases hname with hposition | haccepted
  · exact fuses_of_isPosition hspace hsimple hposition
  · exact fuses_of_accepts hspace hsimple haccepted

/-- `FieldName.parse` reads what `render` writes for an expression exactly if the expression is a
field, or if it is an operator that `Fuses` with the operand behind it. Suffixes, binary operators,
calls and constants, negative ones among them, never read as a name. -/
theorem exists_parse_render_iff (e : Expr) :
    (∃ name, FieldName.parse e.render = .ok name) ↔
      (∃ name type, e = reference name type) ∨
        ∃ op operand override, e = prefixed op operand override ∧ Fuses op operand := by
  constructor
  · rintro ⟨name, hname⟩
    have hword := FieldName.isWord_of_parse hname
    cases e with
    | reference name type => exact .inl ⟨name, type, rfl⟩
    | literal value => exact absurd hname (not_parse_literal value name)
    | suffixed operand op override =>
      exact absurd (by simp) hword.blank_notMem
    | prefixed op operand override =>
      exact .inr ⟨op, operand, override, rfl, fuses_of_parse hname⟩
    | binary left op right override =>
      exact absurd (by simp) hword.blank_notMem
    | call function arguments override =>
      exact absurd (by simp) hword.paren_notMem
  · rintro (⟨name, type, rfl⟩ | ⟨op, operand, override, rfl, hfuses⟩)
    · exact ⟨name, FieldName.parse_text name⟩
    · exact hfuses.exists_parse override

/-- The operator `a_` before the field `b` is written as the field `a_b`. -/
theorem exists_parse_underscore :
    ∃ op operand name, OperatorText.parse .prefixOperator "a_" = .ok op ∧
      FieldName.parse "b" = .ok operand ∧
      (prefixed op (reference operand .bytearray) none).render = "a_b" ∧
      FieldName.parse (prefixed op (reference operand .bytearray) none).render = .ok name := by
  let op : OperatorText := ⟨"a_", by decide, by decide⟩
  let operand : FieldName := ⟨"b", by decide⟩
  have hfuses : Fuses op (reference operand .bytearray) :=
    .word (by decide) (by decide) (.reference (by decide) .bytearray)
  obtain ⟨name, hname⟩ := hfuses.exists_parse none
  refine ⟨op, operand, name, OperatorText.parse_eq_ok_iff.2 (by decide),
    FieldName.parse_eq_ok_iff.2 rfl, ?_, hname⟩
  have happend : "a_".toList ++ "b".toList = "a_b".toList := by decide
  rw [← String.toList_inj, toList_render_prefixed_bare hfuses.endsInWord hfuses.isSimple, ← happend]
  rfl

end Expr

end PigLatin
