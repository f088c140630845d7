import PigLatin.Proofs.Document.Expression
import PigLatin.Proofs.Json.Edit

/-!
# Parts that take the place of others

A description is read by what its parts describe. If other values stand in the place of its parts
and still describe something, then so does the whole: a node of the same kind with other operands,
related to the ones before as their descriptions are.
-/

namespace PigLatin.Document

open Json

variable {members members' : Members} {key : String} {v v' : Json}

/-- What the first value describes as a part of an expression, the second one describes as well, up
to a relation between expressions and one between lists of arguments. -/
structure PartFollows (P : Expr → Expr → Prop) (A : List Expr → List Expr → Prop) (v v' : Json) :
    Prop where
  /-- As a name, an operator or a type. -/
  text : ∀ s, v = .string s → v' = .string s
  /-- As a constant. -/
  constant : ∀ value, readLiteral v = .ok value → readLiteral v' = .ok value
  /-- As an expression. -/
  expression : ∀ e, readExpr v = .ok e → ∃ e', readExpr v' = .ok e' ∧ P e e'
  /-- As the arguments of a function. -/
  arguments : ∀ es, readExprArray v = .ok es → ∃ es', readExprArray v' = .ok es' ∧ A es es'

section

variable {P : Expr → Expr → Prop} {A : List Expr → List Expr → Prop}

/-- Every part follows itself, if the relations are reflexive. -/
theorem PartFollows.refl (hP : ∀ e, P e e) (hA : ∀ es, A es es) (v : Json) : PartFollows P A v v :=
  ⟨fun _ => id, fun _ => id, fun e h => ⟨e, h, hP e⟩, fun es h => ⟨es, h, hA es⟩⟩

/-- An object describes nothing but expressions, so `readExpr` alone decides. -/
theorem PartFollows.object (h : ∀ e, readExpr (.object members) = .ok e →
    ∃ e', readExpr v' = .ok e' ∧ P e e') : PartFollows P A (.object members) v' where
  text := nofun
  constant := nofun
  expression := h
  arguments _ hes := by
    simp [readExprArray, throwShape] at hes

/-- An array describes nothing but arguments, which `readExpr` reads one by one. -/
theorem PartFollows.array {items items' : List Json} (h : ∀ es, items.mapM readExpr = .ok es →
    ∃ es', items'.mapM readExpr = .ok es' ∧ A es es') :
    PartFollows P A (.array items) (.array items') where
  text := nofun
  constant := nofun
  expression _ he := by
    simp [readExpr, throwShape] at he
  arguments es hes := by
    simp only [readExprArray, readExprs_eq_mapM] at hes ⊢
    exact h es hes

/-! ## Members -/

/-- Texts that describe names, operators and types stay as they are. -/
theorem get?_string_of_under (h : Under (PartFollows P A) key members members') {s : String}
    (hs : members.get? key = some (.string s)) : members'.get? key = some (.string s) := by
  cases h with
  | absent hnone hnone' =>
    rw [hnone] at hs
    cases hs
  | present hvalue hvalue' hpart =>
    rw [hvalue] at hs
    rw [hvalue', hpart.text s (Option.some.inj hs)]

theorem typeMember?_of_under (h : Under (PartFollows P A) "type" members members')
    {override : Option DataType} (hoverride : typeMember? members = .ok override) :
    typeMember? members' = .ok override := by
  rw [typeMember?_eq_ok_iff] at hoverride ⊢
  rcases hoverride with ⟨hnone, rfl⟩ | ⟨name, type, hname, htype, rfl⟩
  · cases h with
    | absent hnone' hnone'' => exact .inl ⟨hnone'', rfl⟩
    | present hvalue hvalue' hpart =>
      rw [hvalue] at hnone
      cases hnone
  · exact .inr ⟨name, type, get?_string_of_under h hname, htype, rfl⟩

/-- What `readExprMember` reads is followed by an expression related to it. -/
theorem exists_readExprMember_of_under (h : Under (PartFollows P A) key members members') {e : Expr}
    (he : readExprMember key members = .ok e) :
    ∃ e', readExprMember key members' = .ok e' ∧ P e e' := by
  cases h with
  | absent hnone hnone' =>
    obtain ⟨value, hvalue, -⟩ := readExprMember_eq_ok_iff.1 he
    rw [hnone] at hvalue
    cases hvalue
  | present hvalue hvalue' hpart =>
    obtain ⟨e', he', hrelated⟩ := hpart.expression e (readExpr_of_readExprMember hvalue he)
    exact ⟨e', readExprMember_eq_ok_iff.2 ⟨_, hvalue', he'⟩, hrelated⟩

/-- What `readArguments` reads is followed by arguments related to it. -/
theorem exists_readArguments_of_under (hnil : A [] [])
    (h : Under (PartFollows P A) "args" members members') {es : List Expr}
    (hes : readArguments members = .ok es) :
    ∃ es', readArguments members' = .ok es' ∧ A es es' := by
  rw [readArguments_eq] at hes ⊢
  cases h with
  | absent hnone hnone' =>
    rw [hnone] at hes
    rw [hnone']
    cases hes
    exact ⟨[], rfl, hnil⟩
  | present hvalue hvalue' hpart =>
    rw [hvalue] at hes
    rw [hvalue']
    exact hpart.arguments es hes

end

/-! ## Nodes -/

/-- Both expressions are nodes of one kind. The relations are between the operands that stand under
a key, between the arguments and between the types that are given to the nodes. -/
inductive SameNode (P : String → Expr → Expr → Prop) (A : List Expr → List Expr → Prop)
    (T : Option DataType → Option DataType → Prop) : Expr → Expr → Prop where
  | reference (name : FieldName) {override override' : Option DataType}
      (hT : T override override') : SameNode P A T (.reference name (override.getD .bytearray))
        (.reference name (override'.getD .bytearray))
  | literal (value : Literal) : SameNode P A T (.literal value) (.literal value)
  | suffixed {operand operand' : Expr} (op : OperatorText) {override override' : Option DataType}
      (hoperand : P "operand" operand operand') (hT : T override override') :
      SameNode P A T (.suffixed operand op override) (.suffixed operand' op override')
  | prefixed (op : OperatorText) {operand operand' : Expr} {override override' : Option DataType}
      (hoperand : P "operand" operand operand') (hT : T override override') :
      SameNode P A T (.prefixed op operand override) (.prefixed op operand' override')
  | cast {operand operand' : Expr} (target : DataType) (hoperand : P "operand" operand operand') :
      SameNode P A T (operand.cast target) (operand'.cast target)
  | binary {left left' : Expr} (op : BinaryOperator) {right right' : Expr}
      {override override' : Option DataType} (hleft : P "left" left left')
      (hright : P "right" right right') (hT : T override override') :
      SameNode P A T (.binary left op right override) (.binary left' op right' override')
  | call (function : FunctionName) {arguments arguments' : List Expr}
      {override override' : Option DataType} (harguments : A arguments arguments')
      (hT : T override override') :
      SameNode P A T (.call function arguments override) (.call function arguments' override')

variable {P : String → Expr → Expr → Prop} {A : List Expr → List Expr → Prop}
  {T : Option DataType → Option DataType → Prop}

/-- An object with other parts in the place of its own describes a node of the same kind, related to
the first one by `SameNode`. The type that the node is given stands apart: it need not be the
same. -/
theorem exists_sameNode (hnil : A [] [])
    (htype : ∀ override, typeMember? members = .ok override →
      ∃ override', typeMember? members' = .ok override' ∧ T override override')
    (h : ∀ key, key ≠ "type" → Under (PartFollows (P key) A) key members members') {e : Expr}
    (he : readExpr (.object members) = .ok e) :
    ∃ e', readExpr (.object members') = .ok e' ∧ SameNode P A T e e' := by
  have hne : ∀ kind : Kind, kind.key ≠ "type" := by
    intro kind
    cases kind <;> decide
  have hcontains : ∀ kind : Kind, members.contains kind.key = members'.contains kind.key :=
    fun kind => (h kind.key (hne kind)).contains_eq
  have hkind : Kind.ofMembers? members = Kind.ofMembers? members' := by
    simp only [Kind.ofMembers?, hcontains]
  have htext : ∀ (kind : Kind) {s}, members.get? kind.key = some (.string s) →
      members'.get? kind.key = some (.string s) :=
    fun kind _ => get?_string_of_under (h kind.key (hne kind))
  have hpart : ∀ {key operand}, key ≠ "type" → readExprMember key members = .ok operand →
      ∃ operand', readExprMember key members' = .ok operand' ∧ P key operand operand' :=
    fun hkey => exists_readExprMember_of_under (h _ hkey)
  cases hfound : Kind.ofMembers? members with
  | none =>
    rw [readExpr_of_no_kind hfound] at he
    cases he
  | some kind =>
    have hfound' := hkind.symm.trans hfound
    cases kind with
    | field =>
      obtain ⟨name, override, hname, hoverride, rfl⟩ := (readExpr_field_eq_ok_iff hfound).1 he
      obtain ⟨override', hoverride', hT⟩ := htype override hoverride
      exact ⟨_, (readExpr_field_eq_ok_iff hfound').2
        ⟨name, override', htext .field hname, hoverride', rfl⟩, .reference name hT⟩
    | literal =>
      obtain ⟨constant, value, hconstant, hvalue, rfl⟩ :=
        (readExpr_literal_eq_ok_iff hfound).1 he
      cases h "literal" (hne .literal) with
      | absent hnone hnone' =>
        rw [hnone] at hconstant
        cases hconstant
      | present hpresent hpresent' hpart =>
        rw [hpresent] at hconstant
        cases hconstant
        exact ⟨_, (readExpr_literal_eq_ok_iff hfound').2
          ⟨_, value, hpresent', hpart.constant value hvalue, rfl⟩, .literal value⟩
    | suffixOp =>
      obtain ⟨s, op, operand, override, hs, hop, hread, hoverride, rfl⟩ :=
        (readExpr_suffixed_eq_ok_iff hfound).1 he
      obtain ⟨operand', hread', hP⟩ := hpart (by decide) hread
      obtain ⟨override', hoverride', hT⟩ := htype override hoverride
      exact ⟨_, (readExpr_suffixed_eq_ok_iff hfound').2
        ⟨s, op, operand', override', htext .suffixOp hs, hop, hread', hoverride', rfl⟩,
        .suffixed op hP hT⟩
    | prefixOp =>
      obtain ⟨s, op, operand, override, hs, hop, hread, hoverride, rfl⟩ :=
        (readExpr_prefixed_eq_ok_iff hfound).1 he
      obtain ⟨operand', hread', hP⟩ := hpart (by decide) hread
      obtain ⟨override', hoverride', hT⟩ := htype override hoverride
      exact ⟨_, (readExpr_prefixed_eq_ok_iff hfound').2
        ⟨s, op, operand', override', htext .prefixOp hs, hop, hread', hoverride', rfl⟩,
        .prefixed op hP hT⟩
    | cast =>
      -- No type is given to a conversion: that of its target stands in the operator.
      obtain ⟨s, target, operand, hs, htarget, hread, rfl⟩ :=
        (readExpr_cast_eq_ok_iff hfound).1 he
      obtain ⟨operand', hread', hP⟩ := hpart (by decide) hread
      exact ⟨_, (readExpr_cast_eq_ok_iff hfound').2
        ⟨s, target, operand', htext .cast hs, htarget, hread', rfl⟩, .cast target hP⟩
    | binary =>
      obtain ⟨s, op, left, right, override, hs, hop, hleft, hright, hoverride, rfl⟩ :=
        (readExpr_binary_eq_ok_iff hfound).1 he
      obtain ⟨left', hleft', hleftP⟩ := hpart (by decide) hleft
      obtain ⟨right', hright', hrightP⟩ := hpart (by decide) hright
      obtain ⟨override', hoverride', hT⟩ := htype override hoverride
      exact ⟨_, (readExpr_binary_eq_ok_iff hfound').2 ⟨s, op, left', right', override',
        htext .binary hs, hop, hleft', hright', hoverride', rfl⟩, .binary op hleftP hrightP hT⟩
    | call =>
      obtain ⟨function, arguments, override, hfunction, harguments, hoverride, rfl⟩ :=
        (readExpr_call_eq_ok_iff hfound).1 he
      obtain ⟨arguments', harguments', hA⟩ :=
        exists_readArguments_of_under hnil (h _ (by decide)) harguments
      obtain ⟨override', hoverride', hT⟩ := htype override hoverride
      exact ⟨_, (readExpr_call_eq_ok_iff hfound').2 ⟨function, arguments', override',
        htext .call hfunction, harguments', hoverride', rfl⟩, .call function hA hT⟩

end PigLatin.Document
