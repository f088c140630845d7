import PigLatin.Proofs.Document.Expression
import PigLatin.Proofs.Json.Basic

/-!
# Which values describe expressions

The grammar of descriptions: a production for each kind of expression, with the keys that must not
be there because they would tell another kind. The reader accepts exactly the values of this
grammar.
-/

namespace PigLatin.Document

/-! ## Constants -/

/-- The value describes a constant: it is text, a whole number of 64 bits with its sign, or a number
of double precision that is a decimal. -/
inductive IsConstant : Json → Prop where
  | text (s : String) : IsConstant (.string s)
  | integer {n : Int} (hmin : Int64.minValue.toInt ≤ n) (hmax : n ≤ Int64.maxValue.toInt) :
      IsConstant (.number (.integer n))
  | float {negative : Bool} {magnitude : Binary64} {d : Decimal}
      (hdecimal : decimal? negative magnitude = some d) :
      IsConstant (.number (.float negative magnitude))

/-- `numberLiteral` accepts the whole numbers that fit an `int` or a `long`. -/
theorem exists_numberLiteral_integer_iff {n : Int} :
    (∃ value, numberLiteral (.integer n) = .ok value) ↔
      Int64.minValue.toInt ≤ n ∧ n ≤ Int64.maxValue.toInt := by
  have hmin : Int64.minValue.toInt ≤ Int32.minValue.toInt := by decide
  have hmax : Int32.maxValue.toInt ≤ Int64.maxValue.toInt := by decide
  simp only [numberLiteral]
  split
  · next hint => exact iff_of_true ⟨_, rfl⟩ ⟨hmin.trans hint.1, hint.2.trans hmax⟩
  · split
    · next hlong => exact iff_of_true ⟨_, rfl⟩ hlong
    · next hlong => exact iff_of_false (by simp) hlong

/-- `readLiteral` accepts exactly what `IsConstant` lists. -/
theorem exists_readLiteral_iff {constant : Json} :
    (∃ value, readLiteral constant = .ok value) ↔ IsConstant constant := by
  constructor
  · rintro ⟨value, h⟩
    cases constant with
    | string s => exact .text s
    | number n =>
      cases n with
      | integer n =>
        obtain ⟨hmin, hmax⟩ := exists_numberLiteral_integer_iff.1 ⟨value, h⟩
        exact .integer hmin hmax
      | float negative magnitude =>
        cases hdecimal : decimal? negative magnitude with
        | some d => exact .float hdecimal
        | none => simp [readLiteral, numberLiteral, hdecimal] at h
    | null | bool | array | object => cases h
  · intro h
    cases h with
    | text s => exact ⟨.chararray s, rfl⟩
    | integer hmin hmax => exact exists_numberLiteral_integer_iff.2 ⟨hmin, hmax⟩
    | float hdecimal => simp [readLiteral, numberLiteral, hdecimal]

/-! ## Expressions -/

/-- The value describes an expression. Each production names the keys that it needs and the earlier
keys that must not be there; `null` under a key is not the same as no key. -/
inductive IsExpression : Json → Prop where
  | reference {members : Members} (name : FieldName)
      (hfield : members.get? "field" = some (.string name.text))
      (htype : HasValidType members) : IsExpression (.object members)
  | literal {members : Members} {constant : Json} (hearlier : Lacks members ["field"])
      (hliteral : members.get? "literal" = some constant) (hconstant : IsConstant constant) :
      IsExpression (.object members)
  | suffixed {members : Members} {op : String} {operand : Json}
      (hearlier : Lacks members ["field", "literal"])
      (hsuffix : members.get? "suffix" = some (.string op)) (hop : Text.isBlank op = false)
      (hmember : members.get? "operand" = some operand) (hoperand : IsExpression operand)
      (htype : HasValidType members) : IsExpression (.object members)
  | prefixed {members : Members} {op : String} {operand : Json}
      (hearlier : Lacks members ["field", "literal", "suffix"])
      (hkey : members.get? "prefix" = some (.string op)) (hop : Text.isBlank op = false)
      (hmember : members.get? "operand" = some operand) (hoperand : IsExpression operand)
      (htype : HasValidType members) : IsExpression (.object members)
  | cast {members : Members} {keyword : String} {target : DataType} {operand : Json}
      (hearlier : Lacks members ["field", "literal", "suffix", "prefix"])
      (hcast : members.get? "cast" = some (.string keyword))
      (htarget : DataType.parse keyword = .ok target)
      (hmember : members.get? "operand" = some operand) (hoperand : IsExpression operand) :
      IsExpression (.object members)
  | binary {members : Members} {symbol : String} {op : BinaryOperator} {left right : Json}
      (hearlier : Lacks members ["field", "literal", "suffix", "prefix", "cast"])
      (hbinary : members.get? "binary" = some (.string symbol))
      (hop : BinaryOperator.parse symbol = .ok op)
      (hleftMember : members.get? "left" = some left) (hleft : IsExpression left)
      (hrightMember : members.get? "right" = some right) (hright : IsExpression right)
      (htype : HasValidType members) : IsExpression (.object members)
  | call {members : Members} (function : FunctionName) {arguments : List Json}
      (hearlier : Lacks members ["field", "literal", "suffix", "prefix", "cast", "binary"])
      (hcall : members.get? "call" = some (.string function.text))
      (hmember : HasArguments members arguments)
      (harguments : ∀ argument ∈ arguments, IsExpression argument)
      (htype : HasValidType members) : IsExpression (.object members)

/-- Everything that `readExpr` accepts is an expression in the grammar. -/
theorem isExpression_of_readExpr {v : Json} {e : Expr} (h : readExpr v = .ok e) :
    IsExpression v := by
  induction v using Json.inductionOn generalizing e with
  | other v hv =>
    rw [readExpr_of_ne_object hv] at h
    cases h
  | object members ihmember ihitem =>
    cases hkind : Kind.ofMembers? members with
    | none =>
      rw [readExpr_of_no_kind hkind] at h
      cases h
    | some kind =>
      have hearlier := (Kind.ofMembers?_eq_some_iff.1 hkind).1
      cases kind with
      | field =>
        obtain ⟨name, override, hfield, htype, -⟩ := (readExpr_field_eq_ok_iff hkind).1 h
        exact .reference name hfield (exists_typeMember?_iff.1 ⟨override, htype⟩)
      | literal =>
        obtain ⟨constant, value, hliteral, hvalue, -⟩ := (readExpr_literal_eq_ok_iff hkind).1 h
        exact .literal hearlier hliteral (exists_readLiteral_iff.1 ⟨value, hvalue⟩)
      | suffixOp =>
        obtain ⟨s, op, operand, override, hsuffix, hop, hoperand, htype, -⟩ :=
          (readExpr_suffixed_eq_ok_iff hkind).1 h
        obtain ⟨value, hvalue, hread⟩ := readExprMember_eq_ok_iff.1 hoperand
        exact .suffixed hearlier hsuffix (OperatorText.exists_parse_iff.1 ⟨op, hop⟩) hvalue
          (ihmember _ _ hvalue hread) (exists_typeMember?_iff.1 ⟨override, htype⟩)
      | prefixOp =>
        obtain ⟨s, op, operand, override, hkey, hop, hoperand, htype, -⟩ :=
          (readExpr_prefixed_eq_ok_iff hkind).1 h
        obtain ⟨value, hvalue, hread⟩ := readExprMember_eq_ok_iff.1 hoperand
        exact .prefixed hearlier hkey (OperatorText.exists_parse_iff.1 ⟨op, hop⟩) hvalue
          (ihmember _ _ hvalue hread) (exists_typeMember?_iff.1 ⟨override, htype⟩)
      | cast =>
        obtain ⟨s, target, operand, hcast, htarget, hoperand, -⟩ :=
          (readExpr_cast_eq_ok_iff hkind).1 h
        obtain ⟨value, hvalue, hread⟩ := readExprMember_eq_ok_iff.1 hoperand
        exact .cast hearlier hcast htarget hvalue (ihmember _ _ hvalue hread)
      | binary =>
        obtain ⟨s, op, left, right, override, hbinary, hop, hleft, hright, htype, -⟩ :=
          (readExpr_binary_eq_ok_iff hkind).1 h
        obtain ⟨leftValue, hleftValue, hreadLeft⟩ := readExprMember_eq_ok_iff.1 hleft
        obtain ⟨rightValue, hrightValue, hreadRight⟩ := readExprMember_eq_ok_iff.1 hright
        exact .binary hearlier hbinary hop hleftValue (ihmember _ _ hleftValue hreadLeft)
          hrightValue (ihmember _ _ hrightValue hreadRight)
          (exists_typeMember?_iff.1 ⟨override, htype⟩)
      | call =>
        obtain ⟨function, arguments, override, hcall, harguments, htype, -⟩ :=
          (readExpr_call_eq_ok_iff hkind).1 h
        obtain ⟨values, hvalues, hread⟩ := readArguments_eq_ok_iff.1 harguments
        refine .call function hearlier hcall hvalues (fun value hvalue => ?_)
          (exists_typeMember?_iff.1 ⟨override, htype⟩)
        obtain ⟨e, he⟩ := Except.exists_mapM_eq_ok_iff.1 ⟨arguments, hread⟩ value hvalue
        cases hvalues with
        | absent => cases hvalue
        | items hitems => exact ihitem _ _ hitems value hvalue he

/-- `readExpr` accepts every expression in the grammar. -/
theorem exists_readExpr_of_isExpression {v : Json} (h : IsExpression v) :
    ∃ e, readExpr v = .ok e := by
  induction h with
  | reference name hfield htype =>
    have hkind := Kind.ofMembers?_of_get? .field (fun _ h => absurd h List.not_mem_nil) hfield
    obtain ⟨override, htype⟩ := exists_typeMember?_iff.2 htype
    exact ⟨_, (readExpr_field_eq_ok_iff hkind).2 ⟨name, override, hfield, htype, rfl⟩⟩
  | literal hearlier hliteral hconstant =>
    have hkind := Kind.ofMembers?_of_get? .literal hearlier hliteral
    obtain ⟨value, hvalue⟩ := exists_readLiteral_iff.2 hconstant
    exact ⟨_, (readExpr_literal_eq_ok_iff hkind).2 ⟨_, value, hliteral, hvalue, rfl⟩⟩
  | suffixed hearlier hsuffix hop hmember _ htype ih =>
    have hkind := Kind.ofMembers?_of_get? .suffixOp hearlier hsuffix
    obtain ⟨op, hop⟩ := OperatorText.exists_parse_iff.2 hop
    obtain ⟨operand, hoperand⟩ := ih
    obtain ⟨override, htype⟩ := exists_typeMember?_iff.2 htype
    exact ⟨_, (readExpr_suffixed_eq_ok_iff hkind).2 ⟨_, op, operand, override, hsuffix, hop,
      readExprMember_eq_ok_iff.2 ⟨_, hmember, hoperand⟩, htype, rfl⟩⟩
  | prefixed hearlier hkey hop hmember _ htype ih =>
    have hkind := Kind.ofMembers?_of_get? .prefixOp hearlier hkey
    obtain ⟨op, hop⟩ := OperatorText.exists_parse_iff.2 hop
    obtain ⟨operand, hoperand⟩ := ih
    obtain ⟨override, htype⟩ := exists_typeMember?_iff.2 htype
    exact ⟨_, (readExpr_prefixed_eq_ok_iff hkind).2 ⟨_, op, operand, override, hkey, hop,
      readExprMember_eq_ok_iff.2 ⟨_, hmember, hoperand⟩, htype, rfl⟩⟩
  | cast hearlier hcast htarget hmember _ ih =>
    have hkind := Kind.ofMembers?_of_get? .cast hearlier hcast
    obtain ⟨operand, hoperand⟩ := ih
    exact ⟨_, (readExpr_cast_eq_ok_iff hkind).2 ⟨_, _, operand, hcast, htarget,
      readExprMember_eq_ok_iff.2 ⟨_, hmember, hoperand⟩, rfl⟩⟩
  | binary hearlier hbinary hop hleftMember _ hrightMember _ htype ihleft ihright =>
    have hkind := Kind.ofMembers?_of_get? .binary hearlier hbinary
    obtain ⟨left, hleft⟩ := ihleft
    obtain ⟨right, hright⟩ := ihright
    obtain ⟨override, htype⟩ := exists_typeMember?_iff.2 htype
    exact ⟨_, (readExpr_binary_eq_ok_iff hkind).2 ⟨_, _, left, right, override, hbinary, hop,
      readExprMember_eq_ok_iff.2 ⟨_, hleftMember, hleft⟩,
      readExprMember_eq_ok_iff.2 ⟨_, hrightMember, hright⟩, htype, rfl⟩⟩
  | call function hearlier hcall hmember _ htype ih =>
    have hkind := Kind.ofMembers?_of_get? .call hearlier hcall
    obtain ⟨arguments, harguments⟩ := Except.exists_mapM_eq_ok_iff.2 ih
    obtain ⟨override, htype⟩ := exists_typeMember?_iff.2 htype
    exact ⟨_, (readExpr_call_eq_ok_iff hkind).2 ⟨function, arguments, override, hcall,
      readArguments_eq_ok_iff.2 ⟨_, hmember, harguments⟩, htype, rfl⟩⟩

/-! ## Parts -/

/-- The keys under which an object of the kind holds descriptions of other expressions. -/
def Kind.partKeys : Kind → List String
  | field | literal | call => []
  | suffixOp | prefixOp | cast => ["operand"]
  | binary => ["left", "right"]

/-- The first value describes an expression within the one that the second value describes. -/
inductive IsPart : Json → Json → Prop where
  | member {members : Members} {kind : Kind} {key : String} {part : Json}
      (hkind : Kind.ofMembers? members = some kind) (hkey : key ∈ kind.partKeys)
      (hpart : members.get? key = some part) : IsPart part (.object members)
  | argument {members : Members} {arguments : List Json} {part : Json}
      (hkind : Kind.ofMembers? members = some .call)
      (harguments : members.get? "args" = some (.array arguments)) (hpart : part ∈ arguments) :
      IsPart part (.object members)

theorem exists_readExpr_of_readExprMember {members : Members} {key : String} {part : Json}
    {e : Expr} (h : readExprMember key members = .ok e) (hpart : members.get? key = some part) :
    ∃ e, readExpr part = .ok e := by
  obtain ⟨value, hvalue, hread⟩ := readExprMember_eq_ok_iff.1 h
  cases hpart.symm.trans hvalue
  exact ⟨e, hread⟩

/-- All parts of what `readExpr` accepts, in the sense of `IsPart`, are accepted as well. -/
theorem exists_readExpr_of_isPart {part v : Json} {e : Expr} (hpart : IsPart part v)
    (h : readExpr v = .ok e) : ∃ e, readExpr part = .ok e := by
  cases hpart with
  | @member _ kind key _ hkind hkey hpart =>
    cases kind with
    | field | literal | call => cases hkey
    | suffixOp =>
      obtain ⟨s, op, operand, override, -, -, hoperand, -⟩ :=
        (readExpr_suffixed_eq_ok_iff hkind).1 h
      obtain rfl := List.mem_singleton.1 hkey
      exact exists_readExpr_of_readExprMember hoperand hpart
    | prefixOp =>
      obtain ⟨s, op, operand, override, -, -, hoperand, -⟩ :=
        (readExpr_prefixed_eq_ok_iff hkind).1 h
      obtain rfl := List.mem_singleton.1 hkey
      exact exists_readExpr_of_readExprMember hoperand hpart
    | cast =>
      obtain ⟨s, target, operand, -, -, hoperand, -⟩ := (readExpr_cast_eq_ok_iff hkind).1 h
      obtain rfl := List.mem_singleton.1 hkey
      exact exists_readExpr_of_readExprMember hoperand hpart
    | binary =>
      obtain ⟨s, op, left, right, override, -, -, hleft, hright, -⟩ :=
        (readExpr_binary_eq_ok_iff hkind).1 h
      rcases List.mem_pair.1 hkey with rfl | rfl
      · exact exists_readExpr_of_readExprMember hleft hpart
      · exact exists_readExpr_of_readExprMember hright hpart
  | argument hkind harguments hpart =>
    obtain ⟨function, arguments, override, -, hread, -⟩ := (readExpr_call_eq_ok_iff hkind).1 h
    obtain ⟨values, hvalues, hread⟩ := readArguments_eq_ok_iff.1 hread
    cases hvalues with
    | absent hnone => cases harguments.symm.trans hnone
    | items hitems =>
      cases harguments.symm.trans hitems
      exact Except.exists_mapM_eq_ok_iff.1 ⟨arguments, hread⟩ _ hpart

/-! ## The reader and the grammar -/

/-- `readExpr` accepts a value exactly if `IsExpression` holds of it. A part that fails makes the
whole fail, and what an object of some kind is read as, or why it fails, has nothing to do with the
keys that would be looked for later. -/
theorem exists_readExpr_iff_isExpression :
    (∀ v, (∃ e, readExpr v = .ok e) ↔ IsExpression v) ∧
      (∀ part v, IsPart part v → (∃ error, readExpr part = .error error) →
        ∃ error, readExpr v = .error error) ∧
      ∀ (members members' : Members) (kind : Kind), Kind.ofMembers? members = some kind →
        (∀ key, key ∉ kind.laterKeys → members.get? key = members'.get? key) →
        readExpr (.object members) = readExpr (.object members') := by
  refine ⟨fun v => ⟨?_, exists_readExpr_of_isExpression⟩, fun part v hpart => ?_, ?_⟩
  · rintro ⟨e, he⟩
    exact isExpression_of_readExpr he
  · rintro ⟨error, herror⟩
    cases h : readExpr v with
    | error error => exact ⟨error, rfl⟩
    | ok e =>
      obtain ⟨e, he⟩ := exists_readExpr_of_isPart hpart h
      cases herror.symm.trans he
  · intro members members' kind hkind h
    exact readExpr_object_congr hkind h

/-- A call of a function is accepted with a field as its argument, a `null` for a constant among the
arguments makes the call fail, and a constant does not make up for a field without a name. -/
theorem exists_readExpr_call_and_not_null :
    let field : Json := .object [("field", .string "age"), ("type", .string "int")]
    let constant : Json := .object [("literal", .null)]
    (∃ e, readExpr (.object [("args", .array [field]), ("call", .string "org.Abs")]) = .ok e) ∧
      (∃ error, readExpr (.object [("args", .array [field, constant]),
        ("call", .string "org.Abs")]) = .error error) ∧
      readExpr (.object [("field", .null)]) =
        readExpr (.object [("field", .null), ("literal", .string "age")]) := by
  intro field constant
  obtain ⟨haccept, hpart, hlater⟩ := exists_readExpr_iff_isExpression
  refine ⟨(haccept _).2 ?_, hpart constant _ ?_ ⟨_, rfl⟩, hlater _ _ .field rfl fun key hkey => ?_⟩
  · refine .call ⟨"org.Abs", by decide +kernel⟩ (by simp [Lacks, Dictionary.get?]) rfl
      (.items rfl) ?_
      nofun
    refine List.forall_mem_singleton.2 (.reference ⟨"age", by decide +kernel⟩ rfl ?_)
    intro value hvalue
    cases hvalue
    exact ⟨"int", .int, rfl, rfl⟩
  · exact .argument rfl rfl (List.mem_cons_of_mem _ List.mem_cons_self)
  · have hne : "literal" ≠ key := fun h => hkey (h ▸ by decide)
    simp [Dictionary.get?, hne]

end PigLatin.Document
