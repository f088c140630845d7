import PigLatin.Proofs.Document.Parts
import PigLatin.Proofs.Expr.LeadingType
import PigLatin.Proofs.Json.Basic

/-!
# Where the type of a described expression comes from

The walk along the leading operands of an expression can be followed in its description, without
reading anything that is off the walk. What stands there may be replaced by other descriptions of
expressions: the document is still accepted, and the expression has the type that it had.
-/

namespace PigLatin.Document

open Json

variable {members members' : Members} {v v' : Json} {e : Expr} {t : DataType}

/-! ## The walk -/

/-- A type can be given to nodes of this kind. Constants have their own, and conversions that of
their target. -/
def Kind.takesType : Kind → Bool
  | literal | cast => false
  | field | suffixOp | prefixOp | binary | call => true

/-- The walk through the description along leading operands ends with the type. -/
inductive LeadsTo : Json → DataType → Prop where
  | given {members : Members} {kind : Kind} {type : DataType}
      (hkind : Kind.ofMembers? members = some kind) (htakes : kind.takesType = true)
      (htype : typeMember? members = .ok (some type)) : LeadsTo (.object members) type
  | untyped {members : Members} (hkind : Kind.ofMembers? members = some .field)
      (hnone : typeMember? members = .ok none) : LeadsTo (.object members) .bytearray
  | constant {members : Members} {constant : Json} {value : Literal}
      (hkind : Kind.ofMembers? members = some .literal)
      (hconstant : members.get? "literal" = some constant)
      (hvalue : readLiteral constant = .ok value) : LeadsTo (.object members) value.type
  | target {members : Members} {keyword : String} {target : DataType}
      (hkind : Kind.ofMembers? members = some .cast)
      (hcast : members.get? "cast" = some (.string keyword))
      (htarget : DataType.parse keyword = .ok target) : LeadsTo (.object members) target
  | predicate {members : Members} {symbol : String} {op : BinaryOperator}
      (hkind : Kind.ofMembers? members = some .binary) (hnone : typeMember? members = .ok none)
      (hbinary : members.get? "binary" = some (.string symbol))
      (hop : BinaryOperator.parse symbol = .ok op) (hpredicate : op.isPredicate = true) :
      LeadsTo (.object members) .boolean
  | nullary {members : Members} (hkind : Kind.ofMembers? members = some .call)
      (hnone : typeMember? members = .ok none) (harguments : HasArguments members []) :
      LeadsTo (.object members) .bytearray
  | operand {members : Members} {kind : Kind} {operand : Json} {type : DataType}
      (hkind : Kind.ofMembers? members = some kind) (hunary : kind = .suffixOp ∨ kind = .prefixOp)
      (hnone : typeMember? members = .ok none) (hmember : members.get? "operand" = some operand)
      (h : LeadsTo operand type) : LeadsTo (.object members) type
  | left {members : Members} {symbol : String} {op : BinaryOperator} {left : Json} {type : DataType}
      (hkind : Kind.ofMembers? members = some .binary) (hnone : typeMember? members = .ok none)
      (hbinary : members.get? "binary" = some (.string symbol))
      (hop : BinaryOperator.parse symbol = .ok op) (harithmetic : op.isArithmetic = true)
      (hmember : members.get? "left" = some left) (h : LeadsTo left type) :
      LeadsTo (.object members) type
  | firstArgument {members : Members} {first : Json} {others : List Json} {type : DataType}
      (hkind : Kind.ofMembers? members = some .call) (hnone : typeMember? members = .ok none)
      (harguments : HasArguments members (first :: others)) (h : LeadsTo first type) :
      LeadsTo (.object members) type

/-- Where a type is given that the kind takes, `readExpr` gives it to the node, and both walks end
there. -/
theorem exprLeadsTo_of_given {kind : Kind} (hkind : Kind.ofMembers? members = some kind)
    (htakes : kind.takesType = true) (htype : typeMember? members = .ok (some t))
    (he : readExpr (.object members) = .ok e) : e.LeadsTo t := by
  cases kind with
  | field =>
    obtain ⟨name, override, -, htype', rfl⟩ := (readExpr_field_eq_ok_iff hkind).1 he
    cases htype.symm.trans htype'
    exact .reference name t
  | literal | cast => cases htakes
  | suffixOp =>
    obtain ⟨-, op, operand, override, -, -, -, htype', rfl⟩ :=
      (readExpr_suffixed_eq_ok_iff hkind).1 he
    cases htype.symm.trans htype'
    exact .suffixedGiven operand op t
  | prefixOp =>
    obtain ⟨-, op, operand, override, -, -, -, htype', rfl⟩ :=
      (readExpr_prefixed_eq_ok_iff hkind).1 he
    cases htype.symm.trans htype'
    exact .prefixedGiven op operand t
  | binary =>
    obtain ⟨-, op, left, right, override, -, -, -, -, htype', rfl⟩ :=
      (readExpr_binary_eq_ok_iff hkind).1 he
    cases htype.symm.trans htype'
    exact .binaryGiven left op right t
  | call =>
    obtain ⟨function, arguments, override, -, -, htype', rfl⟩ :=
      (readExpr_call_eq_ok_iff hkind).1 he
    cases htype.symm.trans htype'
    exact .callGiven function arguments t

/-- `Expr.LeadsTo` walks through the expression just as `LeadsTo` walks through its description. -/
theorem exprLeadsTo_of_leadsTo (h : LeadsTo v t) (he : readExpr v = .ok e) : e.LeadsTo t := by
  induction h generalizing e with
  | given hkind htakes htype => exact exprLeadsTo_of_given hkind htakes htype he
  | untyped hkind hnone =>
    obtain ⟨name, override, -, htype, rfl⟩ := (readExpr_field_eq_ok_iff hkind).1 he
    cases hnone.symm.trans htype
    exact .reference name .bytearray
  | constant hkind hconstant hvalue =>
    obtain ⟨_, value, hconstant', hvalue', rfl⟩ := (readExpr_literal_eq_ok_iff hkind).1 he
    cases hconstant.symm.trans hconstant'
    cases hvalue.symm.trans hvalue'
    exact .literal _
  | target hkind hcast htarget =>
    obtain ⟨_, target, operand, hcast', htarget', -, rfl⟩ := (readExpr_cast_eq_ok_iff hkind).1 he
    cases hcast.symm.trans hcast'
    cases htarget.symm.trans htarget'
    exact .prefixedGiven _ operand _
  | predicate hkind hnone hbinary hop hpredicate =>
    obtain ⟨_, op, left, right, override, hbinary', hop', -, -, htype, rfl⟩ :=
      (readExpr_binary_eq_ok_iff hkind).1 he
    cases hnone.symm.trans htype
    cases hbinary.symm.trans hbinary'
    cases hop.symm.trans hop'
    exact .predicate left right hpredicate
  | nullary hkind hnone harguments =>
    obtain ⟨function, arguments, override, -, hread, htype, rfl⟩ :=
      (readExpr_call_eq_ok_iff hkind).1 he
    cases hnone.symm.trans htype
    cases harguments.readArguments_eq.symm.trans hread
    exact .nullary function
  | operand hkind hunary hnone hmember h ih =>
    rcases hunary with rfl | rfl
    · obtain ⟨_, op, operand, override, -, -, hread, htype, rfl⟩ :=
        (readExpr_suffixed_eq_ok_iff hkind).1 he
      cases hnone.symm.trans htype
      exact .suffixed op (ih (readExpr_of_readExprMember hmember hread))
    · obtain ⟨_, op, operand, override, -, -, hread, htype, rfl⟩ :=
        (readExpr_prefixed_eq_ok_iff hkind).1 he
      cases hnone.symm.trans htype
      exact .prefixed op (ih (readExpr_of_readExprMember hmember hread))
  | left hkind hnone hbinary hop harithmetic hmember h ih =>
    obtain ⟨_, op, left, right, override, hbinary', hop', hread, -, htype, rfl⟩ :=
      (readExpr_binary_eq_ok_iff hkind).1 he
    cases hnone.symm.trans htype
    cases hbinary.symm.trans hbinary'
    cases hop.symm.trans hop'
    exact .arithmetic right harithmetic (ih (readExpr_of_readExprMember hmember hread))
  | firstArgument hkind hnone harguments h ih =>
    obtain ⟨function, arguments, override, -, hread, htype, rfl⟩ :=
      (readExpr_call_eq_ok_iff hkind).1 he
    cases hnone.symm.trans htype
    rw [harguments.readArguments_eq, Except.mapM_cons_eq_ok_iff] at hread
    obtain ⟨first, others, hfirst, -, rfl⟩ := hread
    exact .call function others (ih hfirst)

/-- Where a type is given `LeadsTo` ends at once, so that only the other case is of interest. -/
theorem exists_leadsTo_of_takesType {kind : Kind} (hkind : Kind.ofMembers? members = some kind)
    (htakes : kind.takesType = true) {override : Option DataType}
    (htype : typeMember? members = .ok override)
    (h : typeMember? members = .ok none → ∃ t, LeadsTo (.object members) t) :
    ∃ t, LeadsTo (.object members) t := by
  cases override with
  | none => exact h htype
  | some type => exact ⟨type, .given hkind htakes htype⟩

/-- The walk through the description of an expression that `readExpr` accepts ends. -/
theorem exists_leadsTo (he : readExpr v = .ok e) : ∃ t, LeadsTo v t := by
  induction v using Json.inductionOn generalizing e with
  | other v hv =>
    rw [readExpr_of_ne_object hv] at he
    cases he
  | object members ihmember ihitem =>
    have hmember : ∀ {key operand}, readExprMember key members = .ok operand →
        ∃ value t, members.get? key = some value ∧ LeadsTo value t := by
      intro key operand h
      obtain ⟨value, hvalue, hoperand⟩ := readExprMember_eq_ok_iff.1 h
      obtain ⟨t, ht⟩ := ihmember key value hvalue hoperand
      exact ⟨value, t, hvalue, ht⟩
    cases hkind : Kind.ofMembers? members with
    | none =>
      rw [readExpr_of_no_kind hkind] at he
      cases he
    | some kind =>
      cases kind with
      | field =>
        obtain ⟨name, override, -, htype, -⟩ := (readExpr_field_eq_ok_iff hkind).1 he
        refine exists_leadsTo_of_takesType hkind rfl htype fun hnone => ?_
        exact ⟨_, .untyped hkind hnone⟩
      | literal =>
        obtain ⟨constant, value, hconstant, hvalue, -⟩ := (readExpr_literal_eq_ok_iff hkind).1 he
        exact ⟨_, .constant hkind hconstant hvalue⟩
      | suffixOp =>
        obtain ⟨-, op, operand, override, -, -, hoperand, htype, -⟩ :=
          (readExpr_suffixed_eq_ok_iff hkind).1 he
        refine exists_leadsTo_of_takesType hkind rfl htype fun hnone => ?_
        obtain ⟨value, t, hvalue, ht⟩ := hmember hoperand
        exact ⟨t, .operand hkind (.inl rfl) hnone hvalue ht⟩
      | prefixOp =>
        obtain ⟨-, op, operand, override, -, -, hoperand, htype, -⟩ :=
          (readExpr_prefixed_eq_ok_iff hkind).1 he
        refine exists_leadsTo_of_takesType hkind rfl htype fun hnone => ?_
        obtain ⟨value, t, hvalue, ht⟩ := hmember hoperand
        exact ⟨t, .operand hkind (.inr rfl) hnone hvalue ht⟩
      | cast =>
        obtain ⟨s, target, operand, hcast, htarget, -, -⟩ := (readExpr_cast_eq_ok_iff hkind).1 he
        exact ⟨target, .target hkind hcast htarget⟩
      | binary =>
        obtain ⟨s, op, left, right, override, hs, hop, hleft, -, htype, -⟩ :=
          (readExpr_binary_eq_ok_iff hkind).1 he
        refine exists_leadsTo_of_takesType hkind rfl htype fun hnone => ?_
        by_cases harithmetic : op.isArithmetic = true
        · obtain ⟨value, t, hvalue, ht⟩ := hmember hleft
          exact ⟨t, .left hkind hnone hs hop harithmetic hvalue ht⟩
        · have hpredicate : op.isPredicate = true := by
            simpa [BinaryOperator.isPredicate] using harithmetic
          exact ⟨_, .predicate hkind hnone hs hop hpredicate⟩
      | call =>
        obtain ⟨function, arguments, override, -, harguments, htype, -⟩ :=
          (readExpr_call_eq_ok_iff hkind).1 he
        refine exists_leadsTo_of_takesType hkind rfl htype fun hnone => ?_
        obtain ⟨values, hvalues, hall⟩ := readArguments_eq_ok_iff.1 harguments
        cases values with
        | nil => exact ⟨_, .nullary hkind hnone hvalues⟩
        | cons first others =>
          obtain ⟨argument, -, hfirst, -, -⟩ := Except.mapM_cons_eq_ok_iff.1 hall
          obtain ⟨t, ht⟩ : ∃ t, LeadsTo first t := by
            cases hvalues with
            | items hitems => exact ihitem _ _ hitems first List.mem_cons_self hfirst
          exact ⟨t, .firstArgument hkind hnone hvalues ht⟩

/-- `LeadsTo` walks through the description of an expression to `Expr.type` of the expression, and
to no other type. -/
theorem leadsTo_iff (he : readExpr v = .ok e) : LeadsTo v t ↔ e.type = t := by
  constructor
  · intro h
    exact Expr.type_eq_of_leadsTo (exprLeadsTo_of_leadsTo h he)
  · rintro rfl
    obtain ⟨t, ht⟩ := exists_leadsTo he
    rwa [Expr.type_eq_of_leadsTo (exprLeadsTo_of_leadsTo ht he)]

/-! ## Off the walk -/

/-- The description of a right operand, or of an argument other than the first one, is that of
another expression, somewhere in the value. -/
inductive AsideChange : Json → Json → Prop where
  | right {members members' : Members} {value value' : Json} {e e' : Expr}
      (hvalue : members.get? "right" = some value) (hvalue' : members'.get? "right" = some value')
      (hagree : AgreeBut "right" members members') (he : readExpr value = .ok e)
      (he' : readExpr value' = .ok e') : AsideChange (.object members) (.object members')
  | argument (first : Json) (before : List Json) {value value' : Json} (after : List Json)
      {e' : Expr} (he' : readExpr value' = .ok e') :
      AsideChange (.array (first :: before ++ value :: after))
        (.array (first :: before ++ value' :: after))
  | member {members members' : Members} {key : String} {value value' : Json}
      (hvalue : members.get? key = some value) (hvalue' : members'.get? key = some value')
      (hagree : AgreeBut key members members') (hchange : AsideChange value value') :
      AsideChange (.object members) (.object members')
  | item (before : List Json) {value value' : Json} (after : List Json)
      (hchange : AsideChange value value') :
      AsideChange (.array (before ++ value :: after)) (.array (before ++ value' :: after))

/-- Any number of changes, one after the other. -/
def AsideChanges : Json → Json → Prop := Relation.ReflTransGen AsideChange

/-- The arguments have the same leading one, as far as its type goes. -/
def ArgumentsKeepType (es es' : List Expr) : Prop := Expr.firstType es' = Expr.firstType es

/-- What the first value describes, the second one describes as well, up to what is off the walk to
its type. -/
def KeepsType : Json → Json → Prop := PartFollows (fun e e' => e'.type = e.type) ArgumentsKeepType

theorem keepsType_refl (v : Json) : KeepsType v v :=
  PartFollows.refl (P := fun e e' => e'.type = e.type) (A := ArgumentsKeepType) (fun _ => rfl)
    (fun _ => rfl) v

/-- The operands under the key have the same type. Right operands may have any types. -/
def OperandKeepsType (key : String) (e e' : Expr) : Prop := key ≠ "right" → e'.type = e.type

/-- Two nodes of one kind have the same type if their operands have, right operands aside. -/
theorem type_eq_of_sameNode {e e' : Expr}
    (h : SameNode OperandKeepsType ArgumentsKeepType Eq e e') : e'.type = e.type := by
  cases h with
  | reference name hT => rw [hT]
  | literal | cast => rfl
  | suffixed op hoperand hT | prefixed op hoperand hT =>
    simp only [Expr.type, hoperand (by decide), hT]
  | binary op hleft hright hT => simp only [Expr.type, hleft (by decide), hT]
  | call function harguments hT =>
    have hfirst : Expr.firstType _ = Expr.firstType _ := harguments
    simp only [Expr.type, hfirst, hT]

/-- An object keeps its type if its own type is read alike and its parts keep theirs. -/
theorem keepsType_object
    (htype : ∀ override, typeMember? members = .ok override → typeMember? members' = .ok override)
    (h : ∀ key, key ≠ "type" →
      Under (PartFollows (OperandKeepsType key) ArgumentsKeepType) key members members') :
    KeepsType (.object members) (.object members') := by
  refine .object fun e he => ?_
  have htype' : ∀ override, typeMember? members = .ok override →
      ∃ override', typeMember? members' = .ok override' ∧ override = override' :=
    fun override hoverride => ⟨override, htype override hoverride, rfl⟩
  obtain ⟨e', he', hnode⟩ := exists_sameNode (A := ArgumentsKeepType) rfl htype' h he
  exact ⟨e', he', type_eq_of_sameNode hnode⟩

/-- A right operand may be replaced by whatever `readExpr` accepts. -/
theorem keepsType_right {value value' : Json} {e e' : Expr}
    (hvalue : members.get? "right" = some value) (hvalue' : members'.get? "right" = some value')
    (hagree : AgreeBut "right" members members') (he : readExpr value = .ok e)
    (he' : readExpr value' = .ok e') : KeepsType (.object members) (.object members') := by
  have htype : typeMember? members = typeMember? members' :=
    typeMember?_congr (hagree "type" (by decide))
  refine keepsType_object (fun override hoverride => htype ▸ hoverride) fun key hkey => ?_
  by_cases hright : key = "right"
  · subst hright
    refine .present hvalue hvalue' ?_
    cases value with
    | object operand => exact .object fun _ _ => ⟨e', he', fun hne => absurd rfl hne⟩
    | null | bool | number | string | array => cases he
  · exact .of_eq (.refl (fun _ _ => rfl) fun _ => rfl) (hagree key hright)

theorem keepsType_member {key : String} {value value' : Json}
    (hvalue : members.get? key = some value) (hvalue' : members'.get? key = some value')
    (hagree : AgreeBut key members members') (h : KeepsType value value') :
    KeepsType (.object members) (.object members') := by
  have hunder := Under.of_agreeBut keepsType_refl hvalue hvalue' hagree h
  refine keepsType_object (fun override => typeMember?_of_under (hunder "type")) fun other _ => ?_
  refine (hunder other).imp fun w w' hkeeps => ⟨hkeeps.text, hkeeps.constant, fun f hf => ?_,
    hkeeps.arguments⟩
  obtain ⟨f', hf', heq⟩ := hkeeps.expression f hf
  exact ⟨f', hf', fun _ => heq⟩

/-- An argument behind the first one may be replaced by whatever `readExpr` accepts. -/
theorem keepsType_argument (first : Json) (before : List Json) {value value' : Json}
    (after : List Json) {e' : Expr} (he' : readExpr value' = .ok e') :
    KeepsType (.array (first :: before ++ value :: after))
      (.array (first :: before ++ value' :: after)) := by
  refine .array fun es hes => ?_
  obtain ⟨front, e, rest, hfront, -, hrest, rfl⟩ := Except.mapM_append_cons_eq_ok_iff.1 hes
  refine ⟨front ++ e' :: rest,
    Except.mapM_append_cons_eq_ok_iff.2 ⟨front, e', rest, hfront, he', hrest, rfl⟩, ?_⟩
  obtain ⟨f, fs, -, -, rfl⟩ := Except.mapM_cons_eq_ok_iff.1 hfront
  rfl

theorem keepsType_item (before : List Json) {value value' : Json} (after : List Json)
    (h : KeepsType value value') :
    KeepsType (.array (before ++ value :: after)) (.array (before ++ value' :: after)) := by
  refine .array fun es hes => ?_
  obtain ⟨front, e, rest, hfront, he, hrest, rfl⟩ := Except.mapM_append_cons_eq_ok_iff.1 hes
  obtain ⟨e', he', htype⟩ := h.expression e he
  exact ⟨front ++ e' :: rest,
    Except.mapM_append_cons_eq_ok_iff.2 ⟨front, e', rest, hfront, he', hrest, rfl⟩,
    Expr.firstType_append_cons front rest htype⟩

/-- No `AsideChange` of a description changes the type of what is described, or that it is
accepted. -/
theorem keepsType_of_asideChange (h : AsideChange v v') : KeepsType v v' := by
  induction h with
  | right hvalue hvalue' hagree he he' => exact keepsType_right hvalue hvalue' hagree he he'
  | argument first before after he' => exact keepsType_argument first before after he'
  | member hvalue hvalue' hagree _ ih => exact keepsType_member hvalue hvalue' hagree ih
  | item before after _ ih => exact keepsType_item before after ih

theorem exists_readExpr_of_asideChanges (h : AsideChanges v v') (he : readExpr v = .ok e) :
    ∃ e', readExpr v' = .ok e' ∧ e'.type = e.type := by
  induction h with
  | refl => exact ⟨e, he, rfl⟩
  | tail _ hchange ih =>
    obtain ⟨e', he', htype⟩ := ih
    obtain ⟨e'', he'', htype'⟩ := (keepsType_of_asideChange hchange).expression e' he'
    exact ⟨e'', he'', htype'.trans htype⟩

/-- The type of an expression is found on the walk of `LeadsTo` along its leading operands, in the
tree as well as in the description. Right operands, and arguments other than the first one, may be
replaced anywhere by whatever `readExpr` accepts: the result is accepted and has the same type. -/
theorem type_of_leading_operands :
    (∀ (e : Expr) (t : DataType), e.LeadsTo t ↔ e.type = t) ∧
      (∀ v e t, readExpr v = .ok e → (LeadsTo v t ↔ e.type = t)) ∧
      (∀ e e' : Expr, e.AsideChanges e' → e'.type = e.type) ∧
      ∀ v v' e, AsideChanges v v' → readExpr v = .ok e →
        ∃ e', readExpr v' = .ok e' ∧ e'.type = e.type := by
  refine ⟨fun e t => Expr.leadsTo_iff, fun v e t he => leadsTo_iff he, fun e e' h => ?_,
    fun v v' e h he => ?_⟩
  · exact Expr.type_eq_of_asideChanges h
  · exact exists_readExpr_of_asideChanges h he

/-- A sum of a call and a field. The type comes from the first argument of the call; the second one
is replaced, and so is the field. -/
theorem type_of_sum_of_call :
    let field : Json := .object [("field", .string "a"), ("type", .string "int")]
    let other : Json := .object [("field", .string "b")]
    let constant : Json := .object [("literal", .string "x")]
    let call : Json := .object [("args", .array [field, other]), ("call", .string "MAX")]
    let call' : Json := .object [("args", .array [field, constant]), ("call", .string "MAX")]
    let sum : Json := .object [("binary", .string "+"), ("left", call), ("right", other)]
    let sum' : Json := .object [("binary", .string "+"), ("left", call'), ("right", constant)]
    ∃ e e', readExpr sum = .ok e ∧ readExpr sum' = .ok e' ∧ LeadsTo sum .int ∧ e.LeadsTo .int ∧
      e'.type = .int ∧ (e.plus e').type = (e.plus e).type := by
  intro field other constant call call' sum sum'
  have hcall : AsideChange call call' := by
    have hargs : AsideChange (.array [field, other]) (.array [field, constant]) :=
      .argument field [] [] rfl
    exact .member rfl rfl (agreeBut_insert _ "args" (.array [field, constant])) hargs
  have hsum : AsideChanges sum sum' := by
    have hleft : AsideChange sum
        (.object [("binary", .string "+"), ("left", call'), ("right", other)]) :=
      .member rfl rfl (agreeBut_insert _ "left" call') hcall
    have hright : AsideChange
        (.object [("binary", .string "+"), ("left", call'), ("right", other)]) sum' :=
      .right rfl rfl (agreeBut_insert _ "right" constant) rfl rfl
    exact (Relation.ReflTransGen.single hleft).tail hright
  obtain ⟨htree, hwalk, htreeChanges, hchanges⟩ := type_of_leading_operands
  obtain ⟨e', he', htype⟩ := hchanges sum sum' _ hsum rfl
  cases he'
  refine ⟨_, _, rfl, rfl, (hwalk sum _ _ rfl).2 rfl, (htree _ _).2 rfl, htype, ?_⟩
  exact htreeChanges _ _ (.single (.right _ .add _ _ none))

end PigLatin.Document
