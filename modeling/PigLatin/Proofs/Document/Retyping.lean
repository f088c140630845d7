import PigLatin.Proofs.Document.Parts
import PigLatin.Proofs.Expr.Untyped

/-!
# Descriptions with other types

A description may give types to the nodes of an expression. Whichever types it gives, and to
whichever nodes, the expression is written alike: a type that is given to a node decides about the
type of the node and about nothing else.
-/

namespace PigLatin.Document

open Json

variable {members members' : Members} {key : String} {v v' : Json}

/-- One change of a type, somewhere in the value: an object has a type where there was none, or
another one, or none any more. -/
inductive Retyping : Json → Json → Prop where
  | here {members members' : Members} (hagree : AgreeBut "type" members members')
      (hvalid : HasValidType members') : Retyping (.object members) (.object members')
  | member {members members' : Members} {key : String} {value value' : Json}
      (hvalue : members.get? key = some value) (hvalue' : members'.get? key = some value')
      (hagree : AgreeBut key members members') (hretyping : Retyping value value') :
      Retyping (.object members) (.object members')
  | item {before after : List Json} {value value' : Json} (hretyping : Retyping value value') :
      Retyping (.array (before ++ value :: after)) (.array (before ++ value' :: after))

/-- Any number of changes, one after the other. -/
def Retypings : Json → Json → Prop := Relation.ReflTransGen Retyping

/-- Giving a node the name of a type is a `Retyping`. -/
theorem Retyping.insert (members : Members) {name : String} {type : DataType}
    (h : DataType.parse name = .ok type) :
    Retyping (.object members) (.object (members.insert "type" (.string name))) := by
  refine .here (agreeBut_insert members "type" (.string name)) fun value hvalue => ?_
  rw [Dictionary.get?_insert, if_pos rfl] at hvalue
  cases hvalue
  exact ⟨name, type, rfl, h⟩

/-! ## What is still described -/

/-- Types aside, the arguments are the same. -/
def SameUntypedArguments (es es' : List Expr) : Prop := es'.map Expr.untyped = es.map Expr.untyped

/-- What the first value describes, the second one describes as well, up to types. -/
def KeepsUntyped : Json → Json → Prop :=
  PartFollows (fun e e' => e'.untyped = e.untyped) SameUntypedArguments

theorem keepsUntyped_refl (v : Json) : KeepsUntyped v v :=
  PartFollows.refl (P := fun e e' => e'.untyped = e.untyped) (A := SameUntypedArguments)
    (fun _ => rfl) (fun _ => rfl) v

/-- Two nodes of one kind are the same up to types if their operands are. -/
theorem untyped_eq_of_sameNode {T : Option DataType → Option DataType → Prop} {e e' : Expr}
    (h : SameNode (fun _ e e' => e'.untyped = e.untyped) SameUntypedArguments T e e') :
    e'.untyped = e.untyped := by
  cases h with
  | reference | literal => rfl
  | suffixed op hoperand | prefixed op hoperand => rw [Expr.untyped, Expr.untyped, hoperand]
  | cast target hoperand =>
    -- The type of a conversion is not given to its node: it stands in the operator and stays.
    rw [Expr.untyped_cast, Expr.untyped_cast, hoperand]
  | binary op hleft hright => rw [Expr.untyped, Expr.untyped, hleft, hright]
  | call function harguments =>
    have hmap : List.map Expr.untyped _ = List.map Expr.untyped _ := harguments
    rw [Expr.untyped_call, Expr.untyped_call, hmap]

/-! ## One object -/

/-- Both objects give a type to their node in a way that can be read, or the first one does not. -/
def StillTyped (members members' : Members) : Prop :=
  ∀ override, typeMember? members = .ok override → ∃ override', typeMember? members' = .ok override'

/-- An object whose parts still describe what they described still describes the same expression up
to `Expr.untyped`, whatever its own type has become. -/
theorem keepsUntyped_object (htype : StillTyped members members')
    (h : ∀ key, key ≠ "type" → Under KeepsUntyped key members members') :
    KeepsUntyped (.object members) (.object members') := by
  refine .object fun e he => ?_
  have htype' : ∀ override, typeMember? members = .ok override →
      ∃ override', typeMember? members' = .ok override' ∧ True := fun override hoverride =>
    (htype override hoverride).imp fun _ hoverride' => ⟨hoverride', trivial⟩
  obtain ⟨e', he', hnode⟩ := exists_sameNode (P := fun _ e e' => e'.untyped = e.untyped)
    (A := SameUntypedArguments) rfl htype' h he
  exact ⟨e', he', untyped_eq_of_sameNode hnode⟩

/-! ## One change and many -/

theorem keepsUntyped_item (before : List Json) {value value' : Json} (after : List Json)
    (h : KeepsUntyped value value') :
    KeepsUntyped (.array (before ++ value :: after)) (.array (before ++ value' :: after)) := by
  refine .array fun es hes => ?_
  obtain ⟨front, e, rest, hfront, he, hrest, rfl⟩ := Except.mapM_append_cons_eq_ok_iff.1 hes
  obtain ⟨e', he', huntyped⟩ := h.expression e he
  refine ⟨front ++ e' :: rest,
    Except.mapM_append_cons_eq_ok_iff.2 ⟨front, e', rest, hfront, he', hrest, rfl⟩, ?_⟩
  simp [SameUntypedArguments, huntyped]

/-- After a `Retyping`, a value still describes what it described, up to types. -/
theorem keepsUntyped_of_retyping (h : Retyping v v') : KeepsUntyped v v' := by
  -- The induction follows the way to the node; all else on that way is the same.
  induction h with
  | @here members members' hagree hvalid =>
    have htype : StillTyped members members' := fun _ _ => exists_typeMember?_iff.2 hvalid
    exact keepsUntyped_object htype fun key hkey => .of_eq keepsUntyped_refl (hagree key hkey)
  | @member members members' key value value' hvalue hvalue' hagree hretyping ih =>
    have hunder := Under.of_agreeBut keepsUntyped_refl hvalue hvalue' hagree ih
    have htype : StillTyped members members' := fun override hoverride =>
      ⟨override, typeMember?_of_under (hunder "type") hoverride⟩
    exact keepsUntyped_object htype fun key _ => hunder key
  | item hretyping ih => exact keepsUntyped_item _ _ ih

theorem exists_readExpr_of_retypings (h : Retypings v v') {e : Expr} (he : readExpr v = .ok e) :
    ∃ e', readExpr v' = .ok e' ∧ e'.untyped = e.untyped := by
  induction h with
  | refl => exact ⟨e, he, rfl⟩
  | tail _ hretyping ih =>
    obtain ⟨e', he', huntyped⟩ := ih
    obtain ⟨e'', he'', huntyped'⟩ := (keepsUntyped_of_retyping hretyping).expression e' he'
    exact ⟨e'', he'', huntyped'.trans huntyped⟩

/-- Types do not show in the text. A document that describes an expression still describes one when
it gives other types to the nodes of the expression, or none, and the expression is written as
before. The same is true of expressions: those with the same `Expr.untyped` are written alike. -/
theorem sameWritten_of_types :
    (∀ v v' e, Retypings v v' → readExpr v = .ok e →
        ∃ e', readExpr v' = .ok e' ∧ e'.untyped = e.untyped ∧ Expr.SameWritten e' e) ∧
      ∀ e f : Expr, e.untyped = f.untyped → Expr.SameWritten e f := by
  refine ⟨fun v v' e h he => ?_, fun e f => Expr.sameWritten_of_untyped_eq⟩
  obtain ⟨e', he', huntyped⟩ := exists_readExpr_of_retypings h he
  exact ⟨e', he', huntyped, Expr.sameWritten_of_untyped_eq huntyped⟩

/-- A sum of a typed field and a conversion: the field loses its type, the sum gets one, and so does
the node of the conversion, which has no use for it. -/
theorem sameWritten_sum_of_types :
    let field : Json := .object [("field", .string "a"), ("type", .string "int")]
    let field' : Json := .object [("field", .string "a")]
    let cast : Json := .object [("cast", .string "long"), ("operand", field')]
    let cast' : Json :=
      .object [("cast", .string "long"), ("operand", field'), ("type", .string "Bag")]
    let sum : Json := .object [("binary", .string "+"), ("left", field), ("right", cast)]
    let sum' : Json := .object
      [("binary", .string "+"), ("left", field'), ("right", cast'), ("type", .string "double")]
    ∃ e e', readExpr sum = .ok e ∧ readExpr sum' = .ok e' ∧ e.type = .int ∧ e'.type = .double ∧
      Expr.SameWritten e' e := by
  intro field field' cast cast' sum sum'
  have hfield : Retyping field field' := by
    refine .here (agreeBut_filter _ "type") fun value hvalue => ?_
    cases hvalue
  have hcast : Retyping cast cast' := .insert _ (rfl : DataType.parse "Bag" = .ok .bag)
  have hsum : Retypings sum sum' := by
    have hleft : Retyping sum
        (.object [("binary", .string "+"), ("left", field'), ("right", cast)]) :=
      .member rfl rfl (agreeBut_insert _ "left" field') hfield
    have hright : Retyping (.object [("binary", .string "+"), ("left", field'), ("right", cast)])
        (.object [("binary", .string "+"), ("left", field'), ("right", cast')]) :=
      .member rfl rfl (agreeBut_insert _ "right" cast') hcast
    have hnode : Retyping (.object [("binary", .string "+"), ("left", field'), ("right", cast')])
        sum' := .insert _ (rfl : DataType.parse "double" = .ok .double)
    exact ((Relation.ReflTransGen.single hleft).tail hright).tail hnode
  obtain ⟨e', he', -, hwritten⟩ := sameWritten_of_types.1 sum sum' _ hsum rfl
  cases he'
  exact ⟨_, _, rfl, rfl, rfl, rfl, hwritten⟩

end PigLatin.Document
