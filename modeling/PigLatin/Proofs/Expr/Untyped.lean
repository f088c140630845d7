import PigLatin.Proofs.Expr.Alike

/-!
# Expressions without their types

An expression carries two kinds of types: those of its nodes, which are declared or given to them,
and those that a value is converted to, which are part of an operator. Without the former, the
expression is still written as before.
-/

namespace PigLatin.Expr

mutual

/-- The expression with nothing declared for its fields and no type given to any node. -/
def untyped : Expr → Expr
  | .reference name _ => .reference name .bytearray
  | .literal value => .literal value
  | .suffixed operand op _ => .suffixed operand.untyped op none
  | .prefixed op operand _ => .prefixed op operand.untyped none
  | .binary left op right _ => .binary left.untyped op right.untyped none
  | .call function arguments _ => .call function (untypedAll arguments) none

/-- The expressions without their types, one by one. -/
def untypedAll : List Expr → List Expr
  | [] => []
  | e :: es => e.untyped :: untypedAll es

end

theorem untypedAll_eq_map (es : List Expr) : untypedAll es = es.map untyped := by
  induction es with
  | nil => simp [untypedAll]
  | cons e es ih => simp [untypedAll, ih]

@[simp] theorem untyped_call (function : FunctionName) (arguments : List Expr)
    (override : Option DataType) : (call function arguments override).untyped =
      call function (arguments.map untyped) none := by
  rw [untyped, untypedAll_eq_map]

/-- `untyped` leaves a conversion the type that it converts to, which stands in the operator. -/
theorem untyped_cast (e : Expr) (target : DataType) :
    (e.cast target).untyped = .prefixed (.cast target) e.untyped none := by
  rw [Expr.cast, untyped]

/-- An expression and what `untyped` leaves of it are `Alike`: types do not show. -/
theorem alike_untyped (e : Expr) : Alike e e.untyped := by
  induction e with
  | reference name type => exact .reference name type .bytearray
  | literal value => exact .refl _
  | suffixed operand op override ih => exact .suffixed op override none ih
  | prefixed op operand override ih => exact .prefixed op override none ih
  | binary left op right override ihl ihr => exact .binary op override none ihl ihr
  | call function arguments override ih =>
    rw [untyped_call]
    exact .call_map function arguments untyped override none ih

/-- The expressions are written alike, by themselves and within a larger expression. -/
structure SameWritten (e f : Expr) : Prop where
  /-- By themselves. -/
  render : e.render = f.render
  /-- Both need parentheses within a larger expression, or neither does. -/
  isSimple : e.isSimple = f.isSimple
  /-- Within a larger expression. -/
  parenthesized : e.parenthesized = f.parenthesized

theorem Alike.sameWritten {e f : Expr} (h : Alike e f) : SameWritten e f := by
  obtain ⟨hsimple, hchars⟩ := h.written
  have hrender : e.render = f.render := String.toList_injective hchars
  refine ⟨hrender, hsimple, ?_⟩
  rw [Expr.parenthesized, Expr.parenthesized, hsimple, hrender]

/-- Expressions that differ in nothing but types are written alike. -/
theorem sameWritten_of_untyped_eq {e f : Expr} (h : e.untyped = f.untyped) : SameWritten e f := by
  have hf : Alike e.untyped f := h ▸ f.alike_untyped.symm
  exact (e.alike_untyped.trans hf).sameWritten

end PigLatin.Expr
