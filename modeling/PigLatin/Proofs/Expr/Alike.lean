import PigLatin.Proofs.Expr.Basic
import PigLatin.Proofs.Literal.Opposite

/-!
# Expressions that look alike

The written form of an expression shows no types, apart from those that a value is converted to.
Beyond that, three kinds of nodes can be written in more than one way of building them. Expressions
look alike if they differ in nothing else, at any depth.
-/

namespace PigLatin

/-- The field whose name reads like the negation. -/
def FieldName.not : FieldName := ⟨"NOT", by decide⟩

/-- The field whose name reads like the ascending order. -/
def FieldName.asc : FieldName := ⟨"ASC", by decide⟩

/-- The field whose name reads like the descending order. -/
def FieldName.desc : FieldName := ⟨"DESC", by decide⟩

namespace Expr

/-- The expressions differ at most in their types and in nodes that look alike. -/
inductive Alike : Expr → Expr → Prop where
  | refl (e : Expr) : Alike e e
  | symm {e f : Expr} (h : Alike e f) : Alike f e
  | trans {e f g : Expr} (h : Alike e f) (h' : Alike f g) : Alike e g
  | reference (name : FieldName) (type type' : DataType) :
      Alike (reference name type) (reference name type')
  | suffixed {e f : Expr} (op : OperatorText) (override override' : Option DataType)
      (h : Alike e f) : Alike (suffixed e op override) (suffixed f op override')
  | prefixed {e f : Expr} (op : OperatorText) (override override' : Option DataType)
      (h : Alike e f) : Alike (prefixed op e override) (prefixed op f override')
  | binary {e f e' f' : Expr} (op : BinaryOperator) (override override' : Option DataType)
      (hleft : Alike e f) (hright : Alike e' f') :
      Alike (binary e op e' override) (binary f op f' override')
  | call (function : FunctionName) (pairs : List (Expr × Expr))
      (override override' : Option DataType) (h : ∀ pair ∈ pairs, Alike pair.1 pair.2) :
      Alike (call function (pairs.map Prod.fst) override)
        (call function (pairs.map Prod.snd) override')
  /-- A `float` without decimals is written with a zero after the point. -/
  | float {d d' : Decimal} (hscale : d.scale = 0) (hscale' : d'.scale = 1) (h : d.SameValue d') :
      Alike (literal (.float d)) (literal (.float d'))
  /-- So is a `double`. -/
  | double {d d' : Decimal} (hscale : d.scale = 0) (hscale' : d'.scale = 1) (h : d.SameValue d') :
      Alike (literal (.double d)) (literal (.double d'))
  /-- The sign change of a number above zero looks like the opposite number. -/
  | negate {l m : Literal} (h : l.opposite? = some m) : Alike (literal l).negate (literal m)
  /-- The field `NOT` in ascending order looks like the negation of the field `ASC`. -/
  | asc (type type' : DataType) : Alike (reference .not type).asc (reference .asc type').not
  /-- The field `NOT` in descending order looks like the negation of the field `DESC`. -/
  | desc (type type' : DataType) : Alike (reference .not type).desc (reference .desc type').not

/-- Calls are `Alike` if each argument of the one looks like what the other has in its place. -/
theorem Alike.call_map (function : FunctionName) (arguments : List Expr) (f : Expr → Expr)
    (override override' : Option DataType) (h : ∀ e ∈ arguments, Alike e (f e)) :
    Alike (.call function arguments override) (.call function (arguments.map f) override') := by
  have hpairs : ∀ pair ∈ arguments.map (fun e => (e, f e)), Alike pair.1 pair.2 := by
    intro pair hpair
    obtain ⟨e, he, rfl⟩ := List.mem_map.1 hpair
    exact h e he
  have hcall := Alike.call function _ override override' hpairs
  rw [List.map_map, List.map_map] at hcall
  simpa [Function.comp_def] using hcall

/-- `parenthesized` depends on the text and on `isSimple` alone. -/
theorem toList_parenthesized_congr {e f : Expr} (hsimple : e.isSimple = f.isSimple)
    (hrender : e.render.toList = f.render.toList) :
    e.parenthesized.toList = f.parenthesized.toList := by
  rw [toList_parenthesized, toList_parenthesized, hsimple, hrender]

theorem argumentChars_congr {pairs : List (Expr × Expr)}
    (h : ∀ pair ∈ pairs, pair.1.render.toList = pair.2.render.toList) :
    argumentChars (pairs.map Prod.fst) = argumentChars (pairs.map Prod.snd) := by
  have hmap : (pairs.map Prod.fst).map (fun e => e.render.toList) =
      (pairs.map Prod.snd).map fun e => e.render.toList := by
    rw [List.map_map, List.map_map]
    exact List.map_congr_left h
  rw [argumentChars, argumentChars, hmap]

/-- Expressions that are `Alike` are written alike, by themselves and within a larger expression. -/
theorem Alike.written {e f : Expr} (h : Alike e f) :
    e.isSimple = f.isSimple ∧ e.render.toList = f.render.toList := by
  induction h with
  | refl e => exact ⟨rfl, rfl⟩
  | symm _ ih => exact ⟨ih.1.symm, ih.2.symm⟩
  | trans _ _ ih ih' => exact ⟨ih.1.trans ih'.1, ih.2.trans ih'.2⟩
  | reference name type type' => exact ⟨rfl, by simp⟩
  | suffixed op override override' _ ih =>
    exact ⟨rfl, by simp [toList_parenthesized_congr ih.1 ih.2]⟩
  | prefixed op override override' _ ih =>
    exact ⟨rfl, by simp [toList_parenthesized_congr ih.1 ih.2]⟩
  | binary op override override' _ _ ih ih' =>
    refine ⟨rfl, ?_⟩
    simp [toList_parenthesized_congr ih.1 ih.2, toList_parenthesized_congr ih'.1 ih'.2]
  | call function pairs override override' _ ih =>
    refine ⟨rfl, ?_⟩
    rw [toList_render_call, toList_render_call, argumentChars_congr fun pair hpair =>
      (ih pair hpair).2]
  | float hscale hscale' h =>
    obtain ⟨hnegative, hfixed⟩ := Decimal.written_of_sameValue hscale hscale' h
    simp [isSimple, Literal.isNegative, Literal.chars, Decimal.chars, hnegative, hfixed]
  | double hscale hscale' h =>
    obtain ⟨hnegative, hfixed⟩ := Decimal.written_of_sameValue hscale hscale' h
    simp [isSimple, Literal.isNegative, Literal.chars, Decimal.chars, hnegative, hfixed]
  | @negate l m h =>
    obtain ⟨hl, hm, hchars⟩ := Literal.chars_of_opposite? h
    rw [Expr.negate]
    constructor
    · simp [isSimple, hm]
    · rw [toList_render_minus, toList_parenthesized]
      simp [isSimple, hl, hchars]
  | asc type type' => exact ⟨rfl, by rfl⟩
  | desc type type' => exact ⟨rfl, by rfl⟩

end Expr

end PigLatin
