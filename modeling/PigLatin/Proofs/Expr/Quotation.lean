import PigLatin.Proofs.Expr.Nesting
import PigLatin.Proofs.Literal.Value

/-!
# Quoted text within expressions

Quoting is a code that can be undone: a reader that starts at the opening quote gets the text back
and stops right behind the closing quote, whatever follows there. So no text, however many quotes
and backslashes it holds, ends too early or runs into what is written after it, in an expression of
any depth.
-/

namespace PigLatin

namespace Literal

theorem toList_render_chararray (s : String) :
    (chararray s).render.toList = Chararray.quote s.toList := by
  rw [toList_render, chars]

/-- Two quoted texts with something after each are the same only if both parts are:
`Chararray.unquote?` takes them apart. -/
theorem eq_of_render_chararray_append_eq {s t rest rest' : String}
    (h : (chararray s).render ++ rest = (chararray t).render ++ rest') : s = t ∧ rest = rest' := by
  have hread : Chararray.unquote? ((chararray s).render ++ rest).toList =
      Chararray.unquote? ((chararray t).render ++ rest').toList := by
    rw [h]
  rw [String.toList_append, String.toList_append, toList_render_chararray,
    toList_render_chararray, Chararray.unquote?_quote_append,
    Chararray.unquote?_quote_append] at hread
  obtain ⟨htext, hrest⟩ := Prod.mk.inj (Option.some.inj hread)
  exact ⟨String.toList_injective htext, String.toList_injective hrest⟩

/-- `Chararray.unquote?` reads quoted text back exactly, in front of any rest; it holds neither a
line feed nor a tab as such, and no two texts with anything after them are written alike. Wherever
quoted text stands in an expression, as an operand, as an argument or as a regular expression,
reading from its opening quote gives the text and leaves what the expression goes on with. -/
theorem unquote?_render_chararray (s : String) :
    (∀ rest : String, Chararray.unquote? ((chararray s).render ++ rest).toList =
        some (s.toList, rest.toList)) ∧
      ('\n' ∉ (chararray s).render.toList ∧ '\t' ∉ (chararray s).render.toList) ∧
      (∀ t rest rest' : String,
        (chararray s).render ++ rest = (chararray t).render ++ rest' → s = t ∧ rest = rest') ∧
      ∀ (root : Expr) (before after : List Char),
        Expr.Occurs root before (.literal (chararray s)) after →
          root.render.toList = before ++ (chararray s).render.toList ++ after ∧
            Chararray.unquote? (root.render.toList.drop before.length) =
              some (s.toList, after) := by
  have hquote := toList_render_chararray s
  refine ⟨fun rest => ?_, ?_, fun t rest rest' => eq_of_render_chararray_append_eq, ?_⟩
  · rw [String.toList_append, hquote, Chararray.unquote?_quote_append]
  · rw [hquote]
    exact Chararray.notMem_quote s.toList
  · intro root before after hoccurs
    have hroot : root.render.toList = before ++ (chararray s).render.toList ++ after :=
      hoccurs.render_eq
    refine ⟨hroot, ?_⟩
    rw [hroot, List.append_assoc, List.drop_left, hquote, Chararray.unquote?_quote_append]

/-- A regular expression that ends in a backslash and a quote, in the second of three arguments:
reading it stops before the third argument. -/
theorem unquote?_pattern_in_argument :
    let function : FunctionName := ⟨"F", by decide⟩
    let field : Expr := .reference ⟨"a", by decide⟩ .chararray
    let root : Expr := .call function [field, field.matchesPattern "n\\'", field] none
    root.render = "F(a, a matches 'n\\\\\\'', a)" ∧
      Chararray.unquote? (root.render.toList.drop 15) =
        some ("n\\'".toList, ", a)".toList) := by
  intro function field root
  have hargument : Expr.Occurs root _ (field.matchesPattern "n\\'") _ :=
    @Expr.Occurs.argument root [] [] function [field] [field] _ none .root
  have hpattern : Expr.Occurs root "F(a, a matches ".toList (.literal (.chararray "n\\'"))
      ", a)".toList := by
    convert hargument.operand (.right field .patternMatch _ none) using 1 <;> decide
  obtain ⟨-, -, -, hanywhere⟩ := unquote?_render_chararray "n\\'"
  obtain ⟨-, hread⟩ := hanywhere root _ _ hpattern
  exact ⟨by decide, hread⟩

end Literal

end PigLatin
