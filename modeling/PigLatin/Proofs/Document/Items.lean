import PigLatin.Document.Lines
import PigLatin.Proofs.Except

/-!
# Item by item

The lines of a document are those of its items, one after the other, each as if it were alone. One
item that fails takes all lines with it, and the first such item says how.
-/

namespace PigLatin.Document

/-- The lines of a document that has been read, with storage functions beside those that are always
there. -/
def renderDocument (storage : List (String × String)) (document : Json) :
    Except RenderError (List String) :=
  (renderLines (Registry.standard.registerAll storage).resolve document).mapError .item

/-- The line of an item of a document, with storage functions beside those that are always there. -/
def itemLine (storage : List (String × String)) (item : Json) : Except RenderError String :=
  (renderItem (Registry.standard.registerAll storage).resolve item).mapError .item

section

variable {storage : List (String × String)} {item : Json}

/-- Beyond the text, `render` is `renderDocument`. -/
theorem render_of_parse {text : String} {document : Json} (h : Json.parse text = .ok document) :
    render (some text) storage = renderDocument storage document := by
  simp only [render, h]
  rfl

theorem renderDocument_array (items : List Json) :
    renderDocument storage (.array items) = items.mapM (itemLine storage) :=
  Except.mapError_mapM _ _ items

/-- `renderDocument` takes what is not an array for the only item of one. -/
theorem renderDocument_of_ne_array (h : ∀ items, item ≠ .array items) :
    renderDocument storage item = renderDocument storage (.array [item]) := by
  cases item with
  | array items => exact absurd rfl (h items)
  | null | bool | number | string | object => rfl

/-! ## Items that are alone -/

theorem renderDocument_alone :
    renderDocument storage (.array [item]) = (itemLine storage item).map fun line => [line] := by
  rw [renderDocument_array, List.mapM_cons]
  cases itemLine storage item <;> rfl

theorem exists_line_of_alone {lines : List String}
    (h : renderDocument storage (.array [item]) = .ok lines) : ∃ line, lines = [line] := by
  rw [renderDocument_alone] at h
  obtain ⟨line, -, rfl⟩ := Except.map_eq_ok_iff.1 h
  exact ⟨line, rfl⟩

theorem itemLine_eq_ok_iff {line : String} :
    itemLine storage item = .ok line ↔ renderDocument storage (.array [item]) = .ok [line] := by
  rw [renderDocument_alone, Except.map_eq_ok_iff]
  simp

theorem itemLine_eq_error_iff {error : RenderError} :
    itemLine storage item = .error error ↔
      renderDocument storage (.array [item]) = .error error := by
  rw [renderDocument_alone]
  cases itemLine storage item <;> simp [Except.map]

end

/-- An array has lines exactly if each of its items has a line when it is alone, and then it has
these; it fails exactly as the first of its items that fails when it is alone. Any other document
counts as an item that is alone, and arrays may be given to `renderDocument` in parts. -/
theorem renderDocument_itemwise (storage : List (String × String)) :
    (∀ text document, Json.parse text = .ok document →
        render (some text) storage = renderDocument storage document) ∧
      (∀ item lines, renderDocument storage (.array [item]) = .ok lines → ∃ line, lines = [line]) ∧
      (∀ items lines, renderDocument storage (.array items) = .ok lines ↔
        List.Forall₂ (fun item line => renderDocument storage (.array [item]) = .ok [line])
          items lines) ∧
      (∀ items error, renderDocument storage (.array items) = .error error ↔
        ∃ before item after, items = before ++ item :: after ∧
          (∀ earlier ∈ before, ∃ line,
            renderDocument storage (.array [earlier]) = .ok [line]) ∧
          renderDocument storage (.array [item]) = .error error) ∧
      (∀ item, (∀ items, item ≠ .array items) →
        renderDocument storage item = renderDocument storage (.array [item])) ∧
      ∀ items items', renderDocument storage (.array (items ++ items')) = do
        let lines ← renderDocument storage (.array items)
        let lines' ← renderDocument storage (.array items')
        return lines ++ lines' := by
  refine ⟨fun _ _ => render_of_parse, fun _ _ => exists_line_of_alone, ?_, ?_,
    fun _ => renderDocument_of_ne_array, ?_⟩
  · intro items lines
    simp only [renderDocument_array items, Except.mapM_eq_ok_iff, itemLine_eq_ok_iff]
  · intro items error
    simp only [renderDocument_array items, Except.mapM_eq_error_iff, itemLine_eq_ok_iff,
      itemLine_eq_error_iff]
  · intro items items'
    simp only [renderDocument_array, List.mapM_append]

/-- An alias that is no name decides, although what comes after it describes nothing at all. -/
theorem renderDocument_dump_invalidAlias :
    let text := "[\x7b\"dump\":\"R\"\x7d, 7]"
    let good : Json := .object [("dump", .string "R")]
    let bad : Json := .object [("dump", .string "1R")]
    (∃ document, Json.parse text = .ok document ∧
        render (some text) [] = renderDocument [] document) ∧
      renderDocument [] (.array [good, good]) = .ok ["DUMP R;", "DUMP R;"] ∧
      renderDocument [] (.array [good, bad, .null]) =
        .error (.item (.build (.invalidAlias "1R"))) ∧
      renderDocument [] bad = .error (.item (.build (.invalidAlias "1R"))) := by
  intro text good bad
  obtain ⟨hparse, -, hlines, herror, halone, -⟩ := renderDocument_itemwise []
  have htext : (Json.parse text).toOption.isSome := by decide +kernel
  have hgood : renderDocument [] (.array [good]) = .ok ["DUMP R;"] :=
    Except.toOption_eq_some_iff.1 (by decide +kernel)
  have hbad : renderDocument [] (.array [bad]) = .error (.item (.build (.invalidAlias "1R"))) :=
    itemLine_eq_error_iff.1 rfl
  obtain ⟨document, hdocument⟩ := Option.isSome_iff_exists.1 htext
  rw [Except.toOption_eq_some_iff] at hdocument
  refine ⟨⟨document, hdocument, hparse _ _ hdocument⟩, ?_, ?_, (halone bad nofun).trans hbad⟩
  · exact (hlines _ _).2 (.cons hgood (.cons hgood .nil))
  · exact (herror _ _).2 ⟨[good], bad, [.null], rfl, List.forall_mem_singleton.2 ⟨_, hgood⟩, hbad⟩

/-! ## Texts that nest too deep -/

/-- The text of a statement with a member that no one asks for. Within the braces are as many
brackets as the reader takes there. -/
def deepDump : List Char :=
  "\x7b\"dump\":\"R\",\"\":".toList ++ List.replicate 126 '[' ++ List.replicate 126 ']' ++ ['\x7d']

/-- A text that `Json.parse` can read alone need not be one that it can read between brackets, which
nest one deeper. -/
theorem render_deepDump_between_brackets :
    render (some (String.ofList deepDump)) [] = .ok ["DUMP R;"] ∧
      ∀ lines, render (some (String.ofList ('[' :: deepDump ++ [']']))) [] ≠ .ok lines := by
  -- The characters are taken out of the texts first: that is the slow part of an evaluation.
  simp only [render, Json.parse, String.toList_ofList, ne_eq, ← Except.toOption_eq_some_iff]
  refine ⟨by decide +kernel, fun lines hlines => ?_⟩
  have hnone : (Json.readValue Json.maxDepth ('[' :: deepDump ++ [']'])).toOption = none := by
    rw [← Option.isNone_iff_eq_none]
    decide +kernel
  cases hread : Json.readValue Json.maxDepth ('[' :: deepDump ++ [']']) with
  | error fault =>
    rw [hread] at hlines
    cases hlines
  | ok read =>
    rw [hread] at hnone
    cases hnone

end PigLatin.Document
