import PigLatin.Document.Lines
import PigLatin.Proofs.Statement
import PigLatin.Proofs.Storage

/-!
# One statement a line

The lines of a document, item by item. The paths of stores are the only texts of a document that are
written between quotes as they are, and they alone decide whether each statement keeps to its line.
-/

namespace PigLatin.Document

/-- The line that `renderItem` gives a statement is what `Statement.render` writes, with a semicolon
after it. -/
theorem exists_statement_of_renderItem {resolve : Resolver} {item : Json} {line : String}
    (hitem : expressionOf? item = none) (h : renderItem resolve item = .ok line) :
    ∃ statement text, readStatement item = .ok statement ∧ statement.render resolve = .ok text ∧
      line = text ++ ";" := by
  simp only [renderItem, hitem] at h
  obtain ⟨text, htext, rfl⟩ := Except.map_eq_ok_iff.1 h
  obtain ⟨statement, hstatement, hrender⟩ := Except.bind_eq_ok_iff.1 htext
  exact ⟨statement, text, hstatement, Except.mapError_eq_ok_iff.1 hrender, rfl⟩

/-- All invocations in `Registry.standard` are harmless, and `registerAll` adds none but those that
are given. -/
theorem isHarmless_of_resolve {storage : List (String × String)}
    (hstorage : ∀ entry ∈ storage, IsHarmless entry.2.toList) {name invocation : String}
    (h : (Registry.standard.registerAll storage).resolve name = .ok invocation) :
    IsHarmless invocation.toList := by
  have hstandard : ∀ entry ∈ Registry.standard.entries, IsHarmless entry.2.toList :=
    Registry.forall_registerAll (P := fun invocation => IsHarmless invocation.toList)
      (fun _ hentry => absurd hentry List.not_mem_nil) (by decide)
  have hall : ∀ entry ∈ (Registry.standard.registerAll storage).entries,
      IsHarmless entry.2.toList :=
    Registry.forall_registerAll (P := fun invocation => IsHarmless invocation.toList) hstandard
      hstorage
  exact Registry.of_resolve (P := fun invocation => IsHarmless invocation.toList) hall h

/-- If the item describes a statement, the line is a single statement exactly if the statement
stores to no path that breaks out of its quotes. -/
def IsSingleIfConfined (item : Json) (line : String) : Prop :=
  expressionOf? item = none → ∃ statement, readStatement item = .ok statement ∧
    (IsSingleStatement line.toList ↔ statement.IsConfined)

/-- Every item of a document has its line, and of the texts in a document only the paths of stores
can make a line more or less than a single statement. -/
theorem isSingleStatement_lines_iff {text : String} {storage : List (String × String)}
    {lines : List String} (hstorage : ∀ entry ∈ storage, IsHarmless entry.2.toList)
    (h : render (some text) storage = .ok lines) :
    ∃ document, Json.parse text = .ok document ∧
      List.Forall₂ IsSingleIfConfined (items document) lines := by
  obtain ⟨document, hdocument, hlines⟩ := Except.bind_eq_ok_iff.1 h
  refine ⟨document, Except.mapError_eq_ok_iff.1 hdocument, ?_⟩
  refine (Except.forall₂_of_mapM (Except.mapError_eq_ok_iff.1 hlines)).imp ?_
  intro item line hline hitem
  obtain ⟨statement, text, hstatement, hrender, rfl⟩ := exists_statement_of_renderItem hitem hline
  exact ⟨statement, hstatement, statement.isSingleStatement_render_iff
    (fun _ _ => isHarmless_of_resolve hstorage) hrender⟩

/-- A store with a storage function from outside is matched with its one line. -/
theorem isSingleIfConfined_store_using :
    ∃ document, Json.parse "\x7b\"store\":\"R\",\"into\":\"/out\",\"using\":\"gz\"\x7d" =
        .ok document ∧
      List.Forall₂ IsSingleIfConfined (items document)
        ["STORE R INTO '/out' USING GzStorage(9);"] := by
  have hstorage : ∀ entry ∈ [("gz", "GzStorage(9)")], IsHarmless entry.2.toList := by decide
  exact isSingleStatement_lines_iff hstorage (Except.toOption_eq_some_iff.1 (by decide +kernel))

/-- A path with a quote in it ends the text and goes on as a statement of its own. -/
theorem not_isSingleStatement_of_quote_in_path :
    render (some "\x7b\"store\":\"R\",\"into\":\"a'; DUMP S\"\x7d") [] =
        .ok ["STORE R INTO 'a'; DUMP S';"] ∧
      ¬IsSingleStatement "STORE R INTO 'a'; DUMP S';".toList :=
  ⟨Except.toOption_eq_some_iff.1 (by decide +kernel), by decide +kernel⟩

end PigLatin.Document
