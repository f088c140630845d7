import PigLatin.Proofs.Document.Items
import PigLatin.Proofs.Document.Statement
import PigLatin.Proofs.Storage.Run

/-!
# What registrations can change

The storage functions given beside a document make up a registry, and the stores of the document ask
it for names. So of all the registrations only those count that come last under a name that a store
asks for: two lists of registrations that agree on these give the same lines, or the same error.
-/

namespace PigLatin.Document

open Registry

section

variable {storage storage' : List (String × String)} {item document : Json} {name : String}

/-! ## Names that a document asks for -/

/-- The item is a statement, and it stores with the storage function of the name. -/
structure ItemUses (item : Json) (name : String) : Prop where
  /-- The item holds no expression, which would be written in place of the statement. -/
  statement : expressionOf? item = none
  /-- It describes a store with the storage function of the name. -/
  store : IsStoreUsing name item

/-- An item of the document stores with the storage function of the name. -/
def Uses (document : Json) (name : String) : Prop :=
  ∃ item ∈ items document, ItemUses item name

/-- The name that the item asks for, if it asks for any. -/
def nameUsed? (item : Json) : Option String :=
  if (expressionOf? item).isSome then none
  else (readStatement item).toOption.bind Statement.functionName?

/-- `nameUsed?` computes `ItemUses`. -/
theorem nameUsed?_eq_some_iff : nameUsed? item = some name ↔ ItemUses item name := by
  have hiff : ItemUses item name ↔ expressionOf? item = none ∧ IsStoreUsing name item :=
    ⟨fun h => ⟨h.statement, h.store⟩, fun h => ⟨h.1, h.2⟩⟩
  rw [hiff, isStoreUsing_iff, nameUsed?]
  cases hitem : expressionOf? item with
  | some value => simp
  | none => simp [Option.bind_eq_some_iff, Except.toOption_eq_some_iff]

/-- The names that the document asks for, in the order of its items. -/
def namesUsed (document : Json) : List String := (items document).filterMap nameUsed?

/-- `namesUsed` computes `Uses`. -/
theorem mem_namesUsed_iff : name ∈ namesUsed document ↔ Uses document name := by
  simp only [namesUsed, List.mem_filterMap, nameUsed?_eq_some_iff, Uses]

/-- `renderItem` cannot tell resolvers apart that agree on the name that the item asks for. -/
theorem renderItem_congr {resolve resolve' : Resolver}
    (h : ∀ name, ItemUses item name → resolve name = resolve' name) :
    renderItem resolve item = renderItem resolve' item := by
  unfold renderItem
  cases hitem : expressionOf? item with
  | some value => rfl
  | none =>
    have hstatement : renderStatement resolve item = renderStatement resolve' item :=
      renderStatement_congr fun name hstore => h name ⟨hitem, hstore⟩
    simp only [hstatement]

/-! ## Registrations that count -/

/-- The lists register the same last under every name that the document asks for: the same
invocation, or nothing at all. -/
def AgreeOn (document : Json) (storage storage' : List (String × String)) : Prop :=
  ∀ name, Uses document name → lastRegistered? name storage = lastRegistered? name storage'

theorem itemLine_congr
    (h : ∀ name, ItemUses item name →
      lastRegistered? name storage = lastRegistered? name storage') :
    itemLine storage item = itemLine storage' item := by
  have hline : renderItem (standard.registerAll storage).resolve item =
      renderItem (standard.registerAll storage').resolve item :=
    renderItem_congr fun name huses => resolve_registerAll_congr (h name huses)
  simp only [itemLine, hline]

/-- `renderDocument` writes the items one by one with `itemLine`, whether or not the document is an
array. -/
theorem renderDocument_eq_mapM (storage : List (String × String)) (document : Json) :
    renderDocument storage document = (items document).mapM (itemLine storage) :=
  Except.mapError_mapM _ _ (items document)

theorem renderDocument_congr (h : AgreeOn document storage storage') :
    renderDocument storage document = renderDocument storage' document := by
  rw [renderDocument_eq_mapM, renderDocument_eq_mapM]
  refine Except.mapM_congr fun item hitem => ?_
  exact itemLine_congr fun name huses => h name ⟨item, hitem, huses⟩

/-- What is wrong with the text itself is wrong with any registrations, and else `AgreeOn` is
enough. -/
theorem render_congr {text : String}
    (h : ∀ document, Json.parse text = .ok document → AgreeOn document storage storage') :
    render (some text) storage = render (some text) storage' := by
  cases hparse : Json.parse text with
  | error fault => simp only [render, hparse, Except.mapError, bind, Except.bind]
  | ok document =>
    rw [render_of_parse hparse, render_of_parse hparse]
    exact renderDocument_congr (h document hparse)

/-! ## Registrations that do not count -/

/-- A registration is without effect on `lastRegistered?` of a name if it is not of that name, or if
the name is registered again later. -/
theorem lastRegistered?_insert {before after : List (String × String)} {other invocation : String}
    (h : other ≠ name ∨ other ∈ after.map Prod.fst) :
    lastRegistered? name (before ++ (other, invocation) :: after) =
      lastRegistered? name (before ++ after) := by
  have hafter : lastRegistered? name ((other, invocation) :: after) =
      lastRegistered? name after := by
    rw [lastRegistered?_cons]
    by_cases hname : other = name
    · have hmem : name ∈ after.map Prod.fst := by
        rcases h with hne | hmem
        · exact absurd hname hne
        · exact hname ▸ hmem
      have hsome : lastRegistered? name after ≠ none := fun hnone =>
        lastRegistered?_eq_none_iff.1 hnone hmem
      obtain ⟨last, hlast⟩ := Option.ne_none_iff_exists'.1 hsome
      rw [hlast, Option.some_or]
    · rw [if_neg hname, Option.or_none]
  rw [lastRegistered?_append, lastRegistered?_append, hafter]

/-! ## The line of a store -/

/-- What a name stands for beside the storage functions that are always there: what was registered
last, or else what it always stands for. -/
inductive StandsFor (storage : List (String × String)) (name : String) : String → Prop where
  | registered {invocation : String} (hlast : lastRegistered? name storage = some invocation) :
      StandsFor storage name invocation
  | builtIn {invocation : String} (hlast : lastRegistered? name storage = none)
      (hbuiltIn : (name, invocation) ∈ builtIn) : StandsFor storage name invocation

theorem resolve_of_standsFor {invocation : String} (h : StandsFor storage name invocation) :
    (standard.registerAll storage).resolve name = .ok invocation := by
  cases h with
  | registered hlast => exact resolve_registerAll_of_some hlast
  | builtIn hlast hbuiltIn =>
    have hentry : (name, invocation) ∈ standard.entries := by
      rw [show standard.entries = builtIn from Start.standard.entries_registry]
      exact hbuiltIn
    rw [resolve_registerAll_of_none hlast]
    exact mem_entries_iff.1 hentry

/-- A store is written with the invocation that its name `StandsFor`. -/
theorem itemLine_store {relation : Alias} {path : StorePath} {invocation : String}
    (hitem : expressionOf? item = none)
    (hread : readStatement item = .ok (.store relation path (some name)))
    (hname : StandsFor storage name invocation) :
    itemLine storage item = .ok ("STORE " ++ relation.text ++ " INTO '" ++ path.text ++
      "' USING " ++ invocation ++ ";") := by
  have hclause : Statement.functionClause (standard.registerAll storage).resolve (some name) =
      .ok (" USING " ++ invocation) := by
    rw [Statement.functionClause, resolve_of_standsFor hname]
    rfl
  have hrender : (Statement.store relation path (some name)).render
      (standard.registerAll storage).resolve = .ok ("STORE " ++ relation.text ++ " INTO '" ++
        path.text ++ "'" ++ (" USING " ++ invocation)) := by
    rw [Statement.render, hclause]
    rfl
  have hquote : "'" ++ (" USING " ++ invocation) = "' USING " ++ invocation :=
    String.append_assoc.symm
  rw [String.append_assoc, hquote, ← String.append_assoc] at hrender
  simp only [itemLine, renderItem, hitem, renderStatement, hread, bind, Except.bind, hrender]
  rfl

end

/-- Lists of registrations that agree on the names that a document asks for, in the sense of
`AgreeOn`, give the same, be it lines or an error. So it does not matter in which order different
names are registered, nor what was registered under a name before its last registration, nor what is
registered under a name that no item asks for. The lines are those of the items, and every item that
stores with a name is written with the last invocation that is registered under the name, or with
the built-in one. -/
theorem render_of_registrations (text : String) :
    (∀ storage storage',
        (∀ document, Json.parse text = .ok document → AgreeOn document storage storage') →
        render (some text) storage = render (some text) storage') ∧
      (∀ storage storage', SameRegistrations storage storage' →
        render (some text) storage = render (some text) storage') ∧
      (∀ before name invocation after, name ∈ after.map Prod.fst →
        render (some text) (before ++ (name, invocation) :: after) =
          render (some text) (before ++ after)) ∧
      (∀ before name invocation after,
        (∀ document, Json.parse text = .ok document → ¬Uses document name) →
        render (some text) (before ++ (name, invocation) :: after) =
          render (some text) (before ++ after)) ∧
      ∀ document, Json.parse text = .ok document → ∀ storage,
        render (some text) storage = (items document).mapM (itemLine storage) ∧
          ∀ item ∈ items document, expressionOf? item = none →
            ∀ relation path name invocation,
              readStatement item = .ok (.store relation path (some name)) →
              StandsFor storage name invocation →
              itemLine storage item = .ok ("STORE " ++ relation.text ++ " INTO '" ++ path.text ++
                "' USING " ++ invocation ++ ";") := by
  refine ⟨fun storage storage' => render_congr, ?_, ?_, ?_, ?_⟩
  · intro storage storage' hsame
    refine render_congr fun document _ name _ => ?_
    rw [lastRegistered?, lastRegistered?, hsame name]
  · intro before name invocation after hafter
    exact render_congr fun document _ other _ => lastRegistered?_insert (.inr hafter)
  · intro before name invocation after hunused
    refine render_congr fun document hparse other huses => lastRegistered?_insert (.inl ?_)
    rintro rfl
    exact hunused document hparse huses
  · intro document hparse storage
    refine ⟨?_, ?_⟩
    · rw [render_of_parse hparse, renderDocument_eq_mapM]
    · intro item _ hitem relation path name invocation hread hname
      exact itemLine_store hitem hread hname

/-- A store with a function that is always there but was registered anew, and twice. The other
function that is registered is not asked for. -/
theorem render_pig_storage_anew :
    let text := "\x7b\"store\":\"R\",\"into\":\"/o\",\"using\":\"pig_storage\"\x7d"
    let anew := [("pig_storage", "Mine()")]
    render (some text) anew =
        render (some text) [("pig_storage", "Old()"), ("gz", "Gz()"), ("pig_storage", "Mine()")] ∧
      render (some text) [("pig_storage", "Mine()"), ("gz", "Gz()")] =
        render (some text) [("gz", "Gz()"), ("pig_storage", "Mine()")] ∧
      render (some text) (("pig_storage", "Old()") :: anew) = render (some text) anew ∧
      render (some text) (("gz", "Gz()") :: anew) = render (some text) anew ∧
      ∃ document, Json.parse text = .ok document ∧ ∃ item ∈ items document,
        itemLine anew item = .ok "STORE R INTO '/o' USING Mine();" := by
  intro text anew
  obtain ⟨hagree, hsame, hagain, hunused, hline⟩ := render_of_registrations text
  let relation : Alias := ⟨"R", by decide +kernel⟩
  let path : StorePath := ⟨"/o", by decide +kernel⟩
  have hread : (Json.parse text).toOption.any (fun document =>
      namesUsed document = ["pig_storage"] ∧ ∃ item ∈ items document,
        expressionOf? item = none ∧ (readStatement item).toOption =
          some (.store relation path (some "pig_storage"))) = true := by decide +kernel
  obtain ⟨document, hparse, hdocument⟩ := (Option.any_eq_true _ _).1 hread
  obtain ⟨hnames, item, hitem, hstatement, hstore⟩ := of_decide_eq_true hdocument
  have hparse := Except.toOption_eq_some_iff.1 hparse
  have huses : ∀ read, Json.parse text = .ok read → ∀ name, Uses read name →
      name = "pig_storage" := by
    intro read hread name huses
    cases hparse.symm.trans hread
    have hname := mem_namesUsed_iff.2 huses
    rw [hnames] at hname
    exact List.mem_singleton.1 hname
  refine ⟨hagree _ _ ?_, hsame _ _ ?_, ?_, ?_, document, hparse, item, hitem, ?_⟩
  · intro read hread name hname
    obtain rfl := huses read hread name hname
    decide
  · intro name
    by_cases hgz : "gz" = name
    · subst hgz
      decide
    · simp [List.filter_cons, hgz]
  · exact hagain [] "pig_storage" "Old()" anew (by decide)
  · refine hunused [] "gz" "Gz()" anew fun read hread hgz => ?_
    exact absurd (huses read hread "gz" hgz) (by decide)
  · obtain ⟨-, hitems⟩ := hline document hparse anew
    exact hitems item hitem hstatement relation path "pig_storage" "Mine()"
      (Except.toOption_eq_some_iff.1 hstore) (.registered (by decide))

end PigLatin.Document
