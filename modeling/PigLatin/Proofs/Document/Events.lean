import PigLatin.Document.Events
import PigLatin.Proofs.Except

/-!
# What is told of a document

The events of a document are those of its items, up to the first item that fails. A store is told of
exactly if it is written, and a name if it is looked for. No event is as important as a warning.
-/

namespace PigLatin

/-- No `Event` is a warning or an error. -/
theorem Event.rank_level_lt_warn (event : Event) : event.level.rank < Level.warn.rank := by
  cases event <;> simp [level, Level.rank]

section

variable {registry : Registry} {statement : Statement}

/-- `Registry.events` tells what `Registry.resolve` finds. -/
theorem Registry.mem_events_iff {name : String} {event : Event} : event ∈ registry.events name ↔
    (∃ invocation, registry.resolve name = .ok invocation ∧ event = .resolved name invocation) ∨
      ∃ unknown, registry.resolve name = .error (.unresolved unknown) ∧
        event = .unresolved unknown := by
  unfold events
  split <;> next h => simp [h]

/-- `Statement.events` tells of a statement only if it is a store: that it is written, and what is
found under the name of its storage function. -/
theorem Statement.mem_events_iff {event : Event} : event ∈ statement.events registry ↔
    ∃ relation path function, statement = .store relation path function ∧
      ((∃ name ∈ function, event ∈ registry.events name) ∨
        ∃ text, statement.render registry.resolve = .ok text ∧ event = .renderedStore text) := by
  cases statement with
  | inspect inspection relation => simp [events]
  | store relation path function =>
    simp only [events, List.mem_append]
    constructor
    · rintro (hname | hwritten)
      · refine ⟨relation, path, function, rfl, .inl ?_⟩
        cases function with
        | none => cases hname
        | some name => exact ⟨name, rfl, hname⟩
      · split at hwritten
        · next text htext =>
          exact ⟨relation, path, function, rfl, .inr ⟨text, htext, List.mem_singleton.1 hwritten⟩⟩
        · cases hwritten
    · rintro ⟨_, _, _, ⟨⟩, ⟨name, rfl, hname⟩ | ⟨text, htext, rfl⟩⟩
      · exact .inl hname
      · rw [htext]
        exact .inr (List.mem_singleton_self _)

/-- A store is told of exactly with the text that `Statement.render` writes for it. -/
theorem Statement.renderedStore_mem_events_iff {text : String} :
    .renderedStore text ∈ statement.events registry ↔
      (∃ relation path function, statement = .store relation path function) ∧
        statement.render registry.resolve = .ok text := by
  have hname : ∀ name, .renderedStore text ∉ registry.events name := by
    intro name h
    rcases Registry.mem_events_iff.1 h with ⟨_, -, ⟨⟩⟩ | ⟨_, -, ⟨⟩⟩
  rw [mem_events_iff]
  constructor
  · rintro ⟨relation, path, function, hstore, ⟨name, -, h⟩ | ⟨_, htext, ⟨⟩⟩⟩
    · exact absurd h (hname name)
    · exact ⟨⟨relation, path, function, hstore⟩, htext⟩
  · rintro ⟨⟨relation, path, function, hstore⟩, htext⟩
    exact ⟨relation, path, function, hstore, .inr ⟨text, htext, rfl⟩⟩

end

namespace Document

variable {registry : Registry} {before after : List Json} {item : Json} {text : String}
  {document : Json} {storage : List (String × String)}

/-- Items that all have a line keep nothing from being told of the items after them. -/
theorem itemsEvents_append
    (h : ∀ earlier ∈ before, ∃ line, renderItem registry.resolve earlier = .ok line) :
    itemsEvents registry (before ++ after) =
      before.flatMap (itemEvents registry) ++ itemsEvents registry after := by
  induction before with
  | nil => rfl
  | cons earlier before ih =>
    obtain ⟨⟨line, hline⟩, hbefore⟩ := List.forall_mem_cons.1 h
    rw [List.cons_append, itemsEvents, hline, List.flatMap_cons, List.append_assoc, ← ih hbefore]

/-- `renderEvents` tells of every item of a document that has its lines. -/
theorem renderEvents_of_ok {lines : List String} (hdocument : Json.parse text = .ok document)
    (h : render (some text) storage = .ok lines) : renderEvents (some text) storage =
      .renderingDocument (items document).length ::
        (items document).flatMap (itemEvents (Registry.standard.registerAll storage)) := by
  have hlines : (items document).mapM
      (renderItem (Registry.standard.registerAll storage).resolve) = .ok lines := by
    simp only [render, hdocument] at h
    exact Except.mapError_eq_ok_iff.1 h
  have hall : ∀ item ∈ items document, ∃ line,
      renderItem (Registry.standard.registerAll storage).resolve item = .ok line := by
    intro item hitem
    obtain ⟨i, hi, rfl⟩ := List.getElem_of_mem hitem
    have hforall := Except.forall₂_of_mapM hlines
    exact ⟨_, hforall.get hi (hforall.length_eq ▸ hi)⟩
  have hevents : itemsEvents _ (items document ++ []) = _ := itemsEvents_append hall
  rw [List.append_nil, itemsEvents, List.append_nil] at hevents
  simp only [renderEvents, hdocument, hevents]

/-- `renderEvents` tells nothing of the items behind the first one that fails. -/
theorem renderEvents_of_error {error : ItemError} (hdocument : Json.parse text = .ok document)
    (hitems : items document = before ++ item :: after)
    (hbefore : ∀ earlier ∈ before, ∃ line,
      renderItem (Registry.standard.registerAll storage).resolve earlier = .ok line)
    (hitem : renderItem (Registry.standard.registerAll storage).resolve item = .error error) :
    renderEvents (some text) storage = .renderingDocument (items document).length ::
      (before ++ [item]).flatMap (itemEvents (Registry.standard.registerAll storage)) := by
  have hevents : itemsEvents _ (before ++ item :: after) = _ := itemsEvents_append hbefore
  rw [itemsEvents, hitem] at hevents
  simp only [renderEvents, hdocument, hitems, hevents, List.flatMap_append, List.flatMap_singleton]

end Document

end PigLatin
