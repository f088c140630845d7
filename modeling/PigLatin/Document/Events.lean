import PigLatin.Document.Lines

/-!
# Events

What the program can tell about its work while it renders a document. Nothing is told of the items
behind the first one that fails. A log shows the events that its filter lets through.
-/

namespace PigLatin

/-- How important an event is. -/
inductive Level where
  | trace
  | debug
  | info
  | warn
  | error
  deriving DecidableEq, Repr

/-- The place of the level among the others, the least important one first. -/
def Level.rank : Level → Nat
  | trace => 0
  | debug => 1
  | info => 2
  | warn => 3
  | error => 4

/-- Something that happens while a document is rendered. -/
inductive Event where
  /-- The text is a document; its items come next. -/
  | renderingDocument (items : Nat)
  /-- The name of a storage function stands for an invocation. -/
  | resolved (name invocation : String)
  /-- No storage function has the name. -/
  | unresolved (name : String)
  /-- A store is written. -/
  | renderedStore (text : String)
  deriving DecidableEq, Repr

/-- How important the event is. -/
def Event.level : Event → Level
  | .renderingDocument _ => .debug
  | .resolved _ _ => .debug
  | .unresolved _ => .debug
  | .renderedStore _ => .trace

/-- What happens when `Registry.resolve` looks for the name. -/
def Registry.events (registry : Registry) (name : String) : List Event :=
  match registry.resolve name with
  | .ok invocation => [.resolved name invocation]
  | .error (.unresolved name) => [.unresolved name]

/-- What happens when `Statement.render` writes the statement: a store resolves the name of its
function if it has one, and is told about when it is complete. -/
def Statement.events (registry : Registry) : Statement → List Event
  | s@(.store _ _ function) =>
    let written :=
      match s.render registry.resolve with
      | .ok text => [.renderedStore text]
      | .error _ => []
    (function.map registry.events).getD [] ++ written
  | .inspect _ _ => []

namespace Document

/-- What happens when `renderItem` writes the line of the item. -/
def itemEvents (registry : Registry) (item : Json) : List Event :=
  match expressionOf? item with
  | some _ => []
  | none =>
    match readStatement item with
    | .ok statement => statement.events registry
    | .error _ => []

/-- What happens when the items are written one after the other, until one of them fails. -/
def itemsEvents (registry : Registry) : List Json → List Event
  | [] => []
  | item :: items =>
    match renderItem registry.resolve item with
    | .ok _ => itemEvents registry item ++ itemsEvents registry items
    | .error _ => itemEvents registry item

/-- What happens when `render` writes the lines of a document. -/
def renderEvents (input : Option String) (storage : List (String × String)) : List Event :=
  match input with
  | none => []
  | some text =>
    match Json.parse text with
    | .ok document =>
      .renderingDocument (items document).length ::
        itemsEvents (Registry.standard.registerAll storage) (items document)
    | .error _ => []

end Document

end PigLatin
