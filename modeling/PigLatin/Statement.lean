import PigLatin.Name
import PigLatin.Storage

/-!
# Statements

Statements consume a relation: they store it, or they show something about it. Each is written as a
verb and the alias of the relation; a store goes on with the path and the storage function.
-/

namespace PigLatin

/-- What can be shown about a relation. -/
inductive Inspection where
  /-- Its tuples. -/
  | dump
  /-- Its schema. -/
  | describe
  /-- A sample run. -/
  | illustrate
  /-- The plans that compute it. -/
  | explain
  deriving DecidableEq, Repr

/-- The verb of a statement that shows something. -/
def Inspection.verb : Inspection → String
  | .dump => "DUMP"
  | .describe => "DESCRIBE"
  | .illustrate => "ILLUSTRATE"
  | .explain => "EXPLAIN"

/-- Where a relation is stored. The path is kept exactly as it was given. -/
structure StorePath where
  /-- The path itself. -/
  text : String
  /-- It is not blank. -/
  nonblank : Text.isBlank text = false
  deriving DecidableEq

/-- The path that the text is. -/
def StorePath.parse (s : String) : Except BuildError StorePath :=
  if h : Text.isBlank s = true then .error (.empty .storePath)
  else .ok ⟨s, Bool.eq_false_iff.2 h⟩

/-- A statement that consumes a relation. -/
inductive Statement where
  /-- Stores the relation, with the storage function of a name if one is given. -/
  | store (relation : Alias) (path : StorePath) (function : Option String)
  /-- Shows something about the relation. -/
  | inspect (inspection : Inspection) (relation : Alias)
  deriving DecidableEq

namespace Statement

/-- The word that the statement starts with. -/
def verb : Statement → String
  | .store _ _ _ => "STORE"
  | .inspect inspection _ => inspection.verb

/-- The relation that the statement consumes. -/
def relation : Statement → Alias
  | .store relation _ _ => relation
  | .inspect _ relation => relation

/-- The verb and the alias, with which every statement starts. -/
def head (s : Statement) : String := s.verb ++ " " ++ s.relation.text

/-- The storage function of a store, as it is written. Only here is a name resolved. -/
def functionClause (resolve : Resolver) : Option String → Except ResolveError String
  | none => .ok ""
  | some name => (resolve name).map fun invocation => " USING " ++ invocation

/-- The statement as it is written in a script, without the semicolon after it. The path stands
between single quotes just as it is. -/
def render (resolve : Resolver) : Statement → Except ResolveError String
  | s@(.store _ path function) =>
    (functionClause resolve function).map fun clause =>
      s.head ++ " INTO '" ++ path.text ++ "'" ++ clause
  | s@(.inspect _ _) => .ok s.head

end Statement

end PigLatin
