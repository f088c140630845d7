import PigLatin.Document.Member
import PigLatin.Statement

/-!
# Descriptions of statements

An object describes a statement. The first verb among its keys, in a fixed order of verbs, decides
which statement it is.
-/

namespace PigLatin.Document

/-- The verbs of the statements that can be described. -/
inductive Verb where
  | store
  | inspect (inspection : Inspection)
  deriving DecidableEq, Repr

namespace Verb

/-- Every verb, in the order in which they are looked for. -/
def all : List Verb :=
  [store, inspect .dump, inspect .describe, inspect .illustrate, inspect .explain]

/-- The key that tells the verb. -/
def key : Verb → String
  | store => "store"
  | inspect .dump => "dump"
  | inspect .describe => "describe"
  | inspect .illustrate => "illustrate"
  | inspect .explain => "explain"

/-- The verb of the statement that the members describe. -/
def ofMembers? (members : Members) : Option Verb := all.find? fun verb => members.contains verb.key

end Verb

/-- The statement that the value describes. -/
def readStatement : Json → Except ItemError Statement
  | .object members =>
    match Verb.ofMembers? members with
    | some verb => do
      let relation ← stringMember verb.key members
      let relation ← liftBuild (Alias.parse relation)
      match verb with
      | .store =>
        let function ← stringMember? "using" members
        let path ← stringMember "into" members
        let path ← liftBuild (StorePath.parse path)
        return .store relation path function
      | .inspect inspection => return .inspect inspection relation
    | none => throwShape (.notStatement (.object members))
  | found => throwShape (.notObject .statement found)

/-- The text of the statement that the value describes, without the semicolon after it. -/
def renderStatement (resolve : Resolver) (value : Json) : Except ItemError String := do
  let statement ← readStatement value
  (statement.render resolve).mapError .resolve

end PigLatin.Document
