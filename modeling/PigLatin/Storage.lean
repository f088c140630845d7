import PigLatin.Dictionary

/-!
# Storage functions

A script names a storage function by a short name; a resolver knows the invocation that the name
stands for. A registry is a resolver that can be added to: the last invocation registered under a
name is the one that counts.
-/

namespace PigLatin

/-- Why a name does not stand for an invocation. -/
inductive ResolveError where
  /-- No storage function has the name. -/
  | unresolved (name : String)
  deriving DecidableEq, Repr

/-- The wording of the error. -/
def ResolveError.message : ResolveError → String
  | .unresolved name => "unresolved storage function: " ++ name

/-- What the names of storage functions stand for. -/
abbrev Resolver := String → Except ResolveError String

/-- Invocations of storage functions under their names. -/
structure Registry where
  /-- The invocations, in ascending order of the names. -/
  entries : Dictionary String
  /-- They are in that order, each name once. -/
  sorted : entries.Sorted

namespace Registry

/-- The registry without any names. -/
def empty : Registry := ⟨[], Dictionary.sorted_nil⟩

/-- Gives a name an invocation, in place of the one it may have. -/
def register (registry : Registry) (name invocation : String) : Registry :=
  ⟨registry.entries.insert name invocation,
    Dictionary.sorted_insert registry.sorted name invocation⟩

/-- Gives names their invocations, one after the other. -/
def registerAll (registry : Registry) (pairs : List (String × String)) : Registry :=
  pairs.foldl (fun registry (name, invocation) => registry.register name invocation) registry

/-- The storage functions that are always there. -/
def builtIn : List (String × String) := [
  ("avro_storage", "AvroStorage()"),
  ("bin_storage", "BinStorage()"),
  ("json_loader", "JsonLoader()"),
  ("json_storage", "JsonStorage()"),
  ("pig_dump", "PigDump()"),
  ("pig_storage", "PigStorage()"),
  ("text_loader", "TextLoader()")]

/-- The registry of the storage functions that are always there. -/
def standard : Registry := empty.registerAll builtIn

/-- The invocation that a name stands for. -/
def resolve (registry : Registry) : Resolver := fun name =>
  match registry.entries.get? name with
  | some invocation => .ok invocation
  | none => .error (.unresolved name)

/-! ## Overview -/

/-- The width of the column of names: the bytes of the longest one. -/
def columnWidth (registry : Registry) : Nat :=
  (registry.entries.map fun (name, _) => name.utf8ByteSize).foldl max 0

/-- A name and its invocation on a line, the invocation in its column. The name is filled up to the
width of its column with one blank for each character that is missing. -/
def row (width : Nat) (name invocation : String) : String :=
  name ++ String.ofList (List.replicate (width - name.length) ' ') ++ "  " ++ invocation ++ "\n"

/-- The widest column that can be filled up: a width has no more than 16 bits. -/
def widestColumn : Nat := 65535

/-- All names with their invocations, a line each, in ascending order of the names. There is no
overview if the column of names is too wide to be filled up. -/
def overview? (registry : Registry) : Option String :=
  if registry.columnWidth ≤ widestColumn then
    some (String.join (registry.entries.map fun (name, invocation) =>
      row registry.columnWidth name invocation))
  else none

theorem isSome_overview?_standard : standard.overview?.isSome = true := by decide +kernel

end Registry

end PigLatin
