import PigLatin.Document.Member
import PigLatin.Proofs.Dictionary
import PigLatin.Proofs.Except

/-!
# What members say

The reader of a member succeeds on members of one form and on no others, and it looks at nothing but
the value under its key.
-/

namespace PigLatin.Document

variable {members members' : Members} {key : String}

/-- `liftBuild` changes nothing but the error. -/
theorem liftBuild_eq_ok_iff {α : Type} {result : Except BuildError α} {a : α} :
    liftBuild result = .ok a ↔ result = .ok a :=
  Except.mapError_eq_ok_iff

/-- `asString` accepts text and nothing else; the key is only named in the error. -/
theorem asString_eq_ok_iff {value : Json} {s : String} :
    asString key value = .ok s ↔ value = .string s := by
  cases value <;> simp [asString, throwShape]

/-- `stringMember` reads the text under the key, which has to be there. -/
theorem stringMember_eq_ok_iff {s : String} :
    stringMember key members = .ok s ↔ members.get? key = some (.string s) := by
  unfold stringMember
  cases members.get? key with
  | none => simp [throwShape]
  | some value => simp [asString_eq_ok_iff]

/-- `stringMember?` reads the text under the key, or nothing where the key is missing. A `null` is
no text. -/
theorem stringMember?_eq_ok_iff {text : Option String} :
    stringMember? key members = .ok text ↔ members.get? key = text.map .string := by
  unfold stringMember?
  cases members.get? key with
  | none => cases text <;> simp
  | some value => cases text <;> simp [Except.map_eq_ok_iff, asString_eq_ok_iff]

/-! ## Errors -/

/-- No part that cannot be built is taken for a name that cannot be resolved, and neither is a
member of the wrong shape. -/
theorem liftBuild_ne_resolve {α : Type} {result : Except BuildError α} {error : ResolveError} :
    liftBuild result ≠ .error (.resolve error) := by
  cases result <;> simp [liftBuild, Except.mapError]

theorem stringMember_ne_resolve {error : ResolveError} :
    stringMember key members ≠ .error (.resolve error) := by
  unfold stringMember
  cases members.get? key with
  | none => simp [throwShape]
  | some value => cases value <;> simp [asString, throwShape]

theorem stringMember?_ne_resolve {error : ResolveError} :
    stringMember? key members ≠ .error (.resolve error) := by
  unfold stringMember?
  cases members.get? key with
  | none => simp
  | some value => cases value <;> simp [asString, throwShape, Except.map]

/-! ## Types -/

/-- A member for the type, if there is one, names a type. -/
def HasValidType (members : Members) : Prop :=
  ∀ value, members.get? "type" = some value →
    ∃ name type, value = .string name ∧ DataType.parse name = .ok type

/-- `typeMember?` reads the member `"type"`, which may be missing but has to name a type if it is
there. -/
theorem typeMember?_eq_ok_iff {override : Option DataType} :
    typeMember? members = .ok override ↔
      members.get? "type" = none ∧ override = none ∨ ∃ name type,
        members.get? "type" = some (.string name) ∧ DataType.parse name = .ok type ∧
          override = some type := by
  rw [typeMember?, Except.bind_eq_ok_iff]
  constructor
  · rintro ⟨text, htext, h⟩
    rw [stringMember?_eq_ok_iff] at htext
    cases text with
    | none =>
      cases h
      exact .inl ⟨htext, rfl⟩
    | some name =>
      obtain ⟨type, htype, rfl⟩ := Except.map_eq_ok_iff.1 h
      exact .inr ⟨name, type, htext, liftBuild_eq_ok_iff.1 htype, rfl⟩
  · rintro (⟨hnone, rfl⟩ | ⟨name, type, hname, htype, rfl⟩)
    · exact ⟨none, stringMember?_eq_ok_iff.2 hnone, rfl⟩
    · exact ⟨some name, stringMember?_eq_ok_iff.2 hname,
        Except.map_eq_ok_iff.2 ⟨type, liftBuild_eq_ok_iff.2 htype, rfl⟩⟩

/-- `HasValidType` says on which objects `typeMember?` succeeds. -/
theorem exists_typeMember?_iff :
    (∃ override, typeMember? members = .ok override) ↔ HasValidType members := by
  constructor
  · rintro ⟨override, h⟩ value hvalue
    rcases typeMember?_eq_ok_iff.1 h with ⟨hnone, -⟩ | ⟨name, type, hname, htype, -⟩
    · rw [hnone] at hvalue
      cases hvalue
    · rw [hname] at hvalue
      cases hvalue
      exact ⟨name, type, rfl, htype⟩
  · intro h
    cases hvalue : members.get? "type" with
    | none => exact ⟨none, typeMember?_eq_ok_iff.2 (.inl ⟨hvalue, rfl⟩)⟩
    | some value =>
      obtain ⟨name, type, rfl, htype⟩ := h value hvalue
      exact ⟨some type, typeMember?_eq_ok_iff.2 (.inr ⟨name, type, hvalue, htype, rfl⟩)⟩

/-! ## The first key that is there -/

/-- None of the keys is there. -/
def Lacks (members : Members) (keys : List String) : Prop := ∀ key ∈ keys, members.get? key = none

/-- Of things with keys, `List.find?` finds the one whose key is there while the object `Lacks` all
the earlier keys. -/
theorem find?_contains_eq_some_iff {α : Type} {key : α → String} (earlier : List α) {a : α}
    {later : List α} (ha : a ∉ earlier) :
    (earlier ++ a :: later).find? (fun x => members.contains (key x)) = some a ↔
      Lacks members (earlier.map key) ∧ ∃ value, members.get? (key a) = some value := by
  have hlacks : earlier.find? (fun x => members.contains (key x)) = none ↔
      Lacks members (earlier.map key) := by
    simp [Lacks, Dictionary.contains]
  rw [List.find?_append, ← hlacks, ← Option.isSome_iff_exists]
  cases hearlier : earlier.find? fun x => members.contains (key x) with
  | some b =>
    have hne : b ≠ a := fun hb => ha (hb ▸ List.mem_of_find?_eq_some hearlier)
    simp [hne]
  | none =>
    constructor
    · intro h
      exact ⟨rfl, List.find?_some (p := fun x => members.contains (key x)) h⟩
    · rintro ⟨-, h⟩
      simp [Dictionary.contains, h]

/-! ## Nothing but the value under the key -/

/-- `stringMember` looks at nothing but the value under its key, and so does `typeMember?`. -/
theorem stringMember_congr (h : members.get? key = members'.get? key) :
    stringMember key members = stringMember key members' := by
  simp only [stringMember, h]

theorem typeMember?_congr (h : members.get? "type" = members'.get? "type") :
    typeMember? members = typeMember? members' := by
  simp only [typeMember?, stringMember?, h]

end PigLatin.Document
