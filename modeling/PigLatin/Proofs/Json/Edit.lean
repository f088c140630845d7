import Mathlib.Logic.Relation
import PigLatin.Json.Basic

/-!
# Edits of documents

Some keys are known to whoever reads a document. An edit changes what an object somewhere in the
document has under a key that is not known: a member comes, or goes, or has another value.
-/

namespace PigLatin.Json

variable {known : List String} {members members' : Dictionary Json} {key : String} {v v' : Json}

/-- The objects have the same under every key but the given one. -/
def AgreeBut (key : String) (members members' : Dictionary Json) : Prop :=
  ∀ other, other ≠ key → members.get? other = members'.get? other

/-- One edit, somewhere in the value. -/
inductive Edit (known : List String) : Json → Json → Prop where
  | here {members members' : Dictionary Json} {key : String} (hkey : key ∉ known)
      (hagree : AgreeBut key members members') : Edit known (object members) (object members')
  | member {members members' : Dictionary Json} {key : String} {value value' : Json}
      (hvalue : members.get? key = some value) (hvalue' : members'.get? key = some value')
      (hagree : AgreeBut key members members') (hedit : Edit known value value') :
      Edit known (object members) (object members')
  | item {before after : List Json} {value value' : Json} (hedit : Edit known value value') :
      Edit known (array (before ++ value :: after)) (array (before ++ value' :: after))

/-- Any number of edits, one after the other. -/
def Edits (known : List String) : Json → Json → Prop := Relation.ReflTransGen (Edit known)

/-! ## Members that come and go -/

theorem agreeBut_insert (members : Dictionary Json) (key : String) (value : Json) :
    AgreeBut key members (members.insert key value) := by
  intro other hother
  rw [Dictionary.get?_insert, if_neg hother.symm]

theorem agreeBut_filter (members : Dictionary Json) (key : String) :
    AgreeBut key members (members.filter fun entry => entry.1 ≠ key) := by
  intro other hother
  induction members with
  | nil => rfl
  | cons first rest ih =>
    obtain ⟨k, value⟩ := first
    by_cases hk : k = key
    · have hne : k ≠ other := fun heq => hother (heq.symm.trans hk)
      simp [Dictionary.get?, hk, hother.symm, ih]
    · simp [Dictionary.get?, hk, ih]

/-- Putting a member under a key that is not `known`, whether or not there is one, is an `Edit`. -/
theorem Edit.insert (members : Dictionary Json) (value : Json) (hkey : key ∉ known) :
    Edit known (object members) (object (members.insert key value)) :=
  .here hkey (agreeBut_insert members key value)

/-- Taking away what stands under a key that is not `known` is an `Edit`. -/
theorem Edit.remove (members : Dictionary Json) (hkey : key ∉ known) :
    Edit known (object members) (object (members.filter fun entry => entry.1 ≠ key)) :=
  .here hkey (agreeBut_filter members key)

/-! ## What is left alone -/

/-- Under the key there is nothing in either object, or there are values in the relation. -/
inductive Under (R : Json → Json → Prop) (key : String) (members members' : Dictionary Json) :
    Prop where
  | absent (hnone : members.get? key = none) (hnone' : members'.get? key = none)
  | present {value value' : Json} (hvalue : members.get? key = some value)
      (hvalue' : members'.get? key = some value') (h : R value value')

namespace Under

variable {R S : Json → Json → Prop} {other : String} {value value' : Json}

theorem imp (hRS : ∀ v v', R v v' → S v v') (h : Under R key members members') :
    Under S key members members' := by
  cases h with
  | absent hnone hnone' => exact .absent hnone hnone'
  | present hvalue hvalue' h => exact .present hvalue hvalue' (hRS _ _ h)

theorem of_eq (hrefl : ∀ v, R v v) (h : members.get? key = members'.get? key) :
    Under R key members members' := by
  cases hvalue : members.get? key with
  | none => exact .absent hvalue (h.symm.trans hvalue)
  | some value => exact .present hvalue (h.symm.trans hvalue) (hrefl value)

/-- Where objects agree but for one key and have related values there, their members are related
under any key. -/
theorem of_agreeBut (hrefl : ∀ v, R v v) (hvalue : members.get? key = some value)
    (hvalue' : members'.get? key = some value') (hagree : AgreeBut key members members')
    (h : R value value') (other : String) : Under R other members members' := by
  by_cases hother : other = key
  · subst hother
    exact .present hvalue hvalue' h
  · exact of_eq hrefl (hagree other hother)

theorem contains_eq (h : Under R key members members') :
    members.contains key = members'.contains key := by
  cases h with
  | absent hnone hnone' => simp only [Dictionary.contains, hnone, hnone']
  | present hvalue hvalue' h => simp only [Dictionary.contains, hvalue, hvalue', Option.isSome_some]

end Under

end PigLatin.Json
