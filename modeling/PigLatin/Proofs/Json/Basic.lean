import PigLatin.Json.Basic
import PigLatin.Proofs.Dictionary

/-!
# Induction over documents

An object describes something by its members, and a member by its value or, where it is an array, by
the items of it. Those are smaller than the object.
-/

namespace PigLatin.Json

theorem sizeOf_lt_of_get? {key : String} {value : Json} {members : Dictionary Json}
    (h : members.get? key = some value) : sizeOf value < sizeOf (object members) := by
  have hlt := List.sizeOf_lt_of_mem (Dictionary.mem_of_get? h)
  simp only [Prod.mk.sizeOf_spec] at hlt
  simp only [object.sizeOf_spec]
  omega

theorem sizeOf_lt_of_mem {item : Json} {items : List Json} (h : item ∈ items) :
    sizeOf item < sizeOf (array items) := by
  have hlt := List.sizeOf_lt_of_mem h
  simp only [array.sizeOf_spec]
  omega

/-- Induction over what objects describe: by the values of the members and by the items of those
that are arrays. -/
@[elab_as_elim]
theorem inductionOn {motive : Json → Prop} (v : Json)
    (other : ∀ v, (∀ members, v ≠ object members) → motive v)
    (object : ∀ members : Dictionary Json,
      (∀ key value, members.get? key = some value → motive value) →
      (∀ key items, members.get? key = some (.array items) → ∀ item ∈ items, motive item) →
      motive (object members)) : motive v := by
  induction hsize : sizeOf v using Nat.strong_induction_on generalizing v with
  | _ size ih =>
    subst hsize
    cases v with
    | object members =>
      refine object members (fun key value hvalue => ?_) fun key items hitems item hitem => ?_
      · exact ih _ (sizeOf_lt_of_get? hvalue) value rfl
      · exact ih _ ((sizeOf_lt_of_mem hitem).trans (sizeOf_lt_of_get? hitems)) item rfl
    | null | bool | number | string | array => exact other _ nofun

end PigLatin.Json
