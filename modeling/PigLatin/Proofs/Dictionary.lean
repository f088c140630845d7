import Mathlib.Data.List.Sort
import PigLatin.Dictionary

/-!
# What a dictionary holds

In a dictionary that is in order, an entry is there exactly if its value is found under its key. So
dictionaries in which the same is found under every key are the same dictionary, however they came
to be.
-/

namespace PigLatin.Dictionary

open Text

variable {β : Type} {key : String} {value : β} {entries : Dictionary β}

theorem mem_of_get? (h : entries.get? key = some value) : (key, value) ∈ entries := by
  induction entries with
  | nil => cases h
  | cons first rest ih =>
    obtain ⟨k, v⟩ := first
    simp only [get?] at h
    split at h
    · next heq =>
      subst heq
      cases h
      exact List.mem_cons_self
    · exact List.mem_cons_of_mem _ (ih h)

theorem get?_of_mem (hsorted : entries.Sorted) (h : (key, value) ∈ entries) :
    entries.get? key = some value := by
  induction entries with
  | nil => cases h
  | cons first rest ih =>
    obtain ⟨hfirst, hrest⟩ := List.pairwise_cons.1 hsorted
    rcases List.mem_cons.1 h with rfl | h
    · simp [get?]
    · -- The first key is below all others, so it is not the one that is looked for.
      have hne : first.1 ≠ key := by
        intro heq
        have hlt : bytes first.1 < bytes key := hfirst _ h
        rw [heq] at hlt
        exact List.lt_irrefl _ hlt
      simp only [get?, if_neg hne]
      exact ih hrest h

/-- In a dictionary that is `Sorted`, `get?` finds every entry under its key. -/
theorem mem_iff_get? (hsorted : entries.Sorted) :
    (key, value) ∈ entries ↔ entries.get? key = some value :=
  ⟨get?_of_mem hsorted, mem_of_get?⟩

/-- What `get?` finds under the keys determines a dictionary that is `Sorted`. -/
theorem eq_of_get?_eq {entries' : Dictionary β} (hsorted : entries.Sorted)
    (hsorted' : entries'.Sorted) (h : ∀ key, entries.get? key = entries'.get? key) :
    entries = entries' := by
  have : Std.Irrefl fun a b : String × β => bytes a.1 < bytes b.1 :=
    ⟨fun a => List.lt_irrefl (bytes a.1)⟩
  have : Std.Antisymm fun a b : String × β => bytes a.1 < bytes b.1 :=
    ⟨fun a b hab hba => absurd hba (List.lt_asymm hab)⟩
  refine List.Pairwise.eq_of_mem_iff hsorted hsorted' fun ⟨key, value⟩ => ?_
  rw [mem_iff_get? hsorted, mem_iff_get? hsorted', h key]

/-- A function that goes through the entries until it comes to the key depends on what `get?` finds
under the key alone. -/
theorem eq_getD_map_get? {γ : Type} {f : β → γ} {g : Dictionary β → γ} {default : γ}
    (hnil : g [] = default)
    (hcons : ∀ k v rest, g ((k, v) :: rest) = if k = key then f v else g rest)
    (entries : Dictionary β) : g entries = ((entries.get? key).map f).getD default := by
  induction entries with
  | nil => exact hnil
  | cons first rest ih =>
    rw [hcons, get?, ih]
    split <;> rfl

end PigLatin.Dictionary
