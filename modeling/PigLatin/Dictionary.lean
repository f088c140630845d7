import PigLatin.Text.Bytes

/-!
# Dictionaries

Values under text keys. The entries are kept in ascending order of their keys, each key once; a
value put under a key that is there already takes the place of the older one. Keys are compared byte
by byte.
-/

namespace PigLatin

/-- Entries in ascending order of their keys. -/
abbrev Dictionary (β : Type) := List (String × β)

namespace Dictionary

open Text

variable {β : Type}

/-- The value under a key. -/
def get? (key : String) : Dictionary β → Option β
  | [] => none
  | (k, value) :: rest => if k = key then some value else get? key rest

/-- There is a value under the key. -/
def contains (key : String) (entries : Dictionary β) : Bool := (entries.get? key).isSome

/-- Puts a value under a key. -/
def insert (key : String) (value : β) : Dictionary β → Dictionary β
  | [] => [(key, value)]
  | (k, v) :: rest =>
    if key = k then (key, value) :: rest
    else if bytes key < bytes k then (key, value) :: (k, v) :: rest
    else (k, v) :: insert key value rest

/-- Puts values under keys, one after the other. -/
def insertAll (entries : Dictionary β) (pairs : List (String × β)) : Dictionary β :=
  pairs.foldl (fun entries (key, value) => entries.insert key value) entries

/-! ## Order -/

/-- The keys ascend, so that no key occurs twice. -/
def Sorted (entries : Dictionary β) : Prop := entries.Pairwise fun a b => bytes a.1 < bytes b.1

theorem sorted_nil : Sorted ([] : Dictionary β) := List.Pairwise.nil

/-- What is in a dictionary after a value was put into it is that value or was there before. -/
theorem mem_insert {key : String} {value : β} {entries : Dictionary β} {entry : String × β}
    (h : entry ∈ entries.insert key value) : entry = (key, value) ∨ entry ∈ entries := by
  induction entries with
  | nil => simpa [insert] using h
  | cons first rest ih =>
    simp only [insert] at h
    split at h
    · rcases List.mem_cons.1 h with h | h
      · exact .inl h
      · exact .inr (List.mem_cons_of_mem _ h)
    · split at h
      · rcases List.mem_cons.1 h with h | h
        · exact .inl h
        · exact .inr h
      · rcases List.mem_cons.1 h with h | h
        · exact .inr (h ▸ List.mem_cons_self)
        · exact (ih h).imp id (List.mem_cons_of_mem _)

theorem sorted_insert {entries : Dictionary β} (h : entries.Sorted) (key : String) (value : β) :
    (entries.insert key value).Sorted := by
  induction entries with
  | nil => exact List.pairwise_singleton _ _
  | cons first rest ih =>
    obtain ⟨k, v⟩ := first
    obtain ⟨hfirst, hrest⟩ := List.pairwise_cons.1 h
    simp only [insert]
    split
    · next heq =>
      subst heq
      exact List.pairwise_cons.2 ⟨hfirst, hrest⟩
    · next hne =>
      split
      · next hlt =>
        refine List.pairwise_cons.2 ⟨fun entry hentry => ?_, h⟩
        rcases List.mem_cons.1 hentry with rfl | hentry
        · exact hlt
        · exact List.lt_trans hlt (hfirst entry hentry)
      · next hnlt =>
        refine List.pairwise_cons.2 ⟨fun entry hentry => ?_, ih hrest⟩
        rcases mem_insert hentry with rfl | hentry
        · exact bytes_lt_of_not_lt hne hnlt
        · exact hfirst entry hentry

/-! ## Look-up -/

/-- Putting a value under a key changes what is found under that key alone. -/
theorem get?_insert (entries : Dictionary β) (key : String) (value : β) (other : String) :
    (entries.insert key value).get? other =
      if key = other then some value else entries.get? other := by
  induction entries with
  | nil => rfl
  | cons first rest ih =>
    obtain ⟨k, v⟩ := first
    simp only [insert]
    split
    · next heq =>
      subst heq
      simp only [get?]
      split <;> rfl
    · split
      · simp only [get?]
      · simp only [get?, ih]
        grind

end Dictionary

end PigLatin
