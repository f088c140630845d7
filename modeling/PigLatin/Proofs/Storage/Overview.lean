import PigLatin.Proofs.Storage.Run
import Mathlib.Data.List.Forall2

/-!
# The overview as a table

The overview of a registry is a table of two columns, names and invocations. The width of the first
column is measured in bytes and its rows are filled up by characters. Since no character has less
than one byte, no name overflows its column, whatever the characters of the others are. What limits
the overview is the width itself: there is none once a name has more bytes than a width can count.
-/

namespace PigLatin.Registry

open Text

/-! ## Bytes and characters -/

theorem length_le_utf8ByteSize (s : String) : s.length ≤ s.utf8ByteSize := by
  induction s using String.push_induction with
  | empty => exact Nat.le_refl 0
  | push s c ih =>
    rw [String.length_push, String.utf8ByteSize_push]
    exact Nat.add_le_add ih c.utf8Size_pos

theorem utf8ByteSize_ofList_replicate (n : Nat) (c : Char) :
    (String.ofList (List.replicate n c)).utf8ByteSize = n * c.utf8Size := by
  induction n with
  | zero => rw [Nat.zero_mul]; rfl
  | succ n ih =>
    rw [List.replicate_succ, String.ofList_cons, String.utf8ByteSize_append,
      String.utf8ByteSize_singleton, ih, Nat.succ_mul, Nat.add_comm]

/-! ## The width of the column of names -/

/-- The width is the number of bytes of the longest name, and zero if there is no name. -/
structure IsLongestName (entries : List (String × String)) (width : Nat) : Prop where
  /-- No name has more bytes. -/
  bound : ∀ entry ∈ entries, entry.1.utf8ByteSize ≤ width
  /-- Some name has as many. -/
  reached : width = 0 ∨ ∃ entry ∈ entries, entry.1.utf8ByteSize = width

theorem IsLongestName.unique {entries : List (String × String)} {width width' : Nat}
    (h : IsLongestName entries width) (h' : IsLongestName entries width') : width = width' := by
  have hle : ∀ {v w : Nat}, IsLongestName entries v → IsLongestName entries w → v ≤ w := by
    intro v w hv hw
    rcases hv.reached with rfl | ⟨entry, hentry, rfl⟩
    · exact Nat.zero_le w
    · exact hw.bound entry hentry
  exact Nat.le_antisymm (hle h h') (hle h' h)

theorem isLongestName_columnWidth (registry : Registry) :
    IsLongestName registry.entries registry.columnWidth := by
  have hwidth : registry.columnWidth =
      ((registry.entries.map fun entry => entry.1.utf8ByteSize).max?).getD 0 := by
    rw [columnWidth, List.foldl_max, Nat.zero_max]
  cases hmax : (registry.entries.map fun entry => entry.1.utf8ByteSize).max? with
  | none =>
    have hnil : registry.entries = [] := by simpa using hmax
    exact ⟨by simp [hnil], .inl (by rw [hwidth, hmax]; rfl)⟩
  | some width =>
    rw [hmax, Option.getD_some] at hwidth
    obtain ⟨hmem, hbound⟩ := List.max?_eq_some_iff.1 hmax
    rw [hwidth]
    exact ⟨fun entry hentry => hbound _ (List.mem_map_of_mem hentry), .inr (List.mem_map.1 hmem)⟩

/-- The `columnWidth` is the one such width. -/
theorem isLongestName_iff {registry : Registry} {width : Nat} :
    IsLongestName registry.entries width ↔ width = registry.columnWidth := by
  constructor
  · intro h
    exact h.unique (isLongestName_columnWidth registry)
  · rintro rfl
    exact isLongestName_columnWidth registry

theorem length_le_columnWidth {registry : Registry} {entry : String × String}
    (h : entry ∈ registry.entries) : entry.1.length ≤ registry.columnWidth :=
  (length_le_utf8ByteSize entry.1).trans ((isLongestName_columnWidth registry).bound entry h)

/-! ## Rows -/

/-- The line is a row of a table whose first column has the width: the name fits in its column and
is filled up with blanks, two blanks stand between the columns, and the rest of the line is the
invocation as it is. -/
structure IsRow (width : Nat) (name invocation line : String) : Prop where
  fits : name.length ≤ width
  column : line.toList.take width = name.toList ++ List.replicate (width - name.length) ' '
  gap : (line.toList.drop width).take 2 = [' ', ' ']
  rest : line.toList.drop (width + 2) = invocation.toList ++ ['\n']

/-- What `row` writes has the shape of a row as long as the name is not longer than its column is
wide. -/
theorem isRow_row {width : Nat} {name : String} (h : name.length ≤ width) (invocation : String) :
    IsRow width name invocation (row width name invocation) := by
  have hrow : (row width name invocation).toList =
      (name.toList ++ List.replicate (width - name.length) ' ') ++
        ([' ', ' '] ++ (invocation.toList ++ ['\n'])) := by
    simp [row]
  have hlength : (name.toList ++ List.replicate (width - name.length) ' ').length = width := by
    rw [List.length_append, List.length_replicate, String.length_toList]
    exact Nat.add_sub_cancel' h
  exact {
    fits := h
    column := by rw [hrow, List.take_left' hlength]
    gap := by rw [hrow, List.drop_left' hlength]; rfl
    rest := by rw [← List.drop_drop, hrow, List.drop_left' hlength]; rfl }

/-! ## The table -/

/-- The text is a table of the entries: a row for each of them, in their order. -/
def IsTable (width : Nat) (entries : List (String × String)) (text : String) : Prop :=
  ∃ lines : List String, text = String.join lines ∧
    List.Forall₂ (fun entry line => IsRow width entry.1 entry.2 line) entries lines

theorem isTable_rows (registry : Registry) :
    IsTable registry.columnWidth registry.entries
      (String.join (registry.entries.map fun (name, invocation) =>
        row registry.columnWidth name invocation)) := by
  refine ⟨_, rfl, List.forall₂_map_right_iff.2 (List.forall₂_same.2 fun entry hentry => ?_)⟩
  exact isRow_row (length_le_columnWidth hentry) entry.2

/-- `overview?` fails exactly where the names need more than the `widestColumn`. -/
theorem overview?_eq_none_iff {registry : Registry} :
    registry.overview? = none ↔ widestColumn < registry.columnWidth := by
  rw [← Nat.not_le, overview?]
  split <;> simp [*]

theorem isTable_of_overview? {registry : Registry} {text : String}
    (h : registry.overview? = some text) : IsTable registry.columnWidth registry.entries text := by
  unfold overview? at h
  split at h
  · cases h
    exact isTable_rows registry
  · cases h

/-- There is an overview, and it is the table, exactly if the longest name does not have more bytes
than a column can be wide. -/
theorem exists_isTable_iff_le {registry : Registry} :
    (∃ text, registry.overview? = some text ∧
      IsTable registry.columnWidth registry.entries text) ↔
        registry.columnWidth ≤ widestColumn := by
  rw [← Nat.not_lt, ← overview?_eq_none_iff]
  constructor
  · rintro ⟨text, htext, -⟩ hnone
    rw [htext] at hnone
    cases hnone
  · intro hsome
    obtain ⟨text, htext⟩ := Option.ne_none_iff_exists'.1 hsome
    exact ⟨text, htext, isTable_of_overview? htext⟩

/-- The overview of a registry, however it was filled, lists what the registry resolves in ascending
order of the names. It is a table whose first column is as wide as the longest name has bytes, if
that is a width that a column can have. Otherwise there is no overview. -/
theorem isTable_overview_iff (registry : Registry) :
    (∀ name invocation, (name, invocation) ∈ registry.entries ↔
        registry.resolve name = .ok invocation) ∧
      registry.entries.Pairwise (fun a b => bytes a.1 < bytes b.1) ∧
      (∀ width, IsLongestName registry.entries width ↔ width = registry.columnWidth) ∧
      ((∃ text, registry.overview? = some text ∧
        IsTable registry.columnWidth registry.entries text) ↔
          registry.columnWidth ≤ widestColumn) ∧
      (registry.overview? = none ↔ widestColumn < registry.columnWidth) :=
  ⟨fun _ _ => mem_entries_iff, registry.sorted, fun _ => isLongestName_iff, exists_isTable_iff_le,
    overview?_eq_none_iff⟩

theorem columnWidth_register_empty (name invocation : String) :
    (empty.register name invocation).columnWidth = name.utf8ByteSize :=
  Nat.zero_max _

/-- A name of 65536 letters leaves a registry without an overview. -/
theorem not_exists_isTable_longName :
    let registry := empty.register (String.ofList (List.replicate 65536 'a')) "F()"
    ¬∃ text, registry.overview? = some text ∧
      IsTable registry.columnWidth registry.entries text := by
  rintro registry ⟨text, htext, -⟩
  have hwidth : widestColumn < registry.columnWidth := by
    rw [columnWidth_register_empty, utf8ByteSize_ofList_replicate]
    decide
  rw [overview?_eq_none_iff.2 hwidth] at htext
  cases htext

end PigLatin.Registry
