/-!
# Range tables

A property of characters, given by the closed ranges of code points that have it. The tables are
those of Unicode 17 where they do not say otherwise.
-/

namespace PigLatin.Unicode

/-- Closed ranges of code points, in ascending order. -/
abbrev RangeTable := List (Nat × Nat)

/-- The character lies in one of the ranges. -/
def RangeTable.contains (table : RangeTable) (c : Char) : Bool :=
  table.any fun (first, last) => first ≤ c.toNat && c.toNat ≤ last

theorem RangeTable.contains_iff {table : RangeTable} {c : Char} :
    table.contains c = true ↔ ∃ range ∈ table, range.1 ≤ c.toNat ∧ c.toNat ≤ range.2 := by
  simp [RangeTable.contains]

end PigLatin.Unicode
