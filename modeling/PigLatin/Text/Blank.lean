import PigLatin.Unicode.WhiteSpace

/-!
# Blank text

Text is blank if it holds nothing but white space. Trimming takes the white space off both ends and
leaves the empty text exactly when the text was blank.
-/

namespace PigLatin.Text

open Unicode

/-- The text holds nothing but white space. -/
def isBlank (s : String) : Bool := s.toList.all isWhiteSpace

/-- The characters left when the white space at both ends is taken off. -/
def trimChars (cs : List Char) : List Char :=
  ((cs.dropWhile isWhiteSpace).reverse.dropWhile isWhiteSpace).reverse

/-- The text without the white space at its ends. -/
def trim (s : String) : String := String.ofList (trimChars s.toList)

@[simp] theorem toList_trim (s : String) : (trim s).toList = trimChars s.toList := by
  simp [trim]

private theorem dropWhile_eq_nil_iff {cs : List Char} :
    cs.dropWhile isWhiteSpace = [] ↔ ∀ c ∈ cs, isWhiteSpace c = true := by
  induction cs with
  | nil => simp
  | cons c cs ih => by_cases h : isWhiteSpace c = true <;> simp [h, ih]

/-- Nothing is left of blank text, and something is left of any other. -/
theorem trimChars_eq_nil_iff {cs : List Char} :
    trimChars cs = [] ↔ ∀ c ∈ cs, isWhiteSpace c = true := by
  constructor
  · intro h c hc
    have hrest : ∀ x ∈ cs.dropWhile isWhiteSpace, isWhiteSpace x = true := by
      simpa [trimChars, dropWhile_eq_nil_iff] using h
    rw [← List.takeWhile_append_dropWhile (p := isWhiteSpace) (l := cs)] at hc
    rcases List.mem_append.1 hc with hc | hc
    · exact List.all_eq_true.1 List.all_takeWhile c hc
    · exact hrest c hc
  · intro h
    simp [trimChars, dropWhile_eq_nil_iff.2 h]

theorem isBlank_iff {s : String} : isBlank s = true ↔ trim s = "" := by
  simp [← String.toList_inj, isBlank, trimChars_eq_nil_iff]

/-! ## Trimmed text -/

private theorem dropWhile_idem (cs : List Char) :
    (cs.dropWhile isWhiteSpace).dropWhile isWhiteSpace = cs.dropWhile isWhiteSpace := by
  induction cs with
  | nil => rfl
  | cons c cs ih => by_cases h : isWhiteSpace c = true <;> simp [h, ih]

private theorem dropWhile_append_of_dropWhile_eq {cs ds : List Char}
    (h : (cs ++ ds).dropWhile isWhiteSpace = cs ++ ds) : cs.dropWhile isWhiteSpace = cs := by
  cases cs with
  | nil => rfl
  | cons c cs =>
    by_cases hc : isWhiteSpace c = true
    · have hlen := congrArg List.length h
      have hle : ((cs ++ ds).dropWhile isWhiteSpace).length ≤ (cs ++ ds).length :=
        (List.dropWhile_sublist _).length_le
      simp only [List.cons_append, List.dropWhile_cons, hc, if_true, List.length_cons] at hlen
      omega
    · simp [hc]

/-- Trimming what is trimmed changes nothing. -/
theorem trimChars_trimChars (cs : List Char) : trimChars (trimChars cs) = trimChars cs := by
  have hfront : (trimChars cs).dropWhile isWhiteSpace = trimChars cs := by
    have hsplit : trimChars cs ++ ((cs.dropWhile isWhiteSpace).reverse.takeWhile
        isWhiteSpace).reverse = cs.dropWhile isWhiteSpace := by
      rw [trimChars, ← List.reverse_append, List.takeWhile_append_dropWhile, List.reverse_reverse]
    apply dropWhile_append_of_dropWhile_eq
    rw [hsplit, dropWhile_idem]
  rw [trimChars, hfront, trimChars, List.reverse_reverse, dropWhile_idem]

theorem trim_trim (s : String) : trim (trim s) = trim s := by
  simp [← String.toList_inj, trimChars_trimChars]

end PigLatin.Text
