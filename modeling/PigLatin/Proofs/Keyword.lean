import Mathlib.Data.List.Forall2
import PigLatin.BinaryOperator
import PigLatin.DataType

/-!
# What spells a keyword

Operators and data types are read from their keywords, in either case and between blanks, and from
nothing else. Only the letters of ASCII have two cases, so that a text with any other character in
the place of a letter, or with white space between two of them, spells nothing.
-/

namespace PigLatin

namespace Text

open Unicode

/-! ## The case of letters -/

/-- The first character is a capital letter of ASCII, the second the same letter as a small one. -/
def IsCapitalOf (capital small : Char) : Prop :=
  capital.isUpper = true ∧ small.toNat = capital.toNat + 32

/-- The characters are the same, or one letter of ASCII in its two cases. -/
def SameUpToCase (c d : Char) : Prop := c = d ∨ IsCapitalOf c d ∨ IsCapitalOf d c

/-- The texts differ in nothing but the case of letters of ASCII. -/
def EqualUpToCase (s t : String) : Prop := List.Forall₂ SameUpToCase s.toList t.toList

theorem isUpper_iff_toNat {c : Char} : c.isUpper = true ↔ 65 ≤ c.toNat ∧ c.toNat ≤ 90 :=
  decide_eq_true_iff

theorem toNat_toLower (c : Char) :
    c.toLower.toNat = if 65 ≤ c.toNat ∧ c.toNat ≤ 90 then c.toNat + 32 else c.toNat := by
  have hupper : 'A'.val ≤ c.val ∧ c.val ≤ 'Z'.val ↔ 65 ≤ c.toNat ∧ c.toNat ≤ 90 := Iff.rfl
  show (dite ('A'.val ≤ c.val ∧ c.val ≤ 'Z'.val) _ _ : Char).toNat = _
  split
  · next h =>
    have hbounds := hupper.1 h
    have hsum : (c.val + ('a'.val - 'A'.val)).toNat = c.toNat + 32 := by
      rw [UInt32.toNat_add]
      exact Nat.mod_eq_of_lt (by show c.toNat + 32 < 2 ^ 32; omega)
    rw [if_pos hbounds]
    exact hsum
  · next h => rw [if_neg (mt hupper.2 h)]

/-- `Char.toLower` makes two characters the same exactly if they differ in nothing but case. -/
theorem toLower_eq_iff {c d : Char} : c.toLower = d.toLower ↔ SameUpToCase c d := by
  rw [← Char.toNat_inj, toNat_toLower, toNat_toLower, SameUpToCase, IsCapitalOf, IsCapitalOf,
    isUpper_iff_toNat, isUpper_iff_toNat, ← Char.toNat_inj]
  split <;> split <;> omega

/-- `lowerCase` makes two texts the same exactly if they differ in nothing but case. -/
theorem lowerCase_eq_iff {s t : String} : lowerCase s = lowerCase t ↔ EqualUpToCase s t := by
  have hsame : (fun c d : Char => c.toLower = d.toLower) = SameUpToCase := by
    funext c d
    exact propext toLower_eq_iff
  rw [← String.toList_inj, toList_lowerCase, toList_lowerCase, EqualUpToCase, ← hsame,
    ← List.forall₂_eq_eq_eq, List.forall₂_map_left_iff, List.forall₂_map_right_iff]

/-- `trim` leaves nothing of a text exactly if the text `isBlank`. -/
theorem lowerCase_trim_eq_empty_iff {s : String} :
    lowerCase (trim s) = "" ↔ isBlank s = true := by
  rw [isBlank_iff, ← String.toList_eq_nil_iff, toList_lowerCase, List.map_eq_nil_iff,
    String.toList_eq_nil_iff]

/-! ## Visible characters -/

/-- A character of ASCII that leaves a mark: neither a control character nor a blank. -/
def isVisible (c : Char) : Bool := 33 ≤ c.toNat && c.toNat ≤ 126

theorem isVisible_iff {c : Char} : isVisible c = true ↔ 33 ≤ c.toNat ∧ c.toNat ≤ 126 := by
  simp [isVisible]

theorem not_isWhiteSpace_of_isVisible {c : Char} (h : isVisible c = true) :
    isWhiteSpace c = false := by
  have hbounds := isVisible_iff.1 h
  have hnot : ¬isWhiteSpace c = true := by
    simp [isWhiteSpace, RangeTable.contains, whiteSpaceRanges]
    omega
  simpa using hnot

/-- The other case of a character that `isVisible` is visible as well. -/
theorem isVisible_of_sameUpToCase {c d : Char} (h : SameUpToCase c d) (hd : isVisible d = true) :
    isVisible c = true := by
  have hbounds := isVisible_iff.1 hd
  rcases h with rfl | ⟨hupper, hsmall⟩ | ⟨hupper, hsmall⟩
  · exact hd
  · have hcapital := isUpper_iff_toNat.1 hupper
    exact isVisible_iff.2 (by omega)
  · have hcapital := isUpper_iff_toNat.1 hupper
    exact isVisible_iff.2 (by omega)

theorem isVisible_of_equalUpToCase {s keyword : String} (h : EqualUpToCase s keyword)
    (hkeyword : keyword.toList.all isVisible = true) : s.toList.all isVisible = true := by
  refine List.all_eq_true.2 fun c hc => ?_
  -- The character stands, in one case or the other, in the keyword as well.
  have hlower : c.toLower ∈ (lowerCase keyword).toList := by
    rw [← lowerCase_eq_iff.2 h, toList_lowerCase]
    exact List.mem_map_of_mem hc
  rw [toList_lowerCase] at hlower
  obtain ⟨d, hd, hdc⟩ := List.mem_map.1 hlower
  exact isVisible_of_sameUpToCase (toLower_eq_iff.1 hdc.symm) (List.all_eq_true.1 hkeyword d hd)

/-! ## Reading keywords -/

/-- The text is read as the value whose keyword it is, up to case and the white space around it. No
text is the keyword of two values. Where it is the keyword of none, and in particular where there is
anything between the white space but visible characters of ASCII, it is refused. -/
structure IsReadByKeyword {α : Type} (keyword : α → String) (s : String)
    (result : Except BuildError α) (refusal : BuildError) : Prop where
  ok_iff : ∀ a, result = .ok a ↔ EqualUpToCase (trim s) (keyword a)
  error_iff : ∀ e, result = .error e ↔
    e = refusal ∧ ∀ a, ¬EqualUpToCase (trim s) (keyword a)
  unique : ∀ a b, EqualUpToCase (trim s) (keyword a) → EqualUpToCase (trim s) (keyword b) → a = b
  refused : ∀ c ∈ (trim s).toList, isWhiteSpace c = true ∨ 128 ≤ c.toNat →
    result = .error refusal

variable {α : Type} {keyword : α → String} {s : String} {result : Except BuildError α}
  {refusal : BuildError}

/-- A table that knows each `keyword` by its small letters and knows nothing else, asked for a text
after `trim` and `lowerCase`, reads by the keywords. -/
theorem isReadByKeyword_of_table {table : String → Option α}
    (htable : ∀ word a, table word = some a ↔ word = lowerCase (keyword a))
    (hvisible : ∀ a, (keyword a).toList.all isVisible = true)
    (hsome : ∀ a, table (lowerCase (trim s)) = some a → result = .ok a)
    (hnone : table (lowerCase (trim s)) = none → result = .error refusal) :
    IsReadByKeyword keyword s result refusal := by
  have hspelled : ∀ a, table (lowerCase (trim s)) = some a ↔ EqualUpToCase (trim s) (keyword a) :=
    fun a => (htable _ a).trans lowerCase_eq_iff
  have hunique : ∀ a b, EqualUpToCase (trim s) (keyword a) → EqualUpToCase (trim s) (keyword b) →
      a = b := by
    intro a b ha hb
    exact Option.some.inj (((hspelled a).2 ha).symm.trans ((hspelled b).2 hb))
  cases hfound : table (lowerCase (trim s)) with
  | some a =>
    have ha : EqualUpToCase (trim s) (keyword a) := (hspelled a).1 hfound
    obtain rfl := hsome a hfound
    refine ⟨fun b => ?_, fun e => ?_, hunique, fun c hc hforeign => ?_⟩
    · rw [Except.ok.injEq]
      exact ⟨fun hab => hab ▸ ha, fun hb => hunique a b ha hb⟩
    · exact iff_of_false (by simp) fun h => h.2 a ha
    · have hc := List.all_eq_true.1 (isVisible_of_equalUpToCase ha (hvisible a)) c hc
      rcases hforeign with hwhite | hlarge
      · rw [not_isWhiteSpace_of_isVisible hc] at hwhite
        cases hwhite
      · have hbounds := isVisible_iff.1 hc
        omega
  | none =>
    have hne : ∀ a, ¬EqualUpToCase (trim s) (keyword a) := by
      intro a ha
      rw [(hspelled a).2 ha] at hfound
      cases hfound
    obtain rfl := hnone hfound
    refine ⟨fun b => iff_of_false (by simp) (hne b), fun e => ?_, hunique, fun _ _ _ => rfl⟩
    rw [Except.error.injEq, eq_comm]
    exact (and_iff_left hne).symm

end Text

/-! ## Operators and data types -/

open Text

/-- `BinaryOperator.ofWord?` knows the symbols by their small letters, so that `parse` reads back
what `symbol` writes, in any case. -/
theorem BinaryOperator.isReadByKeyword_parse (s : String) :
    IsReadByKeyword BinaryOperator.symbol s (BinaryOperator.parse s)
      (if isBlank s then .empty .binaryOperator else .invalidOperator s) := by
  refine isReadByKeyword_of_table (fun _ _ => BinaryOperator.ofWord?_eq_some_iff)
    (fun op => by cases op <;> decide) ?_ ?_
  · intro op hfound
    simp only [BinaryOperator.parse, hfound]
  · intro hfound
    simp only [BinaryOperator.parse, hfound, lowerCase_trim_eq_empty_iff]

/-- No `DataType.keyword` has a capital letter, so that `parse` compares texts in small letters with
it as it is. -/
theorem DataType.isReadByKeyword_parse (s : String) :
    IsReadByKeyword DataType.keyword s (DataType.parse s) (.unknownType s) := by
  have htable : ∀ word t, (DataType.all.find? fun t => t.keyword = word) = some t ↔
      word = lowerCase t.keyword := by
    intro word t
    rw [t.lowerCase_keyword]
    exact DataType.find?_keyword_eq_some_iff
  refine isReadByKeyword_of_table htable (fun t => by cases t <;> decide) ?_ ?_
  · intro t hfound
    simp only [DataType.parse, hfound]
  · intro hfound
    simp only [DataType.parse, hfound]

theorem not_equalUpToCase_trim_of_isBlank {keyword s : String} (h : isBlank s = true)
    (hkeyword : keyword ≠ "") : ¬EqualUpToCase (trim s) keyword := by
  intro hequal
  rw [isBlank_iff.1 h] at hequal
  have hlength := List.Forall₂.length_eq hequal
  exact hkeyword (String.toList_eq_nil_iff.1 (List.eq_nil_of_length_eq_zero hlength.symm))

/-- `BinaryOperator.parse` reads a text as an operator exactly if it is the `symbol` of that
operator, up to the case of letters of ASCII and the white space around it; the text counts as
missing exactly if it `isBlank`, and is else refused as it is. `DataType.parse` reads a text as a
data type exactly if it is the `keyword` of that type in the same way, and else refuses it as it
is. -/
theorem parse_iff_equalUpToCase (s : String) :
    IsReadByKeyword BinaryOperator.symbol s (BinaryOperator.parse s)
        (if isBlank s then .empty .binaryOperator else .invalidOperator s) ∧
      (BinaryOperator.parse s = .error (.empty .binaryOperator) ↔ isBlank s = true) ∧
      IsReadByKeyword DataType.keyword s (DataType.parse s) (.unknownType s) ∧
      (isBlank s = true → DataType.parse s = .error (.unknownType s)) := by
  have hop := BinaryOperator.isReadByKeyword_parse s
  have htype := DataType.isReadByKeyword_parse s
  refine ⟨hop, ?_, htype, fun hblank => (htype.error_iff _).2 ⟨rfl, fun t => ?_⟩⟩
  · rw [hop.error_iff]
    cases hblank : isBlank s with
    | true =>
      refine iff_of_true ⟨rfl, fun op => ?_⟩ rfl
      exact not_equalUpToCase_trim_of_isBlank hblank (by cases op <;> decide)
    | false => exact iff_of_false (fun h => absurd h.1 (by simp)) (by simp)
  · exact not_equalUpToCase_trim_of_isBlank hblank (by cases t <;> decide)

/-- The operator `matches` in mixed case between an ideographic and a no-break space; the type
`int` with a small dotless i in the place of its first letter; the type `bag` with a space in it. -/
theorem parse_matches_mixedCase :
    BinaryOperator.parse "\u3000MatCHes\u00a0" = .ok .patternMatch ∧
      DataType.parse "ınt" = .error (.unknownType "ınt") ∧
      DataType.parse "b ag" = .error (.unknownType "b ag") := by
  have hcase : EqualUpToCase (trim "\u3000MatCHes\u00a0") BinaryOperator.patternMatch.symbol :=
    lowerCase_eq_iff.1 (by decide)
  refine ⟨((parse_iff_equalUpToCase _).1.ok_iff _).2 hcase, ?_, ?_⟩
  · exact (parse_iff_equalUpToCase _).2.2.1.refused 'ı' (by decide) (.inr (by decide))
  · exact (parse_iff_equalUpToCase _).2.2.1.refused ' ' (by decide) (.inl (by decide))

end PigLatin
