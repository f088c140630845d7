import PigLatin.Proofs.Keyword
import PigLatin.Proofs.Name

/-!
# Names piece by piece

A name that may have several words is cut at its separators, and each of the pieces is looked at by
itself: the name of a field is accepted exactly if its pieces are accepted as aliases. All three
kinds of names are kept as they are given, and white space is in none of them.
-/

namespace PigLatin

namespace Text

/-! ## Cutting at a separator -/

/-- The pieces of the rest of a text, of which the first characters may still belong to a separator
that was found before. -/
def splitFrom (separator : List Char) : Nat → List Char → List (List Char)
  | _, [] => [[]]
  | remaining + 1, _ :: cs => splitFrom separator remaining cs
  | 0, c :: cs =>
    if separator <+: c :: cs then [] :: splitFrom separator (separator.length - 1) cs
    else (splitFrom separator 0 cs).modifyHead (c :: ·)

/-- The pieces of a text between the separators in it, which are looked for from left to right. -/
def split (separator s : String) : List String :=
  (splitFrom separator.toList 0 s.toList).map String.ofList

variable {s : Char} {awaited separator cs rest word : List Char}

theorem splitFrom_eq_drop (separator : List Char) (remaining : Nat) (cs : List Char) :
    splitFrom separator remaining cs = splitFrom separator 0 (cs.drop remaining) := by
  induction cs generalizing remaining with
  | nil => cases remaining <;> rfl
  | cons c cs ih =>
    cases remaining with
    | zero => rfl
    | succ remaining => exact ih remaining

/-- `splitFrom` ends a piece without any characters at a separator at the front. -/
theorem splitFrom_separator (s : Char) (awaited rest : List Char) :
    splitFrom (s :: awaited) 0 (s :: awaited ++ rest) =
      [] :: splitFrom (s :: awaited) 0 rest := by
  have hprefix : s :: awaited <+: s :: (awaited ++ rest) := List.prefix_append (s :: awaited) rest
  rw [List.cons_append, splitFrom, if_pos hprefix, splitFrom_eq_drop]
  simp

theorem splitFrom_cons {c : Char} (h : ¬separator <+: c :: cs) :
    splitFrom separator 0 (c :: cs) = (splitFrom separator 0 cs).modifyHead (c :: ·) := by
  rw [splitFrom, if_neg h]

theorem intercalate_modifyHead (separator : List Char) (c : Char) {pieces : List (List Char)}
    (hne : pieces ≠ []) :
    separator.intercalate (pieces.modifyHead (c :: ·)) = c :: separator.intercalate pieces := by
  match pieces, hne with
  | [piece], _ => rfl
  | piece :: second :: others, _ =>
    rw [List.modifyHead_cons, List.intercalate_cons_cons, List.intercalate_cons_cons]
    rfl

/-- `splitFrom` finds a piece in every text, and the pieces joined by the separator are the text. -/
theorem intercalate_splitFrom (s : Char) (awaited cs : List Char) :
    splitFrom (s :: awaited) 0 cs ≠ [] ∧
      (s :: awaited).intercalate (splitFrom (s :: awaited) 0 cs) = cs := by
  induction hlength : cs.length using Nat.strongRecOn generalizing cs with
  | ind n ih =>
    cases cs with
    | nil => exact ⟨by simp [splitFrom], rfl⟩
    | cons c cs =>
      by_cases hprefix : s :: awaited <+: c :: cs
      · obtain ⟨rest, hrest⟩ := hprefix
        rw [← hrest, splitFrom_separator]
        have hshorter : rest.length < n := by
          have hsum := congrArg List.length hrest
          simp only [List.length_append, List.length_cons] at hsum hlength
          omega
        obtain ⟨hne, hjoined⟩ := ih _ hshorter rest rfl
        refine ⟨by simp, ?_⟩
        rw [List.intercalate_cons_of_ne_nil hne, hjoined]
        simp
      · rw [splitFrom_cons hprefix]
        have hshorter : cs.length < n := by
          simp only [List.length_cons] at hlength
          omega
        obtain ⟨hne, hjoined⟩ := ih _ hshorter cs rfl
        refine ⟨by simpa using hne, ?_⟩
        rw [intercalate_modifyHead _ _ hne, hjoined]

/-- A piece goes on as long as no separator can start. -/
theorem splitFrom_append (h : s ∉ word) (rest : List Char) :
    splitFrom (s :: awaited) 0 (word ++ rest) =
      (splitFrom (s :: awaited) 0 rest).modifyHead (word ++ ·) := by
  induction word with
  | nil => exact (congrFun List.modifyHead_id _).symm
  | cons c word ih =>
    obtain ⟨hc, hword⟩ := not_or.1 (mt List.mem_cons.2 h)
    have hprefix : ¬s :: awaited <+: c :: (word ++ rest) := by
      rintro ⟨tail, htail⟩
      exact hc (List.cons.inj htail).1
    rw [List.cons_append, splitFrom_cons hprefix, ih hword, List.modifyHead_modifyHead]
    rfl

/-- Pieces that a separator cannot start in are found again when they were joined. -/
theorem splitFrom_intercalate {pieces : List (List Char)} (hne : pieces ≠ [])
    (h : ∀ piece ∈ pieces, s ∉ piece) :
    splitFrom (s :: awaited) 0 ((s :: awaited).intercalate pieces) = pieces := by
  induction pieces with
  | nil => exact absurd rfl hne
  | cons piece pieces ih =>
    obtain ⟨hpiece, hothers⟩ := List.forall_mem_cons.1 h
    cases pieces with
    | nil =>
      have hend := @splitFrom_append s awaited piece hpiece []
      simpa [splitFrom] using hend
    | cons second others =>
      rw [List.intercalate_cons_cons, List.append_assoc, splitFrom_append hpiece,
        splitFrom_separator, ih (by simp) hothers]
      simp

end Text

/-! ## Names and their pieces -/

namespace NameForm

variable {form : NameForm} {cs : List Char}

theorem Word.notMem {s : Char} (h : form.Word cs) (hstarts : form.starts s = false)
    (hcontinues : form.continues s = false) : s ∉ cs := by
  obtain ⟨first, rest, rfl, hfirst, hrest⟩ := h
  intro hmem
  rcases List.mem_cons.1 hmem with rfl | hmem
  · rw [hfirst] at hstarts
    cases hstarts
  · rw [hrest s hmem] at hcontinues
    cases hcontinues

/-- `accepts` takes a name exactly if `Text.splitFrom` cuts it into words. -/
theorem accepts_iff_forall_piece {s : Char} {awaited : List Char}
    (hseparator : form.separator = s :: awaited) (hstarts : form.starts s = false)
    (hcontinues : form.continues s = false) :
    form.accepts cs = true ↔ ∀ piece ∈ Text.splitFrom form.separator 0 cs, form.Word piece := by
  rw [accepts_iff_words hseparator hcontinues, hseparator]
  constructor
  · rintro ⟨words, hne, hwords, rfl⟩
    rwa [Text.splitFrom_intercalate hne fun word hword =>
      (hwords word hword).notMem hstarts hcontinues]
  · intro hwords
    obtain ⟨hne, hjoined⟩ := Text.intercalate_splitFrom s awaited cs
    exact ⟨_, hne, hwords, hjoined.symm⟩

/-- Where there is no separator, a name is a single word. -/
theorem accepts_iff_word (hseparator : form.separator = []) :
    form.accepts cs = true ↔ form.Word cs := by
  constructor
  · intro h
    obtain ⟨first, rest, rfl, hfirst⟩ := exists_starts_of_accepts h
    have hscan : form.scan .inWord rest = true := by simpa [accepts, scan, hfirst] using h
    obtain ⟨tail, after, rfl, htail, hafter⟩ := exists_word_end_of_scan hscan
    rcases hafter with rfl | ⟨name, -, hne, -⟩
    · exact ⟨first, tail, by simp, hfirst, htail⟩
    · exact absurd hseparator hne
  · intro h
    have hend := accepts_word_append h []
    simpa [scan] using hend

end NameForm

/-! ## Plain words -/

/-- One or more letters, digits and underscores of ASCII, of which the first is as it has to be. -/
def IsPlainWord (first : Char → Bool) (s : String) : Prop :=
  s ≠ "" ∧ s.toList.all isWordChar = true ∧ s.toList.head?.all first = true

instance (first : Char → Bool) (s : String) : Decidable (IsPlainWord first s) :=
  inferInstanceAs (Decidable (_ ∧ _ ∧ _))

theorem NameForm.word_iff_isPlainWord {form : NameForm} {first : Char → Bool} {s : String}
    (hcontinues : form.continues = isWordChar)
    (hstarts : ∀ c, form.starts c = true ↔ isWordChar c = true ∧ first c = true) :
    form.Word s.toList ↔ IsPlainWord first s := by
  rw [IsPlainWord, ne_eq, ← String.toList_eq_nil_iff]
  cases hs : s.toList with
  | nil => simp [NameForm.Word]
  | cons c cs =>
    simp only [NameForm.Word, hcontinues, hstarts, List.cons.injEq, List.all_cons,
      Bool.and_eq_true, List.all_eq_true, List.head?_cons, Option.all_some]
    constructor
    · rintro ⟨_, _, ⟨rfl, rfl⟩, ⟨hword, hfirst⟩, hothers⟩
      exact ⟨by simp, ⟨hword, hothers⟩, hfirst⟩
    · rintro ⟨-, ⟨hword, hothers⟩, hfirst⟩
      exact ⟨c, cs, ⟨rfl, rfl⟩, ⟨hword, hfirst⟩, hothers⟩

theorem isAlpha_iff_isWordChar {c : Char} :
    c.isAlpha = true ↔ isWordChar c = true ∧ c.isAlpha = true :=
  (and_iff_right_of_imp isWordChar_of_isAlpha).symm

/-- In `functionForm` a name starts as its words go on, but not with a digit. -/
theorem starts_functionForm_iff {c : Char} :
    functionForm.starts c = true ↔ isWordChar c = true ∧ (!c.isDigit) = true := by
  constructor
  · intro h
    refine ⟨?_, by rw [not_isDigit_of_starts h]; rfl⟩
    rcases Bool.or_eq_true_iff.1 h with halpha | hunderscore
    · exact isWordChar_of_isAlpha halpha
    · exact Bool.or_eq_true_iff.2 (.inr hunderscore)
  · rintro ⟨hword, hdigit⟩
    rcases Bool.or_eq_true_iff.1 hword with halphanum | hunderscore
    · rcases Bool.or_eq_true_iff.1 halphanum with halpha | hdigit'
      · exact Bool.or_eq_true_iff.2 (.inl halpha)
      · rw [hdigit'] at hdigit
        cases hdigit
    · exact Bool.or_eq_true_iff.2 (.inr hunderscore)

/-! ## White space -/

theorem isVisible_of_isWordChar {c : Char} (h : isWordChar c = true) :
    Text.isVisible c = true := by
  rw [Text.isVisible_iff]
  cases hdigit : c.isDigit with
  | true =>
    have hbounds := Char.isDigit_iff_toNat.1 hdigit
    have hzero : '0'.toNat = 48 := rfl
    have hnine : '9'.toNat = 57 := rfl
    omega
  | false =>
    have hbounds := toNat_of_starts (starts_functionForm_iff.2 ⟨h, by rw [hdigit]; rfl⟩)
    omega

/-- Words of plain characters hold no white space, and neither does what joins them. -/
theorem NameForm.not_isWhiteSpace_of_accepts {form : NameForm} {cs : List Char}
    (h : form.accepts cs = true) (hstarts : ∀ c, form.starts c = true → isWordChar c = true)
    (hcontinues : form.continues = isWordChar)
    (hseparator : form.separator.all Text.isVisible = true) :
    ∀ c ∈ cs, Unicode.isWhiteSpace c = false := by
  intro c hc
  refine Text.not_isWhiteSpace_of_isVisible (form.forall_of_scan (fun c hc => ?_) (fun c hc => ?_)
    (List.all_eq_true.1 hseparator) h ?_ c hc)
  · exact isVisible_of_isWordChar (hstarts c hc)
  · exact isVisible_of_isWordChar (hcontinues ▸ hc)
  · rintro _ ⟨⟩ c hc
    exact absurd hc List.not_mem_nil

/-- Decimal digits of any script are no white space. -/
theorem not_isWhiteSpace_of_isDecimalDigit {c : Char} (h : Unicode.isDecimalDigit c = true) :
    Unicode.isWhiteSpace c = false := by
  -- The ranges of the two tables are apart.
  have hapart : (Unicode.decimalDigitRanges.all fun range =>
      Unicode.whiteSpaceRanges.all fun range' =>
        range.2 < range'.1 || range'.2 < range.1) = true := by decide
  rw [← Bool.not_eq_true]
  intro hwhite
  obtain ⟨range, hrange, hlow, hhigh⟩ := Unicode.RangeTable.contains_iff.1 h
  obtain ⟨range', hrange', hlow', hhigh'⟩ := Unicode.RangeTable.contains_iff.1 hwhite
  have h := List.all_eq_true.1 (List.all_eq_true.1 hapart range hrange) range' hrange'
  simp only [Bool.or_eq_true, decide_eq_true_eq] at h
  omega

theorem Alias.not_isWhiteSpace (name : Alias) :
    ∀ c ∈ name.text.toList, Unicode.isWhiteSpace c = false :=
  NameForm.not_isWhiteSpace_of_accepts name.valid (fun _ => isWordChar_of_isAlpha) rfl rfl

theorem FunctionName.not_isWhiteSpace (name : FunctionName) :
    ∀ c ∈ name.text.toList, Unicode.isWhiteSpace c = false :=
  NameForm.not_isWhiteSpace_of_accepts name.valid (fun _ h => (starts_functionForm_iff.1 h).1) rfl
    (by decide)

theorem FieldName.not_isWhiteSpace (name : FieldName) :
    ∀ c ∈ name.text.toList, Unicode.isWhiteSpace c = false := by
  rcases Bool.or_eq_true_iff.1 name.valid with hposition | haccepted
  · obtain ⟨digits, heq, -, hdigits⟩ := isPosition_iff.1 hposition
    rw [heq]
    exact List.forall_mem_cons.2
      ⟨by decide, fun c hc => not_isWhiteSpace_of_isDecimalDigit (hdigits c hc)⟩
  · exact NameForm.not_isWhiteSpace_of_accepts haccepted (fun _ => isWordChar_of_isAlpha) rfl
      (by decide)

/-! ## Reading names -/

/-- A text is kept as it is where it is read as a name. No text with white space in it is, so that
none is read without the white space around it. A text that is not read either counts as missing or
is refused as it is. -/
structure IsReadVerbatim {α : Type} (text : α → String) (s : String)
    (result : Except BuildError α) (part : Part) (isMissing : Prop) (invalid : BuildError) :
    Prop where
  kept : ∀ name, result = .ok name → text name = s
  refused : ∀ c ∈ s.toList, Unicode.isWhiteSpace c = true → ∃ e, result = .error e
  missing_iff : result = .error (.empty part) ↔ isMissing
  invalid_of_error : ∀ e, result = .error e → ¬isMissing → e = invalid

/-- A name is read verbatim by two checks: whether it is missing, and whether it has a form without
white space. -/
theorem isReadVerbatim_of_checks {α : Type} {text : α → String} {s : String} {part : Part}
    {isMissing isValid : Prop} [Decidable isMissing] [Decidable isValid] {name : isValid → α}
    {invalid : BuildError}
    (hspace : ∀ name, ∀ c ∈ (text name).toList, Unicode.isWhiteSpace c = false)
    (hinvalid : invalid ≠ .empty part) (hname : ∀ h, text (name h) = s) :
    IsReadVerbatim text s
      (if isMissing then .error (.empty part)
        else if h : isValid then .ok (name h) else .error invalid)
      part isMissing invalid := by
  split
  · next hmissing =>
    exact ⟨by simp, fun _ _ _ => ⟨_, rfl⟩, iff_of_true rfl hmissing,
      fun _ _ hpresent => absurd hmissing hpresent⟩
  · next hpresent =>
    split
    · next hvalid =>
      refine ⟨?_, fun c hc hwhite => ?_, iff_of_false (by simp) hpresent, by simp⟩
      · rintro _ ⟨⟩
        exact hname hvalid
      · rw [← hname hvalid] at hc
        rw [hspace (name hvalid) c hc] at hwhite
        cases hwhite
    · refine ⟨by simp, fun _ _ _ => ⟨_, rfl⟩, iff_of_false (by simpa using hinvalid) hpresent, ?_⟩
      rintro _ ⟨⟩ -
      rfl

theorem Alias.isReadVerbatim_parse (s : String) :
    IsReadVerbatim Alias.text s (Alias.parse s) .relationAlias (s = "") (.invalidAlias s) :=
  isReadVerbatim_of_checks Alias.not_isWhiteSpace (by simp) fun _ => rfl

theorem FieldName.isReadVerbatim_parse (s : String) :
    IsReadVerbatim FieldName.text s (FieldName.parse s) .fieldName (s = "")
      (.invalidFieldName s) :=
  isReadVerbatim_of_checks FieldName.not_isWhiteSpace (by simp) fun _ => rfl

theorem FunctionName.isReadVerbatim_parse (s : String) :
    IsReadVerbatim FunctionName.text s (FunctionName.parse s) .functionName
      (Text.isBlank s = true) (.invalidFunctionName s) :=
  isReadVerbatim_of_checks FunctionName.not_isWhiteSpace (by simp) fun _ => rfl

/-! ## What is read -/

theorem Alias.exists_parse_iff_accepts {s : String} :
    (∃ name, Alias.parse s = .ok name) ↔ aliasForm.accepts s.toList = true := by
  constructor
  · rintro ⟨name, hname⟩
    rw [← Alias.parse_eq_ok_iff.1 hname]
    exact name.valid
  · intro h
    exact ⟨⟨s, h⟩, Alias.parse_eq_ok_iff.2 rfl⟩

theorem FunctionName.exists_parse_iff_accepts {s : String} :
    (∃ name, FunctionName.parse s = .ok name) ↔ functionForm.accepts s.toList = true := by
  constructor
  · rintro ⟨name, hname⟩
    rw [← FunctionName.parse_eq_ok_iff.1 hname]
    exact name.valid
  · intro h
    exact ⟨⟨s, h⟩, FunctionName.parse_eq_ok_iff.2 rfl⟩

theorem Alias.exists_parse_iff {s : String} :
    (∃ name, Alias.parse s = .ok name) ↔ IsPlainWord Char.isAlpha s := by
  have hword : aliasForm.Word s.toList ↔ IsPlainWord Char.isAlpha s :=
    NameForm.word_iff_isPlainWord rfl fun _ => isAlpha_iff_isWordChar
  rw [Alias.exists_parse_iff_accepts, NameForm.accepts_iff_word rfl, hword]

/-- Where a text is no position, the pieces that `Text.split` finds between two colons decide
whether it names a field. -/
theorem FieldName.exists_parse_iff_forall_piece {s : String} (h : s.toList.head? ≠ some '$') :
    (∃ name, FieldName.parse s = .ok name) ↔
      ∀ piece ∈ Text.split "::" s, IsPlainWord Char.isAlpha piece := by
  have hposition : ¬isPosition s.toList = true := by
    intro hposition
    obtain ⟨digits, heq, -⟩ := isPosition_iff.1 hposition
    rw [heq] at h
    exact h rfl
  have hword : ∀ cs, fieldForm.Word cs ↔ IsPlainWord Char.isAlpha (String.ofList cs) := by
    intro cs
    have h := @NameForm.word_iff_isPlainWord fieldForm Char.isAlpha (String.ofList cs) rfl
      fun _ => isAlpha_iff_isWordChar
    rwa [String.toList_ofList] at h
  have haccepts := @NameForm.accepts_iff_forall_piece fieldForm s.toList ':' [':'] rfl rfl rfl
  rw [FieldName.exists_parse_iff, or_iff_right hposition, haccepts]
  simp only [hword, Text.split, List.forall_mem_map]
  rfl

/-- The pieces that `Text.split` finds between points decide whether a text names a function. -/
theorem FunctionName.exists_parse_iff_forall_piece {s : String} :
    (∃ name, FunctionName.parse s = .ok name) ↔
      ∀ piece ∈ Text.split "." s, IsPlainWord (fun c => !c.isDigit) piece := by
  have hword : ∀ cs, functionForm.Word cs ↔
      IsPlainWord (fun c => !c.isDigit) (String.ofList cs) := by
    intro cs
    have h := @NameForm.word_iff_isPlainWord functionForm (fun c => !c.isDigit) (String.ofList cs)
      rfl fun _ => starts_functionForm_iff
    rwa [String.toList_ofList] at h
  have haccepts := @NameForm.accepts_iff_forall_piece functionForm s.toList '.' [] rfl rfl rfl
  rw [FunctionName.exists_parse_iff_accepts, haccepts]
  simp only [hword, Text.split, List.forall_mem_map]
  rfl

/-- A text that does not start with a dollar sign names a field exactly if its pieces between two
colons are aliases. An alias is one or more letters, digits and underscores of ASCII that start with
a letter. A text names a function exactly if its pieces between points are one or more such
characters each that do not start with a digit. Names are kept as they are given, and any white
space makes a text none. Of the texts that are no names, the empty one counts as a missing alias or
field, a blank one as a missing function, and all others are refused as they are. -/
theorem exists_parse_iff_pieces (s : String) :
    (s.toList.head? ≠ some '$' →
        ((∃ name, FieldName.parse s = .ok name) ↔
          ∀ piece ∈ Text.split "::" s, ∃ name, Alias.parse piece = .ok name)) ∧
      ((∃ name, Alias.parse s = .ok name) ↔ IsPlainWord Char.isAlpha s) ∧
      ((∃ name, FunctionName.parse s = .ok name) ↔
        ∀ piece ∈ Text.split "." s, IsPlainWord (fun c => !c.isDigit) piece) ∧
      IsReadVerbatim FieldName.text s (FieldName.parse s) .fieldName (s = "")
        (.invalidFieldName s) ∧
      IsReadVerbatim Alias.text s (Alias.parse s) .relationAlias (s = "") (.invalidAlias s) ∧
      IsReadVerbatim FunctionName.text s (FunctionName.parse s) .functionName
        (Text.isBlank s = true) (.invalidFunctionName s) := by
  refine ⟨fun h => ?_, Alias.exists_parse_iff, FunctionName.exists_parse_iff_forall_piece,
    FieldName.isReadVerbatim_parse s, Alias.isReadVerbatim_parse s,
    FunctionName.isReadVerbatim_parse s⟩
  simp only [Alias.exists_parse_iff]
  exact FieldName.exists_parse_iff_forall_piece h

/-- Of three colons the third is left to the next piece, which makes it no alias and the whole no
name of a field. An underscore may start the name of a function, and a line feed ends no alias. -/
theorem exists_parse_three_colons :
    "r:::f".toList.head? ≠ some '$' ∧ Text.split "::" "r:::f" = ["r", ":f"] ∧
      FieldName.parse "r:::f" = .error (.invalidFieldName "r:::f") ∧
      (∃ name, FunctionName.parse "_p.F" = .ok name) ∧
      ∃ e, Alias.parse "r\n" = .error e := by
  have hstart : "r:::f".toList.head? ≠ some '$' := by decide
  have hpieces : Text.split "::" "r:::f" = ["r", ":f"] := by decide
  obtain ⟨hfield, -, -, hverbatim, -⟩ := exists_parse_iff_pieces "r:::f"
  refine ⟨hstart, hpieces, ?_, ?_, ?_⟩
  · cases hparse : FieldName.parse "r:::f" with
    | ok name =>
      -- The second piece would have to be an alias.
      have hall := (hfield hstart).1 ⟨name, hparse⟩
      rw [hpieces] at hall
      have hword := (exists_parse_iff_pieces ":f").2.1.1 (hall ":f" (by simp))
      exact absurd hword (by decide)
    | error e => exact congrArg _ (hverbatim.invalid_of_error e hparse (by decide))
  · exact (exists_parse_iff_pieces "_p.F").2.2.1.2 (by decide)
  · obtain ⟨-, -, -, -, halias, -⟩ := exists_parse_iff_pieces "r\n"
    exact halias.refused '\n' (by decide) (by decide)

end PigLatin
