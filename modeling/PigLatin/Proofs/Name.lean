import Mathlib.Data.List.Induction
import PigLatin.Proofs.Parse

/-!
# Names and their words

A scan accepts exactly the names of its form: words, each of which starts and goes on as the form
says, joined by the separator. The names of fields are words of ASCII letters, digits and
underscores, joined by two colons. A position is accepted with the decimal digits of any script.
-/

namespace PigLatin

namespace NameForm

variable {form : NameForm} {position : Position} {cs : List Char}

/-- A single word of the form. -/
def Word (form : NameForm) (cs : List Char) : Prop :=
  ∃ first rest, cs = first :: rest ∧ form.starts first = true ∧
    ∀ c ∈ rest, form.continues c = true

/-! ## Scanning joined texts -/

/-- Where a name may end, `scan` goes on within its last word. -/
theorem scan_append (h : form.scan position cs = true) (rest : List Char) :
    form.scan position (cs ++ rest) = form.scan .inWord rest := by
  induction cs generalizing position with
  | nil =>
    cases position with
    | inWord => rfl
    | beforeWord awaited => simp [scan] at h
  | cons c cs ih =>
    cases position with
    | inWord =>
      simp only [scan, List.cons_append] at h ⊢
      split at h
      · next hc => rw [if_pos hc, ih h]
      · next hc =>
        rw [if_neg hc]
        split at h
        · cases h
        · next s awaited hseparator =>
          obtain ⟨hs, hscan⟩ := Bool.and_eq_true_iff.1 h
          rw [hs, Bool.true_and, ih hscan]
    | beforeWord awaited =>
      cases awaited with
      | nil =>
        obtain ⟨hstarts, hscan⟩ := Bool.and_eq_true_iff.1 (by simpa only [scan] using h)
        rw [List.cons_append, scan, hstarts, Bool.true_and, ih hscan]
      | cons s awaited =>
        obtain ⟨hs, hscan⟩ := Bool.and_eq_true_iff.1 (by simpa only [scan] using h)
        rw [List.cons_append, scan, hs, Bool.true_and, ih hscan]

theorem accepts_append (h : form.accepts cs = true) (rest : List Char) :
    form.accepts (cs ++ rest) = form.scan .inWord rest :=
  scan_append h rest

theorem scan_inWord_append (h : ∀ c ∈ cs, form.continues c = true) (rest : List Char) :
    form.scan .inWord (cs ++ rest) = form.scan .inWord rest := by
  induction cs with
  | nil => rfl
  | cons c cs ih =>
    obtain ⟨hc, hcs⟩ := List.forall_mem_cons.1 h
    rw [List.cons_append, scan, if_pos hc, ih hcs]

theorem accepts_word_append (h : form.Word cs) (rest : List Char) :
    form.accepts (cs ++ rest) = form.scan .inWord rest := by
  obtain ⟨first, tail, rfl, hstarts, hcontinues⟩ := h
  rw [accepts, List.cons_append, scan, hstarts, Bool.true_and, scan_inWord_append hcontinues]

theorem scan_awaited_append (awaited later rest : List Char) :
    form.scan (.beforeWord (awaited ++ later)) (awaited ++ rest) =
      form.scan (.beforeWord later) rest := by
  induction awaited with
  | nil => rfl
  | cons s awaited ih =>
    rw [List.cons_append, List.cons_append, scan, beq_self_eq_true, Bool.true_and, ih]

/-- `scan` ends a word where the separator starts. -/
theorem scan_separator_append {s : Char} {awaited : List Char}
    (hseparator : form.separator = s :: awaited) (hs : form.continues s = false)
    (rest : List Char) : form.scan .inWord (form.separator ++ rest) = form.accepts rest := by
  have hawaited := @scan_awaited_append form awaited [] rest
  rw [List.append_nil] at hawaited
  rw [hseparator, List.cons_append, scan, if_neg (by simp [hs])]
  simp [hseparator, hawaited, accepts]

/-- A name does not end in a separator. -/
theorem last_of_scan (h : form.scan position cs = true) :
    ∀ c ∈ cs.getLast?, form.starts c = true ∨ form.continues c = true := by
  induction cs generalizing position with
  | nil => nofun
  | cons first rest ih =>
    -- The scan stands within a word after the last character, so it was one of a word.
    suffices hnext : ∃ next, form.scan next rest = true ∧
        (rest = [] → form.starts first = true ∨ form.continues first = true) by
      obtain ⟨next, hscan, hlast⟩ := hnext
      cases rest with
      | nil =>
        rintro c ⟨⟩
        exact hlast rfl
      | cons second rest =>
        rw [List.getLast?_cons_cons]
        exact ih hscan
    have hbefore : ∀ awaited, form.scan (.beforeWord awaited) rest = true → rest ≠ [] := by
      rintro awaited hscan rfl
      simp [scan] at hscan
    cases position with
    | inWord =>
      simp only [scan] at h
      split at h
      · next hc => exact ⟨.inWord, h, fun _ => .inr hc⟩
      · split at h
        · cases h
        · next s awaited _ =>
          have hscan := (Bool.and_eq_true_iff.1 h).2
          exact ⟨.beforeWord awaited, hscan, fun hrest => absurd hrest (hbefore awaited hscan)⟩
    | beforeWord awaited =>
      cases awaited with
      | nil =>
        obtain ⟨hstarts, hscan⟩ := Bool.and_eq_true_iff.1 (by simpa only [scan] using h)
        exact ⟨.inWord, hscan, fun _ => .inl hstarts⟩
      | cons s awaited =>
        have hscan := (Bool.and_eq_true_iff.1 (by simpa only [scan] using h)).2
        exact ⟨.beforeWord awaited, hscan, fun hrest => absurd hrest (hbefore awaited hscan)⟩

/-! ## The words of a name -/

theorem exists_accepts_of_beforeWord {awaited : List Char}
    (h : form.scan (.beforeWord awaited) cs = true) :
    ∃ rest, cs = awaited ++ rest ∧ form.accepts rest = true := by
  induction awaited generalizing cs with
  | nil => exact ⟨cs, rfl, h⟩
  | cons s awaited ih =>
    cases cs with
    | nil => simp [scan] at h
    | cons c cs =>
      obtain ⟨hs, hscan⟩ := Bool.and_eq_true_iff.1 (by simpa only [scan] using h)
      obtain ⟨rest, rfl, hrest⟩ := ih hscan
      exact ⟨rest, by rw [eq_of_beq hs]; rfl, hrest⟩

/-- What `scan` accepts within a word is the rest of the word, and after a separator another
name. -/
theorem exists_word_end_of_scan (h : form.scan .inWord cs = true) :
    ∃ tail rest, cs = tail ++ rest ∧ (∀ c ∈ tail, form.continues c = true) ∧
      (rest = [] ∨ ∃ name, rest = form.separator ++ name ∧ form.separator ≠ [] ∧
        form.accepts name = true) := by
  induction cs with
  | nil => exact ⟨[], [], rfl, by simp, .inl rfl⟩
  | cons c cs ih =>
    simp only [scan] at h
    split at h
    · next hc =>
      obtain ⟨tail, rest, rfl, htail, hrest⟩ := ih h
      exact ⟨c :: tail, rest, rfl, List.forall_mem_cons.2 ⟨hc, htail⟩, hrest⟩
    · split at h
      · cases h
      · next s awaited hseparator =>
        obtain ⟨hs, hscan⟩ := Bool.and_eq_true_iff.1 h
        obtain ⟨name, rfl, hname⟩ := exists_accepts_of_beforeWord hscan
        refine ⟨[], c :: (awaited ++ name), rfl, by simp, .inr ⟨name, ?_, ?_, hname⟩⟩
        · rw [eq_of_beq hs, hseparator, List.cons_append]
        · simp [hseparator]

theorem exists_words_of_accepts (h : form.accepts cs = true) :
    ∃ words, words ≠ [] ∧ (∀ word ∈ words, form.Word word) ∧
      cs = form.separator.intercalate words := by
  induction hlength : cs.length using Nat.strongRecOn generalizing cs with
  | ind n ih =>
    obtain ⟨first, cs, rfl, hstarts⟩ := exists_starts_of_accepts h
    have hscan : form.scan .inWord cs = true := by
      simpa [accepts, scan, hstarts] using h
    obtain ⟨tail, rest, rfl, htail, hrest⟩ := exists_word_end_of_scan hscan
    have hword : form.Word (first :: tail) := ⟨first, tail, rfl, hstarts, htail⟩
    rcases hrest with rfl | ⟨name, rfl, -, hname⟩
    · exact ⟨[first :: tail], by simp, by simpa using hword, by simp⟩
    · have hshorter : name.length < n := by
        simp only [List.length_cons, List.length_append] at hlength
        omega
      obtain ⟨words, hne, hwords, rfl⟩ := ih _ hshorter hname rfl
      obtain ⟨second, others, rfl⟩ := List.exists_cons_of_ne_nil hne
      refine ⟨(first :: tail) :: second :: others, by simp,
        List.forall_mem_cons.2 ⟨hword, hwords⟩, ?_⟩
      rw [List.intercalate_cons_cons]
      simp

theorem accepts_intercalate {s : Char} {awaited : List Char}
    (hseparator : form.separator = s :: awaited) (hs : form.continues s = false)
    {words : List (List Char)} (hne : words ≠ []) (hwords : ∀ word ∈ words, form.Word word) :
    form.accepts (form.separator.intercalate words) = true := by
  induction words with
  | nil => exact absurd rfl hne
  | cons word words ih =>
    obtain ⟨hword, hothers⟩ := List.forall_mem_cons.1 hwords
    cases words with
    | nil =>
      have hend := accepts_word_append hword []
      simpa [scan] using hend
    | cons second others =>
      rw [List.intercalate_cons_cons, List.append_assoc, accepts_word_append hword,
        scan_separator_append hseparator hs]
      exact ih (by simp) hothers

/-- A name with a separator is accepted exactly if it is one or more words joined by it. -/
theorem accepts_iff_words {s : Char} {awaited : List Char}
    (hseparator : form.separator = s :: awaited) (hs : form.continues s = false) :
    form.accepts cs = true ↔ ∃ words, words ≠ [] ∧ (∀ word ∈ words, form.Word word) ∧
      cs = form.separator.intercalate words := by
  constructor
  · exact exists_words_of_accepts
  · rintro ⟨words, hne, hwords, rfl⟩
    exact accepts_intercalate hseparator hs hne hwords

/-! ## Names in two parts -/

/-- A name that `accepts` takes may be cut anywhere behind its first character: within a word or at
its end, or within a separator or at its end. -/
theorem accepts_append_iff {s : Char} {awaited : List Char}
    (hseparator : form.separator = s :: awaited) (hs : form.continues s = false)
    {front back : List Char} (hne : front ≠ []) :
    form.accepts (front ++ back) = true ↔
      form.accepts front = true ∧ form.scan .inWord back = true ∨
      ∃ name before after rest, form.accepts name = true ∧ front = name ++ before ∧
        before ≠ [] ∧ form.separator = before ++ after ∧ back = after ++ rest ∧
        form.accepts rest = true := by
  constructor
  · intro h
    induction front using List.reverseRecOn generalizing back with
    | nil => exact absurd rfl hne
    | append_singleton front c ih =>
      rw [List.append_assoc, List.singleton_append] at h
      by_cases hfront : front = []
      · subst hfront
        obtain ⟨hstarts, hback⟩ := Bool.and_eq_true_iff.1 (by simpa [accepts, scan] using h)
        exact .inl ⟨by simp [accepts, scan, hstarts], hback⟩
      · rcases ih hfront h with ⟨hname, hback⟩ | ⟨name, before, after, rest, hname, rfl, hbefore,
          hsep, hback, hrest⟩
        · -- The character goes on with the last word, or it is the first one of a separator.
          simp only [scan] at hback
          split at hback
          · next hc =>
            refine .inl ⟨?_, hback⟩
            rw [accepts_append hname]
            simp [scan, hc]
          · rw [hseparator] at hback
            obtain ⟨hfirst, hscan⟩ := Bool.and_eq_true_iff.1 hback
            obtain ⟨rest, rfl, hrest⟩ := exists_accepts_of_beforeWord hscan
            exact .inr ⟨front, [c], awaited, rest, hname, rfl, by simp,
              by rw [hseparator, eq_of_beq hfirst]; rfl, rfl, hrest⟩
        · cases after with
          | nil =>
            -- The separator is complete, so that the character is the first one of a word.
            rw [List.nil_append] at hback
            rw [← hback] at hrest
            obtain ⟨hstarts, hscan⟩ := Bool.and_eq_true_iff.1 (by simpa [accepts, scan] using hrest)
            refine .inl ⟨?_, hscan⟩
            rw [List.append_nil] at hsep
            rw [List.append_assoc, accepts_append hname, ← hsep,
              scan_separator_append hseparator hs]
            simp [accepts, scan, hstarts]
          | cons t after =>
            obtain ⟨rfl, rfl⟩ := List.cons.inj hback
            exact .inr ⟨name, before ++ [c], after, rest, hname, by simp, by simp, by simp [hsep],
              rfl, hrest⟩
  · rintro (⟨hfront, hback⟩ | ⟨name, before, after, rest, hname, rfl, -, hsep, rfl, hrest⟩)
    · rw [accepts_append hfront, hback]
    · rw [List.append_assoc, accepts_append hname, ← List.append_assoc, ← hsep,
        scan_separator_append hseparator hs, hrest]

end NameForm

/-! ## Characters of names -/

/-- A character that plain names are made of. -/
def isPlainChar (c : Char) : Bool := isWordChar c || c == ':' || c == '$'

theorem isWordChar_of_isAlpha {c : Char} (h : c.isAlpha = true) : isWordChar c = true := by
  simp [isWordChar, Char.isAlphanum, h]

theorem isWordChar_of_isDigit {c : Char} (h : c.isDigit = true) : isWordChar c = true := by
  simp [isWordChar, Char.isAlphanum, h]

theorem toNat_lt_of_isWordChar {c : Char} (h : isWordChar c = true) : c.toNat < 128 := by
  rcases Bool.or_eq_true_iff.1 h with halphanum | hunderscore
  · rcases Bool.or_eq_true_iff.1 halphanum with halpha | hdigit
    · have hbounds := toNat_of_starts (Bool.or_eq_true_iff.2 (.inl halpha))
      omega
    · have hbounds := (Char.isDigit_iff_toNat.1 hdigit).2
      have hnine : '9'.toNat = 57 := rfl
      omega
  · rw [eq_of_beq hunderscore]
    decide

theorem toNat_lt_of_isPlainChar {c : Char} (h : isPlainChar c = true) : c.toNat < 128 := by
  rcases Bool.or_eq_true_iff.1 h with hword | hdollar
  · rcases Bool.or_eq_true_iff.1 hword with hword | hcolon
    · exact toNat_lt_of_isWordChar hword
    · rw [eq_of_beq hcolon]
      decide
  · rw [eq_of_beq hdollar]
    decide

/-- The words of a name and what joins them hold no other characters. -/
theorem isPlainChar_of_scan {position : NameForm.Position} {cs : List Char}
    (h : fieldForm.scan position cs = true)
    (hposition : ∀ awaited, position = .beforeWord awaited → awaited = []) :
    ∀ c ∈ cs, isPlainChar c = true := by
  refine fieldForm.forall_of_scan (fun c hc => ?_) (fun c hc => ?_) (fun c hc => ?_) h ?_
  · have hword : isWordChar c = true := isWordChar_of_isAlpha hc
    simp [isPlainChar, hword]
  · have hword : isWordChar c = true := hc
    simp [isPlainChar, hword]
  · have hcolon : c = ':' := by simpa [fieldForm] using hc
    rw [hcolon]
    rfl
  · intro awaited hawaited c hc
    rw [hposition awaited hawaited] at hc
    exact absurd hc List.not_mem_nil

theorem isPlainChar_of_accepts {cs : List Char} (h : fieldForm.accepts cs = true) :
    ∀ c ∈ cs, isPlainChar c = true := by
  refine isPlainChar_of_scan h ?_
  rintro _ ⟨⟩
  rfl

/-- No name goes on with a character that plain names do not have. -/
theorem not_scan_inWord_of_mem {cs : List Char} {c : Char} (hc : c ∈ cs)
    (hplain : isPlainChar c = false) : ¬fieldForm.scan .inWord cs = true := by
  intro h
  rw [isPlainChar_of_scan h nofun c hc] at hplain
  cases hplain

theorem scan_inWord_of_isWordChar {cs : List Char} (h : ∀ c ∈ cs, isWordChar c = true) :
    fieldForm.scan .inWord cs = true := by
  have hscan := @NameForm.scan_inWord_append fieldForm cs h []
  rwa [List.append_nil] at hscan

/-! ## Names of fields -/

namespace FieldName

/-- The name of a field goes on with a word exactly if it is no position. -/
theorem scan_inWord_iff (name : FieldName) :
    fieldForm.scan .inWord name.text.toList = true ↔
      fieldForm.accepts name.text.toList = true := by
  rcases Bool.or_eq_true_iff.1 name.valid with hposition | haccepted
  · obtain ⟨digits, heq, -⟩ := isPosition_iff.1 hposition
    have hdollar : isWordChar '$' = false := rfl
    rw [heq]
    refine iff_of_false ?_ ?_
    · simp [NameForm.scan, fieldForm, hdollar]
    · simp [NameForm.accepts, NameForm.scan, fieldForm]
  · obtain ⟨first, rest, heq, hstarts⟩ := NameForm.exists_starts_of_accepts haccepted
    have hcontinues : fieldForm.continues first = true := isWordChar_of_isAlpha hstarts
    rw [heq, NameForm.accepts, NameForm.scan, NameForm.scan, if_pos hcontinues, hstarts,
      Bool.true_and]

/-- A dollar sign with digits of ASCII after it. -/
def IsPlainPosition (cs : List Char) : Prop :=
  ∃ digits, cs = '$' :: digits ∧ digits ≠ [] ∧ ∀ c ∈ digits, c.isDigit = true

/-- A plain position, or words of ASCII joined by two colons. -/
def IsPlain (cs : List Char) : Prop :=
  IsPlainPosition cs ∨ ∃ words, words ≠ [] ∧ (∀ word ∈ words, fieldForm.Word word) ∧
    cs = [':', ':'].intercalate words

/-- A dollar sign with decimal digits after it, not all of which are digits of ASCII. -/
def IsForeignPosition (cs : List Char) : Prop :=
  ∃ digits, cs = '$' :: digits ∧ (∀ c ∈ digits, Unicode.isDecimalDigit c = true) ∧
    ∃ c ∈ digits, c.isDigit = false

theorem exists_parse_iff {s : String} : (∃ name, FieldName.parse s = .ok name) ↔
    isPosition s.toList = true ∨ fieldForm.accepts s.toList = true := by
  constructor
  · rintro ⟨name, hname⟩
    rw [← parse_eq_ok_iff.1 hname]
    exact Bool.or_eq_true_iff.1 name.valid
  · intro h
    exact ⟨⟨s, Bool.or_eq_true_iff.2 h⟩, parse_eq_ok_iff.2 rfl⟩

theorem accepts_iff_words {cs : List Char} : fieldForm.accepts cs = true ↔
    ∃ words, words ≠ [] ∧ (∀ word ∈ words, fieldForm.Word word) ∧
      cs = [':', ':'].intercalate words :=
  @NameForm.accepts_iff_words fieldForm cs ':' [':'] rfl rfl

/-- `isPosition` takes decimal digits of any script, as `Unicode.isDecimalDigit` does. -/
theorem isPosition_iff_or {cs : List Char} :
    isPosition cs = true ↔ IsPlainPosition cs ∨ IsForeignPosition cs := by
  rw [isPosition_iff]
  constructor
  · rintro ⟨digits, rfl, hne, hdigits⟩
    by_cases hascii : ∀ c ∈ digits, c.isDigit = true
    · exact .inl ⟨digits, rfl, hne, hascii⟩
    · refine .inr ⟨digits, rfl, hdigits, ?_⟩
      simpa using hascii
  · rintro (⟨digits, rfl, hne, hdigits⟩ | ⟨digits, rfl, hdigits, c, hc, -⟩)
    · exact ⟨digits, rfl, hne, fun c hc => Unicode.isDecimalDigit_of_isDigit (hdigits c hc)⟩
    · exact ⟨digits, rfl, List.ne_nil_of_mem hc, hdigits⟩

theorem isPlainChar_of_isPlain {cs : List Char} (h : IsPlain cs) :
    ∀ c ∈ cs, isPlainChar c = true := by
  rcases h with ⟨digits, rfl, hne, hdigits⟩ | hwords
  · refine List.forall_mem_cons.2 ⟨rfl, fun c hc => ?_⟩
    simp [isPlainChar, isWordChar_of_isDigit (hdigits c hc)]
  · exact isPlainChar_of_accepts (accepts_iff_words.2 hwords)

/-- A position with digits of another script shows a character that plain names do not have. -/
theorem IsForeignPosition.exists_not_isPlainChar {cs : List Char} (h : IsForeignPosition cs) :
    ∃ c ∈ cs, isPlainChar c = false := by
  obtain ⟨digits, rfl, hdigits, c, hc, hother⟩ := h
  refine ⟨c, List.mem_cons_of_mem _ hc, ?_⟩
  cases hplain : isPlainChar c with
  | false => rfl
  | true =>
    have hascii := toNat_lt_of_isPlainChar hplain
    rw [← Unicode.isDecimalDigit_of_ascii hascii, hdigits c hc] at hother
    cases hother

theorem IsForeignPosition.not_isPlain {cs : List Char} (h : IsForeignPosition cs) :
    ¬IsPlain cs := by
  intro hplain
  obtain ⟨c, hc, hother⟩ := h.exists_not_isPlainChar
  rw [isPlainChar_of_isPlain hplain c hc] at hother
  cases hother

/-- `FieldName.parse` accepts a text as the name of a field if it `IsPlain`, and beyond that if it
`IsForeignPosition`: a position that is written, in part or throughout, with decimal digits of other
scripts. These positions are all that keeps the accepted names from being plain, and from holding
nothing but letters, digits, underscores, colons and dollar signs of ASCII. -/
theorem exists_parse_iff_isPlain_or (s : String) :
    ((∃ name, FieldName.parse s = .ok name) ↔ IsPlain s.toList ∨ IsForeignPosition s.toList) ∧
      ((∀ name, FieldName.parse s = .ok name →
          IsPlain name.text.toList ∧ name.text.toList.all isPlainChar = true) ↔
        ¬IsForeignPosition s.toList) := by
  have haccepted : (∃ name, FieldName.parse s = .ok name) ↔
      IsPlain s.toList ∨ IsForeignPosition s.toList := by
    rw [exists_parse_iff, isPosition_iff_or, accepts_iff_words]
    exact or_right_comm
  refine ⟨haccepted, ?_⟩
  constructor
  · intro hplain hforeign
    obtain ⟨name, hname⟩ := haccepted.2 (.inr hforeign)
    have hname' := (hplain name hname).1
    rw [parse_eq_ok_iff.1 hname] at hname'
    exact hforeign.not_isPlain hname'
  · intro hnot name hname
    have hplain : IsPlain s.toList := (haccepted.1 ⟨name, hname⟩).resolve_right hnot
    rw [parse_eq_ok_iff.1 hname, List.all_eq_true]
    exact ⟨hplain, isPlainChar_of_isPlain hplain⟩

/-- The position `$٣`, with the Arabic-Indic digit three, is accepted. -/
theorem not_isPlain_arabicIndicThree :
    ∃ name, FieldName.parse "$٣" = .ok name ∧ ¬IsPlain name.text.toList ∧
      ∃ c ∈ name.text.toList, isPlainChar c = false := by
  have hthree : Unicode.isDecimalDigit '٣' = true := by decide
  have hforeign : IsForeignPosition "$٣".toList :=
    ⟨['٣'], rfl, List.forall_mem_singleton.2 hthree, '٣', List.mem_singleton_self _, rfl⟩
  have hvalid : isPosition "$٣".toList = true := isPosition_iff_or.2 (.inr hforeign)
  exact ⟨⟨"$٣", Bool.or_eq_true_iff.2 (.inl hvalid)⟩, parse_eq_ok_iff.2 rfl, hforeign.not_isPlain,
    hforeign.exists_not_isPlainChar⟩

end FieldName

end PigLatin
