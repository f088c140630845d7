import PigLatin.Name
import PigLatin.Text.Digits

/-!
# Words

The parts of a script that are neither quoted nor nested: names, keywords and unsigned numbers.
What they have in common is that none of the characters that structure a script occurs in them.
-/

namespace PigLatin

/-- The characters that structure a script. -/
def punctuation : List Char := ['\'', '\\', '(', ')', '-', '*', '/', ',', ';', ' ', '\n']

/-- None of the characters is one of those to be avoided. -/
def Avoids (cs avoided : List Char) : Prop := ∀ c ∈ cs, c ∉ avoided

-- Decided along the text: the instance for statements about all characters would go through the
-- whole of Unicode.
instance (cs avoided : List Char) : Decidable (Avoids cs avoided) :=
  decidable_of_iff ((cs.any fun c => avoided.contains c) = false) (by simp [Avoids])

/-- The characters are free of punctuation. -/
def IsWord (cs : List Char) : Prop := Avoids cs punctuation

instance (cs : List Char) : Decidable (IsWord cs) :=
  inferInstanceAs (Decidable (Avoids cs punctuation))

namespace IsWord

theorem append {cs ds : List Char} (hcs : IsWord cs) (hds : IsWord ds) : IsWord (cs ++ ds) := by
  intro c hc
  rcases List.mem_append.1 hc with hc | hc
  · exact hcs c hc
  · exact hds c hc

/-- Characters of a class that no punctuation belongs to make up a word. -/
theorem of_class {cs : List Char} {p : Char → Bool} (hp : punctuation.any p = false)
    (h : ∀ c ∈ cs, p c = true) : IsWord cs :=
  fun c hc hpunctuation => List.any_eq_false.1 hp c hpunctuation (h c hc)

theorem notMem {cs : List Char} (h : IsWord cs) {c : Char} (hc : c ∈ punctuation) : c ∉ cs :=
  fun hmem => h c hmem hc

theorem quote_notMem {cs : List Char} (h : IsWord cs) : '\'' ∉ cs := h.notMem (by decide)

theorem paren_notMem {cs : List Char} (h : IsWord cs) : '(' ∉ cs := h.notMem (by decide)

theorem blank_notMem {cs : List Char} (h : IsWord cs) : ' ' ∉ cs := h.notMem (by decide)

end IsWord

/-! ## Names -/

namespace NameForm

/-- What holds of every character that a form allows holds of every character of a name. -/
theorem forall_of_scan {form : NameForm} {P : Char → Prop} (hstarts : ∀ c, form.starts c → P c)
    (hcontinues : ∀ c, form.continues c → P c) (hseparator : ∀ c ∈ form.separator, P c)
    {cs : List Char} : ∀ {position : Position}, form.scan position cs = true →
      (∀ awaited, position = .beforeWord awaited → ∀ c ∈ awaited, P c) → ∀ c ∈ cs, P c := by
  induction cs with
  | nil => intro _ _ _ c hc; exact absurd hc List.not_mem_nil
  | cons first rest ih =>
    intro position hscan hawaited
    -- Whatever the position is, the first character is allowed there and the rest is scanned on.
    suffices hfirst : P first ∧ ∀ c ∈ rest, P c from List.forall_mem_cons.2 hfirst
    cases position with
    | inWord =>
      simp only [scan] at hscan
      split at hscan
      · next hcontinued => exact ⟨hcontinues _ hcontinued, ih hscan (by simp)⟩
      · split at hscan
        · cases hscan
        · next s awaited hsep =>
          obtain ⟨hs, hscan⟩ := Bool.and_eq_true_iff.1 hscan
          rw [hsep] at hseparator
          obtain ⟨hPs, hPawaited⟩ := List.forall_mem_cons.1 hseparator
          refine ⟨eq_of_beq hs ▸ hPs, ih hscan ?_⟩
          rintro _ ⟨⟩
          exact hPawaited
    | beforeWord awaited =>
      cases awaited with
      | nil =>
        obtain ⟨hstart, hscan⟩ := Bool.and_eq_true_iff.1 (by simpa only [scan] using hscan)
        exact ⟨hstarts _ hstart, ih hscan (by simp)⟩
      | cons s awaited =>
        obtain ⟨hs, hscan⟩ := Bool.and_eq_true_iff.1 (by simpa only [scan] using hscan)
        obtain ⟨hPs, hPawaited⟩ := List.forall_mem_cons.1 (hawaited _ rfl)
        refine ⟨eq_of_beq hs ▸ hPs, ih hscan ?_⟩
        rintro _ ⟨⟩
        exact hPawaited

/-- A name is not empty, and its first character may start a word. -/
theorem exists_starts_of_accepts {form : NameForm} {cs : List Char} (h : form.accepts cs = true) :
    ∃ c rest, cs = c :: rest ∧ form.starts c = true := by
  cases cs with
  | nil => cases h
  | cons c rest =>
    refine ⟨c, rest, rfl, ?_⟩
    exact (Bool.and_eq_true_iff.1 (by simpa only [accepts, scan] using h)).1

end NameForm

/-- Names of forms that allow no `punctuation` are words. -/
theorem isWord_of_accepts {form : NameForm} {cs : List Char} (h : form.accepts cs = true)
    (hform : (punctuation.any fun c => form.starts c || form.continues c ||
      form.separator.contains c) = false) : IsWord cs := by
  refine .of_class hform (form.forall_of_scan ?_ ?_ ?_ h ?_)
  · intro c hc; simp [hc]
  · intro c hc; simp [hc]
  · intro c hc; simp [hc]
  · rintro _ ⟨⟩ c hc
    exact absurd hc List.not_mem_nil

theorem Alias.isWord (a : Alias) : IsWord a.text.toList :=
  isWord_of_accepts a.valid (by decide)

theorem FunctionName.isWord (f : FunctionName) : IsWord f.text.toList :=
  isWord_of_accepts f.valid (by decide)

/-- `isPosition` asks for a dollar sign with decimal digits after it. -/
theorem isPosition_iff {cs : List Char} : isPosition cs = true ↔
    ∃ digits, cs = '$' :: digits ∧ digits ≠ [] ∧ ∀ c ∈ digits, Unicode.isDecimalDigit c = true := by
  unfold isPosition
  split
  · next digits => simp
  · next hne =>
    refine iff_of_false (by simp) ?_
    rintro ⟨digits, rfl, -⟩
    exact hne digits rfl

theorem FieldName.isWord (f : FieldName) : IsWord f.text.toList := by
  rcases Bool.or_eq_true_iff.1 f.valid with hposition | hname
  · obtain ⟨digits, heq, -, hdigits⟩ := isPosition_iff.1 hposition
    have hdollar : IsWord ['$'] := by decide
    rw [heq]
    exact hdollar.append (.of_class (by decide) hdigits)
  · exact isWord_of_accepts hname (by decide)

/-! ## Numbers -/

theorem isWord_of_isDigit {cs : List Char} (h : ∀ c ∈ cs, c.isDigit = true) : IsWord cs :=
  .of_class (by decide) h

theorem isWord_digits (n : Nat) : IsWord (Text.digits n) :=
  isWord_of_isDigit fun _ => Text.isDigit_of_mem_digits

theorem isWord_fixedPoint (n scale : Nat) : IsWord (Text.fixedPoint n scale) := by
  unfold Text.fixedPoint
  split
  · exact (isWord_digits n).append (by decide)
  · have hpoint : IsWord ['.'] := by decide
    refine (isWord_digits _).append (hpoint.append ?_)
    exact isWord_of_isDigit fun _ => Text.isDigit_of_mem_lowDigits

end PigLatin
