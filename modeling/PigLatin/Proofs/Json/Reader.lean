import PigLatin.Json.Reader
import PigLatin.Proofs.Json.Numeral

/-!
# Reading an object with a number

An object whose only member is a number reads as such an object, with the number that the numeral
writes, or is malformed because the number is too large.
-/

namespace PigLatin.Json

variable {rest : List Char}

/-- The text can stand between quotes as it is. -/
def IsBare (text : List Char) : Prop := ∀ c ∈ text, c ≠ '"' ∧ c ≠ '\\' ∧ ¬c.toNat < 0x20

/-- `readText` takes a text without escapes as it is. -/
theorem readText_append {text : List Char} (h : IsBare text) :
    readText .plain (text ++ '"' :: rest) = .ok (text, rest) := by
  induction text with
  | nil => rfl
  | cons c cs ih =>
    obtain ⟨⟨hquote, hbackslash, hcontrol⟩, hcs⟩ := List.forall_mem_cons.1 h
    rw [List.cons_append, readText, if_neg hquote, if_neg hbackslash, if_neg hcontrol, ih hcs]
    rfl

/-- `Number.read` finds the numeral and asks `Numeral.value?` for its number, which may be too
large. -/
theorem numberRead_append {n : Numeral} (h : n.IsWellFormed) (hrest : Numeral.EndsNumeral rest) :
    Number.read (n.chars ++ rest) =
      n.value?.elim (.error .malformed) fun value => .ok (value, rest) := by
  rw [Number.read, Numeral.read_chars_append h hrest]
  cases hvalue : n.value? with
  | none => simp [bind, Except.bind, hvalue]
  | some value => simp [bind, Except.bind, hvalue, pure, Except.pure]

/-- A character with which a numeral can start. -/
def StartsNumeral (c : Char) : Prop := c = '-' ∨ c.isDigit = true

theorem StartsNumeral.ne {c d : Char} (h : StartsNumeral c) (hminus : d ≠ '-')
    (hdigit : d.isDigit = false) : c ≠ d := by
  rintro rfl
  rcases h with h | h
  · exact hminus h
  · rw [hdigit] at h
    cases h

theorem exists_chars_eq_cons {n : Numeral} (h : n.IsWellFormed) :
    ∃ c cs, n.chars = c :: cs ∧ StartsNumeral c := by
  obtain ⟨c, cs, hwhole⟩ := List.exists_cons_of_ne_nil h.whole.ne_nil
  have hdigit : c.isDigit = true := h.whole.isDigit c (hwhole ▸ List.mem_cons_self)
  unfold Numeral.chars
  cases n.negative with
  | true => exact ⟨'-', _, rfl, .inl rfl⟩
  | false => exact ⟨c, _, by rw [hwhole]; rfl, .inr hdigit⟩

theorem skipBlanks_of_startsNumeral {c : Char} {cs : List Char} (h : StartsNumeral c) :
    skipBlanks (c :: cs) = c :: cs := by
  have hspace := h.ne (d := ' ') (by decide) rfl
  have htab := h.ne (d := '\t') (by decide) rfl
  have hline := h.ne (d := '\n') (by decide) rfl
  have hreturn := h.ne (d := '\r') (by decide) rfl
  simp [skipBlanks, hspace, htab, hline, hreturn]

/-- `readValueWith` reads a numeral in the same way however deep values may nest. -/
theorem readValueWith_append {n : Numeral} (nested : Option (Reader Json)) (h : n.IsWellFormed)
    (hrest : Numeral.EndsNumeral rest) :
    readValueWith nested (n.chars ++ rest) =
      n.value?.elim (.error .malformed) fun value => .ok (.number value, rest) := by
  have hread := numberRead_append h hrest
  obtain ⟨c, cs, heq, hc⟩ := exists_chars_eq_cons h
  rw [heq, List.cons_append] at hread ⊢
  rw [readValueWith, skipBlanks_of_startsNumeral hc]
  have hnumber : (decide (c = '-') || c.isDigit) = true := by
    rcases hc with hc | hc
    · rw [hc]
      rfl
    · rw [hc, Bool.or_true]
  split
  · next hnil => cases hnil
  · next hletter => exact absurd (List.cons.inj hletter).1 (hc.ne (by decide) rfl)
  · next hletter => exact absurd (List.cons.inj hletter).1 (hc.ne (by decide) rfl)
  · next hletter => exact absurd (List.cons.inj hletter).1 (hc.ne (by decide) rfl)
  · next hquote => exact absurd (List.cons.inj hquote).1 (hc.ne (by decide) rfl)
  · next hbracket => exact absurd (List.cons.inj hbracket).1 (hc.ne (by decide) rfl)
  · next hbrace => exact absurd (List.cons.inj hbrace).1 (hc.ne (by decide) rfl)
  · next hcons =>
    obtain ⟨rfl, rfl⟩ := List.cons.inj hcons
    rw [if_pos hnumber, hread]
    cases n.value? <;> rfl

theorem readMember_append {key cs : List Char} (readValue : Reader Json) (h : IsBare key) :
    readMember readValue ('"' :: (key ++ '"' :: ':' :: cs)) =
      (readValue cs).map fun result => ((String.ofList key, result.1), result.2) := by
  have hkey : readString ('"' :: (key ++ '"' :: ':' :: cs)) =
      .ok (String.ofList key, ':' :: cs) := by
    have hskip : skipBlanks ('"' :: (key ++ '"' :: ':' :: cs)) =
        '"' :: (key ++ '"' :: ':' :: cs) := rfl
    rw [readString, hskip]
    simp only [readText_append h, bind, Except.bind, pure, Except.pure]
  have hcolon : skipBlanks (':' :: cs) = ':' :: cs := rfl
  rw [readMember, hkey]
  simp only [bind, Except.bind, hcolon]
  cases readValue cs <;> rfl

/-- `readObject` reads an object with a single member as `readMember` reads the member. -/
theorem readObject_member {readValue : Reader Json} {cs : List Char}
    {result : Except Fault (String × Json)}
    (h : readMember readValue ('"' :: cs) = result.map fun member => (member, '\x7d' :: rest)) :
    readObject readValue ('"' :: cs) = result.map fun member => (.object [member], rest) := by
  have hmembers : readMembers readValue (('"' :: cs).length + 1) ('"' :: cs) =
      result.map fun member => ([member], rest) := by
    rw [readMembers, h]
    cases result <;> rfl
  have hobject : readObject readValue ('"' :: cs) =
      (readMembers readValue (('"' :: cs).length + 1) ('"' :: cs)).map fun members =>
        (.object (Dictionary.insertAll [] members.1), members.2) := by
    unfold Except.map
    rfl
  rw [hobject, hmembers]
  cases result <;> rfl

/-- The text of an object with a number as its only member. -/
def numberMember (key : List Char) (n : Numeral) : List Char :=
  '\x7b' :: '"' :: (key ++ '"' :: ':' :: (n.chars ++ ['\x7d']))

/-- `parse` reads the object of `numberMember`, unless its number is too large for
`Numeral.value?`. -/
theorem parse_numberMember {key : List Char} {n : Numeral} (hkey : IsBare key)
    (h : n.IsWellFormed) :
    parse (String.ofList (numberMember key n)) =
      n.value?.elim (.error .malformed) fun value =>
        .ok (.object [(String.ofList key, .number value)]) := by
  have hends : Numeral.EndsNumeral ['\x7d'] := by
    rintro c ⟨⟩
    decide
  have hvalue : readValue 126 (n.chars ++ ['\x7d']) = _ := readValueWith_append _ h hends
  have hmember : readMember (readValue 126) ('"' :: (key ++ '"' :: ':' :: (n.chars ++ ['\x7d']))) =
      (n.value?.elim (.error .malformed) fun value => .ok (String.ofList key, .number value) :
        Except Fault (String × Json)).map fun member => (member, ['\x7d']) := by
    rw [readMember_append _ hkey, hvalue]
    cases n.value? <;> rfl
  have hobject := readObject_member hmember
  have hread : readValue maxDepth (numberMember key n) =
      readObject (readValue 126) ('"' :: (key ++ '"' :: ':' :: (n.chars ++ ['\x7d']))) := rfl
  rw [parse, String.toList_ofList, hread, hobject]
  cases n.value? <;> rfl

end PigLatin.Json
