import Mathlib.Data.List.Basic
import PigLatin.CommandLine.Argument

/-!
# How options are written

An option and its value are written in one argument or in two. Each way of writing them is read as
that option with that value, and there are no other ways.
-/

namespace PigLatin.CommandLine

namespace Setting

/-- The letter of the option with its dash. -/
def shortForm (setting : Setting) : String := "-" ++ String.singleton setting.letter

/-- The name of the option with its dashes. -/
def longForm (setting : Setting) : String := "--" ++ setting.name

@[simp] theorem toList_shortForm (setting : Setting) :
    setting.shortForm.toList = ['-', setting.letter] := by
  simp [shortForm]

@[simp] theorem toList_longForm (setting : Setting) :
    setting.longForm.toList = '-' :: '-' :: setting.name.toList := by
  simp [longForm]

theorem letter_inj {a b : Setting} : a.letter = b.letter ↔ a = b := by
  cases a <;> cases b <;> decide

theorem toList_name_inj {a b : Setting} : a.name.toList = b.name.toList ↔ a = b := by
  cases a <;> cases b <;> decide

theorem letter_ne_dash (setting : Setting) : setting.letter ≠ '-' := by
  cases setting <;> decide

theorem name_ne_nil (setting : Setting) : setting.name.toList ≠ [] := by
  cases setting <;> decide

theorem notMem_name (setting : Setting) : '=' ∉ setting.name.toList := by
  cases setting <;> decide

theorem find?_letter_eq_some_iff {setting : Setting} {letter : Char} :
    (all.find? fun known => known.letter = letter) = some setting ↔ letter = setting.letter := by
  constructor
  · intro h
    have hfound := List.find?_some h
    exact (of_decide_eq_true hfound).symm
  · rintro rfl
    cases setting <;> rfl

theorem find?_name_eq_some_iff {setting : Setting} {name : String} :
    (all.find? fun known => known.name = name) = some setting ↔ name = setting.name := by
  constructor
  · intro h
    have hfound := List.find?_some h
    exact (of_decide_eq_true hfound).symm
  · rintro rfl
    cases setting <;> rfl

end Setting

/-- The argument can be a value by itself, because it does not look like an option. A single dash is
nothing special. -/
def IsPlain (argument : String) : Prop := argument = "-" ∨ argument.toList.head? ≠ some '-'

/-- The ways of writing an option with its value. -/
inductive Writes (setting : Setting) (value : String) : List String → Prop where
  | short (hplain : IsPlain value) : Writes setting value [setting.shortForm, value]
  | long (hplain : IsPlain value) : Writes setting value [setting.longForm, value]
  | attached (hne : value ≠ "") (hequals : value.toList.head? ≠ some '=') :
      Writes setting value [setting.shortForm ++ value]
  | attachedEquals : Writes setting value [setting.shortForm ++ "=" ++ value]
  | longEquals : Writes setting value [setting.longForm ++ "=" ++ value]

namespace Argument

variable {s value : String} {setting : Setting} {letter : Char} {rest name : List Char}

/-! ## What an argument is -/

/-- The four kinds of arguments that `ofString` tells apart: values, the end of the options, and the
long and the short options. -/
theorem ofString_cases (s : String) :
    (IsPlain s ∧ ofString s = .plain) ∨ (s = "--" ∧ ofString s = .endOfOptions) ∨
      (∃ name, name ≠ [] ∧ s.toList = '-' :: '-' :: name ∧ ofString s = ofLong name) ∨
      ∃ letter rest, letter ≠ '-' ∧ s.toList = '-' :: letter :: rest ∧
        ofString s = ofShort letter rest := by
  unfold ofString
  split
  · next hs => exact .inr (.inl ⟨String.toList_inj.1 hs, rfl⟩)
  · next name hname hs =>
    refine .inr (.inr (.inl ⟨name, ?_, hs, rfl⟩))
    rintro rfl
    exact hname rfl
  · next letter rest _ hletter hs =>
    refine .inr (.inr (.inr ⟨letter, rest, ?_, hs, rfl⟩))
    rintro rfl
    exact hletter rfl
  · next hother =>
    refine .inl ⟨?_, rfl⟩
    by_cases hdash : s.toList.head? = some '-'
    · obtain ⟨rest, hs⟩ := List.head?_eq_some_iff.1 hdash
      cases rest with
      | nil => exact .inl (String.toList_inj.1 hs)
      | cons letter rest => exact absurd hs (hother letter rest)
    · exact .inr hdash

/-- The arguments with the form of an option that are none of those with a value. -/
def others : List Argument := [.help, .version, .unknown]

/-- `ofShort` finds the `Setting` of the letter, or one of the arguments that are no setting. -/
theorem ofShort_cases (letter : Char) (rest : List Char) :
    (∃ setting : Setting, letter = setting.letter ∧
        ofShort letter rest = .setting setting (attached? rest)) ∨
      (∀ setting : Setting, letter ≠ setting.letter) ∧ ofShort letter rest ∈ others := by
  unfold ofShort
  cases hfind : Setting.all.find? fun setting => setting.letter = letter with
  | some setting => exact .inl ⟨setting, Setting.find?_letter_eq_some_iff.1 hfind, rfl⟩
  | none =>
    refine .inr ⟨fun setting hletter => ?_, ?_⟩
    · rw [Setting.find?_letter_eq_some_iff.2 hletter] at hfind
      cases hfind
    · show (if letter = 'h' then Argument.help else if letter = 'V' then .version else .unknown) ∈
        others
      split
      · decide
      · split <;> decide

/-- `ofLong` cuts the name at the first equals sign and finds its `Setting`, or one of the arguments
that are no setting. -/
theorem ofLong_cases (name : List Char) :
    (∃ setting : Setting, name.takeWhile (· ≠ '=') = setting.name.toList ∧
        ofLong name = .setting setting (attached? (name.dropWhile (· ≠ '=')))) ∨
      (∀ setting : Setting, name.takeWhile (· ≠ '=') ≠ setting.name.toList) ∧
        ofLong name ∈ others := by
  simp only [ofLong]
  cases hfind : Setting.all.find? fun setting =>
      setting.name = String.ofList (name.takeWhile (· ≠ '=')) with
  | some setting =>
    have hname := Setting.find?_name_eq_some_iff.1 hfind
    exact .inl ⟨setting, by rw [← hname, String.toList_ofList], rfl⟩
  | none =>
    refine .inr ⟨fun setting hname => ?_, ?_⟩
    · have hname : String.ofList (name.takeWhile (· ≠ '=')) = setting.name := by
        rw [hname, String.ofList_toList]
      rw [Setting.find?_name_eq_some_iff.2 hname] at hfind
      cases hfind
    · simp only
      split
      · decide
      · split
        · decide
        · split <;> decide

theorem not_isPlain_of_toList {c : Char} (hs : s.toList = '-' :: c :: rest) : ¬IsPlain s := by
  rintro (rfl | hhead)
  · simp at hs
  · simp [hs] at hhead

/-- The argument is neither plain nor the end of the options. -/
def IsOption (argument : Argument) : Prop := argument ≠ .plain ∧ argument ≠ .endOfOptions

theorem isOption_setting (setting : Setting) (attached : Option String) :
    IsOption (.setting setting attached) :=
  ⟨nofun, nofun⟩

theorem isOption_of_mem_others {argument : Argument} (h : argument ∈ others) :
    IsOption argument := by
  constructor
  · rintro rfl
    exact absurd h (by decide)
  · rintro rfl
    exact absurd h (by decide)

theorem isOption_ofShort (letter : Char) (rest : List Char) : IsOption (ofShort letter rest) := by
  rcases ofShort_cases letter rest with ⟨setting, -, heq⟩ | ⟨-, hmem⟩
  · rw [heq]
    exact isOption_setting setting _
  · exact isOption_of_mem_others hmem

theorem isOption_ofLong (name : List Char) : IsOption (ofLong name) := by
  rcases ofLong_cases name with ⟨setting, -, heq⟩ | ⟨-, hmem⟩
  · rw [heq]
    exact isOption_setting setting _
  · exact isOption_of_mem_others hmem

/-- Exactly the arguments that are `IsPlain` can be values of their own. -/
theorem ofString_eq_plain_iff : ofString s = .plain ↔ IsPlain s := by
  rcases ofString_cases s with ⟨hplain, heq⟩ | ⟨rfl, heq⟩ | ⟨name, -, hs, heq⟩ |
    ⟨letter, rest, -, hs, heq⟩
  · exact iff_of_true heq hplain
  · exact iff_of_false nofun (not_isPlain_of_toList rfl)
  · rw [heq]
    exact iff_of_false (isOption_ofLong name).1 (not_isPlain_of_toList hs)
  · rw [heq]
    exact iff_of_false (isOption_ofShort letter rest).1 (not_isPlain_of_toList hs)

theorem eq_of_ofString_eq_endOfOptions (h : ofString s = .endOfOptions) : s = "--" := by
  rcases ofString_cases s with ⟨-, heq⟩ | ⟨hs, -⟩ | ⟨name, -, -, heq⟩ | ⟨letter, rest, -, -, heq⟩
  · cases heq.symm.trans h
  · exact hs
  · exact absurd (heq.symm.trans h) (isOption_ofLong name).2
  · exact absurd (heq.symm.trans h) (isOption_ofShort letter rest).2

/-! ## Options -/

theorem attached?_cons_of_ne {c : Char} (hc : c ≠ '=') :
    attached? (c :: rest) = some (String.ofList (c :: rest)) := by
  unfold attached?
  split
  · next heq => cases heq
  · next heq =>
    cases heq
    exact absurd rfl hc
  · rfl

theorem attached?_eq_none_iff : attached? rest = none ↔ rest = [] := by
  cases rest with
  | nil => exact iff_of_true rfl rfl
  | cons c cs =>
    refine iff_of_false ?_ (by simp)
    by_cases hc : c = '='
    · subst hc
      simp [attached?]
    · simp [attached?_cons_of_ne hc]

/-- `attached?` drops one equals sign in front of the value. Without it, the value is what stands
there, if that is not empty. -/
theorem attached?_eq_some_iff : attached? rest = some value ↔
    rest = '=' :: value.toList ∨
      value ≠ "" ∧ value.toList.head? ≠ some '=' ∧ rest = value.toList := by
  cases rest with
  | nil =>
    refine iff_of_false (by simp [attached?]) ?_
    rintro (heq | ⟨hne, -, heq⟩)
    · cases heq
    · exact hne (String.toList_eq_nil_iff.1 heq.symm)
  | cons c cs =>
    by_cases hc : c = '='
    · subst hc
      have hvalue : attached? ('=' :: cs) = some value ↔ cs = value.toList := by
        show some (String.ofList cs) = some value ↔ cs = value.toList
        rw [Option.some.injEq, ← String.toList_inj, String.toList_ofList]
      rw [hvalue]
      constructor
      · rintro rfl
        exact .inl rfl
      · rintro (heq | ⟨-, hhead, heq⟩)
        · exact (List.cons.inj heq).2
        · exact absurd (by rw [← heq]; rfl) hhead
    · rw [attached?_cons_of_ne hc, Option.some.injEq, ← String.toList_inj, String.toList_ofList]
      constructor
      · intro heq
        refine .inr ⟨?_, ?_, heq⟩
        · rintro rfl
          cases heq
        · rw [← heq]
          simpa using hc
      · rintro (heq | ⟨-, -, heq⟩)
        · exact absurd (List.cons.inj heq).1 hc
        · exact heq

theorem ne_setting_of_mem_others {argument : Argument} {attached : Option String}
    (h : argument ∈ others) : argument ≠ .setting setting attached := by
  rintro rfl
  simp [others] at h

theorem ofShort_eq_setting_iff {attached : Option String} :
    ofShort letter rest = .setting setting attached ↔
      letter = setting.letter ∧ attached? rest = attached := by
  rcases ofShort_cases letter rest with ⟨known, rfl, heq⟩ | ⟨hne, hmem⟩
  · rw [heq, Argument.setting.injEq, Setting.letter_inj]
  · refine iff_of_false (ne_setting_of_mem_others hmem) ?_
    rintro ⟨hletter, -⟩
    exact hne setting hletter

theorem ofLong_eq_setting_iff {attached : Option String} :
    ofLong name = .setting setting attached ↔
      name.takeWhile (· ≠ '=') = setting.name.toList ∧
        attached? (name.dropWhile (· ≠ '=')) = attached := by
  rcases ofLong_cases name with ⟨known, hname, heq⟩ | ⟨hne, hmem⟩
  · rw [heq, Argument.setting.injEq, hname, Setting.toList_name_inj]
  · refine iff_of_false (ne_setting_of_mem_others hmem) ?_
    rintro ⟨hname, -⟩
    exact hne setting hname

theorem ofString_eq_setting_iff {attached : Option String} :
    ofString s = .setting setting attached ↔
      (∃ rest, s.toList = '-' :: setting.letter :: rest ∧ attached? rest = attached) ∨
        ∃ name, s.toList = '-' :: '-' :: name ∧ name.takeWhile (· ≠ '=') = setting.name.toList ∧
          attached? (name.dropWhile (· ≠ '=')) = attached := by
  have hdash := setting.letter_ne_dash
  rcases ofString_cases s with ⟨hplain, heq⟩ | ⟨rfl, heq⟩ | ⟨name, hname, hs, heq⟩ |
    ⟨letter, rest, hletter, hs, heq⟩
  · refine iff_of_false (by simp [heq]) ?_
    rintro (⟨rest, hs, -⟩ | ⟨name, hs, -⟩)
    · exact not_isPlain_of_toList hs hplain
    · exact not_isPlain_of_toList hs hplain
  · refine iff_of_false (by simp [heq]) ?_
    rintro (⟨rest, hs, -⟩ | ⟨name, hs, htake, -⟩)
    · exact hdash (List.cons.inj (List.cons.inj hs).2).1.symm
    · obtain rfl : [] = name := (List.cons.inj (List.cons.inj hs).2).2
      exact setting.name_ne_nil htake.symm
  · rw [heq, ofLong_eq_setting_iff, hs]
    constructor
    · rintro ⟨htake, hattached⟩
      exact .inr ⟨name, rfl, htake, hattached⟩
    · rintro (⟨rest, hrest, -⟩ | ⟨name', hname', htake, hattached⟩)
      · exact absurd (List.cons.inj (List.cons.inj hrest).2).1.symm hdash
      · obtain rfl := (List.cons.inj (List.cons.inj hname').2).2
        exact ⟨htake, hattached⟩
  · rw [heq, ofShort_eq_setting_iff, hs]
    constructor
    · rintro ⟨rfl, hattached⟩
      exact .inl ⟨rest, rfl, hattached⟩
    · rintro (⟨rest', hrest, hattached⟩ | ⟨name, hrest, -⟩)
      · obtain ⟨rfl, rfl⟩ := List.cons.inj (List.cons.inj hrest).2
        exact ⟨rfl, hattached⟩
      · exact absurd (List.cons.inj (List.cons.inj hrest).2).1 hletter

/-- Characters are cut at the first `'='`, or at the end if there is none. -/
theorem takeWhile_and_dropWhile_iff {cs before : List Char} (hrest : ∀ c ∈ rest.head?, c = '=') :
    cs.takeWhile (· ≠ '=') = before ∧ cs.dropWhile (· ≠ '=') = rest ↔
      cs = before ++ rest ∧ '=' ∉ before := by
  constructor
  · rintro ⟨rfl, hdrop⟩
    refine ⟨by rw [← hdrop, List.takeWhile_append_dropWhile], fun hmem => ?_⟩
    simpa using List.all_eq_true.1 List.all_takeWhile '=' hmem
  · rintro ⟨rfl, hnotMem⟩
    have hbefore : ∀ c ∈ before, decide (c ≠ '=') = true := by
      intro c hc
      exact decide_eq_true fun heq => hnotMem (heq ▸ hc)
    rw [List.takeWhile_append_of_pos hbefore, List.dropWhile_append_of_pos hbefore]
    cases rest with
    | nil => simp
    | cons c cs =>
      obtain rfl : c = '=' := hrest c rfl
      simp

/-- No `Setting.name` has an equals sign that it could be cut at. -/
theorem takeWhile_name_and_dropWhile_iff (hrest : ∀ c ∈ rest.head?, c = '=') :
    name.takeWhile (· ≠ '=') = setting.name.toList ∧ name.dropWhile (· ≠ '=') = rest ↔
      name = setting.name.toList ++ rest := by
  rw [takeWhile_and_dropWhile_iff hrest, and_iff_left setting.notMem_name]

theorem attached?_dropWhile_eq_some_iff : attached? (name.dropWhile (· ≠ '=')) = some value ↔
    name.dropWhile (· ≠ '=') = '=' :: value.toList := by
  rw [attached?_eq_some_iff]
  refine or_iff_left ?_
  rintro ⟨hne, hhead, hdrop⟩
  cases hvalue : value.toList with
  | nil => exact hne (String.toList_eq_nil_iff.1 hvalue)
  | cons c cs =>
    rw [hvalue] at hhead hdrop
    have hstops := List.head?_dropWhile_not (fun c => decide (c ≠ '=')) name
    rw [hdrop] at hstops
    exact hhead (by simpa using hstops)

/-- An option alone, `shortForm` or `longForm`: its value is still to come. -/
theorem ofString_eq_setting_none_iff :
    ofString s = .setting setting none ↔ s = setting.shortForm ∨ s = setting.longForm := by
  rw [ofString_eq_setting_iff, ← String.toList_inj, ← String.toList_inj, Setting.toList_shortForm,
    Setting.toList_longForm]
  have hlong : ∀ name : List Char, name.takeWhile (· ≠ '=') = setting.name.toList ∧
      name.dropWhile (· ≠ '=') = [] ↔ name = setting.name.toList ++ [] := fun name =>
    takeWhile_name_and_dropWhile_iff (by simp)
  simp only [attached?_eq_none_iff, hlong, List.append_nil, exists_eq_right]

/-- The ways of `Writes` that take a single argument. -/
theorem writes_singleton_iff : Writes setting value [s] ↔
    value ≠ "" ∧ value.toList.head? ≠ some '=' ∧ s = setting.shortForm ++ value ∨
      s = setting.shortForm ++ "=" ++ value ∨ s = setting.longForm ++ "=" ++ value := by
  constructor
  · intro h
    cases h with
    | attached hne hequals => exact .inl ⟨hne, hequals, rfl⟩
    | attachedEquals => exact .inr (.inl rfl)
    | longEquals => exact .inr (.inr rfl)
  · rintro (⟨hne, hequals, rfl⟩ | rfl | rfl)
    · exact .attached hne hequals
    · exact .attachedEquals
    · exact .longEquals

/-- `ofString` finds an option together with its value exactly if `Writes` puts both into this
argument. -/
theorem ofString_eq_setting_some_iff :
    ofString s = .setting setting (some value) ↔ Writes setting value [s] := by
  have hequals : ∀ c ∈ ('=' :: value.toList).head?, c = '=' := by simp
  rw [ofString_eq_setting_iff, writes_singleton_iff]
  constructor
  · rintro (⟨rest, hs, hattached⟩ | ⟨name, hs, htake, hattached⟩)
    · rcases attached?_eq_some_iff.1 hattached with rfl | ⟨hne, hhead, rfl⟩
      · exact .inr (.inl (String.toList_inj.1 (by simp [hs])))
      · exact .inl ⟨hne, hhead, String.toList_inj.1 (by simp [hs])⟩
    · have hdrop := attached?_dropWhile_eq_some_iff.1 hattached
      obtain rfl := (takeWhile_name_and_dropWhile_iff hequals).1 ⟨htake, hdrop⟩
      exact .inr (.inr (String.toList_inj.1 (by simp [hs])))
  · rintro (⟨hne, hhead, rfl⟩ | rfl | rfl)
    · exact .inl ⟨value.toList, by simp, attached?_eq_some_iff.2 (.inr ⟨hne, hhead, rfl⟩)⟩
    · exact .inl ⟨'=' :: value.toList, by simp, attached?_eq_some_iff.2 (.inl rfl)⟩
    · have hname : (setting.name.toList ++ '=' :: value.toList).takeWhile (· ≠ '=') =
            setting.name.toList ∧
          (setting.name.toList ++ '=' :: value.toList).dropWhile (· ≠ '=') = '=' :: value.toList :=
        (takeWhile_name_and_dropWhile_iff hequals).2 rfl
      obtain ⟨htake, hdrop⟩ := hname
      exact .inr ⟨setting.name.toList ++ '=' :: value.toList, by simp, htake,
        attached?_dropWhile_eq_some_iff.2 hdrop⟩

/-- The first argument of what `Writes` spells is the option. -/
theorem exists_setting_of_writes {spelling : List String} (h : Writes setting value spelling) :
    ∃ first tail attached, spelling = first :: tail ∧
      ofString first = .setting setting attached := by
  cases h with
  | short _ => exact ⟨_, _, none, rfl, ofString_eq_setting_none_iff.2 (.inl rfl)⟩
  | long _ => exact ⟨_, _, none, rfl, ofString_eq_setting_none_iff.2 (.inr rfl)⟩
  | attached hne hequals =>
    exact ⟨_, _, some value, rfl, ofString_eq_setting_some_iff.2 (.attached hne hequals)⟩
  | attachedEquals =>
    exact ⟨_, _, some value, rfl, ofString_eq_setting_some_iff.2 .attachedEquals⟩
  | longEquals => exact ⟨_, _, some value, rfl, ofString_eq_setting_some_iff.2 .longEquals⟩

end Argument

end PigLatin.CommandLine
