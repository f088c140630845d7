import PigLatin.Proofs.Except
import PigLatin.Proofs.Scan
import PigLatin.Proofs.Word
import PigLatin.Statement

/-!
# Statements on their lines

A line of a script should hold one statement. An alias cannot end a statement, nor can the name of
a storage function, which is looked up and not written. The path of a store is written as it is, so
a line keeps to one statement exactly if the path keeps to the quotes around it.
-/

namespace PigLatin

/-- The line is a single statement: every quoted text is closed, and of the code only the last
character is a semicolon. -/
structure IsSingleStatement (line : List Char) : Prop where
  /-- No quoted text is left open. -/
  closed : Mode.code.after line = .code
  /-- There is one semicolon in the code. -/
  count : (Mode.code.visible line).count ';' = 1
  /-- The line ends with a semicolon. -/
  ends : line.getLast? = some ';'

instance (line : List Char) : Decidable (IsSingleStatement line) :=
  decidable_of_iff (Mode.code.after line = .code ∧ (Mode.code.visible line).count ';' = 1 ∧
      line.getLast? = some ';')
    ⟨fun ⟨closed, count, ends⟩ => ⟨closed, count, ends⟩, fun h => ⟨h.closed, h.count, h.ends⟩⟩

/-- With a semicolon after it, text is a single statement exactly if `Mode.after` finds no quoted
text open and `Mode.visible` no semicolon in the code. -/
theorem isSingleStatement_append_iff {cs : List Char} : IsSingleStatement (cs ++ [';']) ↔
    Mode.code.after cs = .code ∧ ';' ∉ Mode.code.visible cs := by
  constructor
  · intro h
    have hclosed : (Mode.code.after cs).next ';' = .code := by simpa using h.closed
    have hafter : Mode.code.after cs = .code := by
      cases hmode : Mode.code.after cs with
      | code => rfl
      | quoted | escaped =>
        rw [hmode] at hclosed
        cases hclosed
    have hcount := h.count
    rw [Mode.visible_append, hafter, List.count_append] at hcount
    exact ⟨hafter, List.count_eq_zero.1 (by simpa [Mode.visible] using hcount)⟩
  · rintro ⟨hafter, hnone⟩
    have hlast : (Mode.code.visible [';']).count ';' = 1 := by decide
    refine ⟨?_, ?_, by simp⟩
    · rw [Mode.after_append, hafter]
      rfl
    · rw [Mode.visible_append, hafter, List.count_append, List.count_eq_zero.2 hnone, hlast]

/-- The text keeps to the quotes around it: a scan that starts behind the first quote is within
quoted text at the end, and meets no semicolon in code on the way there. -/
def IsConfined (cs : List Char) : Prop :=
  Mode.quoted.after cs = .quoted ∧ ';' ∉ Mode.quoted.visible cs

instance (cs : List Char) : Decidable (IsConfined cs) := inferInstanceAs (Decidable (_ ∧ _))

/-- Text that neither quotes anything nor ends a statement. -/
def IsHarmless (cs : List Char) : Prop := '\'' ∉ cs ∧ ';' ∉ cs

instance (cs : List Char) : Decidable (IsHarmless cs) := inferInstanceAs (Decidable (_ ∧ _))

namespace IsHarmless

variable {cs ds : List Char}

theorem append (hcs : IsHarmless cs) (hds : IsHarmless ds) : IsHarmless (cs ++ ds) :=
  ⟨fun h => (List.mem_append.1 h).elim hcs.1 hds.1,
    fun h => (List.mem_append.1 h).elim hcs.2 hds.2⟩

theorem of_isWord (h : IsWord cs) : IsHarmless cs :=
  ⟨h.notMem (by decide), h.notMem (by decide)⟩

/-- A scan that is within quoted text does not get out of it. -/
theorem after_ne_code (h : IsHarmless cs) {mode : Mode} (hmode : mode ≠ .code) :
    mode.after cs ≠ .code := by
  induction cs generalizing mode with
  | nil => exact hmode
  | cons c cs ih =>
    have hc : c ≠ '\'' := fun hc => h.1 (hc ▸ List.mem_cons_self)
    have hnext : mode.next c ≠ .code := by
      cases mode with
      | code => exact absurd rfl hmode
      | quoted =>
        simp only [Mode.next, if_neg hc]
        split <;> simp
      | escaped => simp [Mode.next]
    exact ih ⟨fun hcs => h.1 (List.mem_cons_of_mem _ hcs),
      fun hcs => h.2 (List.mem_cons_of_mem _ hcs)⟩ hnext

end IsHarmless

/-- Between two harmless texts, text between quotes is closed and ends no statement exactly if it
`IsConfined`. -/
theorem isConfined_iff {before cs rest : List Char} (hbefore : IsHarmless before)
    (hrest : IsHarmless rest) :
    Mode.code.after (before ++ '\'' :: (cs ++ '\'' :: rest)) = .code ∧
        ';' ∉ Mode.code.visible (before ++ '\'' :: (cs ++ '\'' :: rest)) ↔ IsConfined cs := by
  have hafter : Mode.code.after ('\'' :: (cs ++ '\'' :: rest)) =
      ((Mode.quoted.after cs).next '\'').after rest := by
    simp [Mode.next]
  have hvisible : Mode.code.visible ('\'' :: (cs ++ '\'' :: rest)) =
      '\'' :: (Mode.quoted.visible cs ++ (Mode.quoted.after cs).visible ('\'' :: rest)) := by
    simp [Mode.visible, Mode.next]
  rw [Mode.after_append, Mode.visible_append, Mode.after_code_of_notMem hbefore.1,
    Mode.visible_code_of_notMem hbefore.1, hafter, hvisible, IsConfined]
  cases Mode.quoted.after cs with
  | quoted =>
    simp [Mode.visible, Mode.next, Mode.after_code_of_notMem hrest.1,
      Mode.visible_code_of_notMem hrest.1, hrest.2, hbefore.2]
  | code | escaped =>
    -- The second quote opens quoted text, or belongs to it, and nothing after it closes it.
    refine iff_of_false (fun h => hrest.after_ne_code ?_ h.1) (by simp)
    simp [Mode.next]

namespace Statement

/-- The path of the statement, if it has one, keeps to the quotes around it. -/
def IsConfined : Statement → Prop
  | .store _ path _ => PigLatin.IsConfined path.text.toList
  | .inspect _ _ => True

theorem isHarmless_head (s : Statement) : IsHarmless s.head.toList := by
  have hverb : IsHarmless s.verb.toList := by
    cases s with
    | store =>
      show IsHarmless "STORE".toList
      decide
    | inspect inspection relation =>
      show IsHarmless inspection.verb.toList
      cases inspection <;> decide
  have hblank : IsHarmless [' '] := by decide
  simpa [head] using (hverb.append hblank).append (.of_isWord s.relation.isWord)

theorem isHarmless_functionClause {resolve : Resolver}
    (hresolve : ∀ name invocation, resolve name = .ok invocation → IsHarmless invocation.toList)
    {function : Option String} {clause : String}
    (h : functionClause resolve function = .ok clause) : IsHarmless clause.toList := by
  cases function with
  | none =>
    cases h
    decide
  | some name =>
    obtain ⟨invocation, hname, rfl⟩ := Except.map_eq_ok_iff.1 h
    have husing : IsHarmless " USING ".toList := by decide
    simpa using husing.append (hresolve name invocation hname)

/-- What `Statement.render` writes is a single statement on its line exactly if it stores to no path
that breaks out of its quotes. -/
theorem isSingleStatement_render_iff {resolve : Resolver}
    (hresolve : ∀ name invocation, resolve name = .ok invocation → IsHarmless invocation.toList)
    {s : Statement} {text : String} (h : s.render resolve = .ok text) :
    IsSingleStatement (text ++ ";").toList ↔ s.IsConfined := by
  have hhead := s.isHarmless_head
  rw [String.toList_append, show ";".toList = [';'] from rfl, isSingleStatement_append_iff]
  cases s with
  | inspect inspection relation =>
    cases h
    rw [Mode.after_code_of_notMem hhead.1, Mode.visible_code_of_notMem hhead.1]
    exact iff_of_true ⟨rfl, hhead.2⟩ trivial
  | store relation path function =>
    obtain ⟨clause, hfunction, rfl⟩ := Except.map_eq_ok_iff.1 h
    have hclause := isHarmless_functionClause hresolve hfunction
    have hbefore := hhead.append (show IsHarmless " INTO ".toList by decide)
    have htext : ((store relation path function).head ++ " INTO '" ++ path.text ++ "'" ++
        clause).toList = ((store relation path function).head.toList ++ " INTO ".toList) ++
          '\'' :: (path.text.toList ++ '\'' :: clause.toList) := by
      simp
    rw [htext]
    exact isConfined_iff hbefore hclause

end Statement

end PigLatin
