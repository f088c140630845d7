import PigLatin.Proofs.Statement

/-!
# What a written statement says

A statement can be told from its text. The verb ends at the first blank and the alias at the second,
because neither holds one. Only the path of a store is written without any escapes: it ends at the
next quote if it holds none itself, and whatever else the path holds, it ends at the last quote if
nothing comes after it.
-/

namespace PigLatin

theorem Alias.text_inj {a b : Alias} : a.text = b.text ↔ a = b := by
  constructor
  · intro h
    cases a
    cases b
    cases h
    rfl
  · rintro rfl
    rfl

theorem StorePath.text_inj {p q : StorePath} : p.text = q.text ↔ p = q := by
  constructor
  · intro h
    cases p
    cases q
    cases h
    rfl
  · rintro rfl
    rfl

theorem Inspection.verb_inj {a b : Inspection} : a.verb = b.verb ↔ a = b := by
  cases a <;> cases b <;> decide

/-- Characters that do not hold a delimiter are found again before it. -/
theorem append_delimiter_inj {delimiter : Char} {cs ds rest rest' : List Char}
    (hcs : delimiter ∉ cs) (hds : delimiter ∉ ds) :
    cs ++ delimiter :: rest = ds ++ delimiter :: rest' ↔ cs = ds ∧ rest = rest' := by
  constructor
  · intro h
    have htake := congrArg (List.takeWhile (· ≠ delimiter)) h
    have hdrop := congrArg (List.dropWhile (· ≠ delimiter)) h
    have hne : ∀ {es : List Char}, delimiter ∉ es → ∀ c ∈ es, decide (c ≠ delimiter) = true := by
      intro es hes c hc
      have : c ≠ delimiter := fun heq => hes (heq ▸ hc)
      simpa using this
    rw [List.takeWhile_append_of_pos (hne hcs), List.takeWhile_append_of_pos (hne hds)] at htake
    rw [List.dropWhile_append_of_pos (hne hcs), List.dropWhile_append_of_pos (hne hds)] at hdrop
    exact ⟨by simpa using htake, by simpa using hdrop⟩
  · rintro ⟨rfl, rfl⟩
    rfl

namespace Statement

variable {s s' : Statement} {resolve resolve' : Resolver} {text : String}

/-! ## The head -/

theorem notMem_verb (s : Statement) : ' ' ∉ s.verb.toList := by
  cases s with
  | store =>
    show ' ' ∉ "STORE".toList
    decide
  | inspect inspection relation =>
    show ' ' ∉ inspection.verb.toList
    cases inspection <;> decide

theorem eq_inspect_of_verb {inspection : Inspection} {relation : Alias}
    (hverb : s.verb = inspection.verb) (hrelation : s.relation = relation) :
    s = .inspect inspection relation := by
  cases s with
  | store _ path function =>
    have hstore : "STORE" = inspection.verb := hverb
    cases inspection <;> exact absurd hstore (by decide)
  | inspect inspection' relation' =>
    obtain rfl : inspection' = inspection := Inspection.verb_inj.1 hverb
    obtain rfl : relation' = relation := hrelation
    rfl

theorem text_of_render_inspect {inspection : Inspection} {relation : Alias}
    (h : (inspect inspection relation).render resolve = .ok text) :
    text = (inspect inspection relation).head := by
  cases h
  rfl

/-- `render` goes on behind the `head` of a store with the path between quotes and the storage
function. -/
theorem toList_render_store {relation : Alias} {path : StorePath} {function : Option String}
    (h : (store relation path function).render resolve = .ok text) :
    ∃ clause, functionClause resolve function = .ok clause ∧
      text.toList = (store relation path function).head.toList ++
        (" INTO '".toList ++ (path.text.toList ++ '\'' :: clause.toList)) := by
  obtain ⟨clause, hclause, rfl⟩ := Except.map_eq_ok_iff.1 h
  exact ⟨clause, hclause, by simp⟩

theorem exists_render_eq_head_append (h : s.render resolve = .ok text) :
    ∃ rest, text = s.head ++ rest := by
  cases s with
  | store relation path function =>
    obtain ⟨clause, -, rfl⟩ := Except.map_eq_ok_iff.1 h
    exact ⟨" INTO '" ++ path.text ++ "'" ++ clause, by simp [String.append_assoc]⟩
  | inspect inspection relation =>
    exact ⟨"", by rw [text_of_render_inspect h, String.append_empty]⟩

/-- With a blank after it, a statement is its `verb`, its alias and something else, with a blank
after each of the two words. -/
theorem exists_words (h : s.render resolve = .ok text) : ∃ rest, text.toList ++ [' '] =
    s.verb.toList ++ ' ' :: (s.relation.text.toList ++ ' ' :: rest) := by
  cases s with
  | store relation path function =>
    obtain ⟨clause, -, htext⟩ := toList_render_store h
    refine ⟨"INTO '".toList ++ (path.text.toList ++ '\'' :: clause.toList) ++ [' '], ?_⟩
    rw [htext]
    simp [head]
  | inspect inspection relation =>
    refine ⟨[], ?_⟩
    rw [text_of_render_inspect h]
    simp [head]

theorem verb_and_relation_of_render (h : s.render resolve = .ok text)
    (h' : s'.render resolve' = .ok text) : s.verb = s'.verb ∧ s.relation = s'.relation := by
  obtain ⟨rest, hwords⟩ := exists_words h
  obtain ⟨rest', hwords'⟩ := exists_words h'
  have heq := hwords.symm.trans hwords'
  obtain ⟨hverb, heq⟩ := (append_delimiter_inj s.notMem_verb s'.notMem_verb).1 heq
  have hblank : ∀ name : Alias, ' ' ∉ name.text.toList := fun name =>
    name.isWord.notMem (by decide)
  obtain ⟨hrelation, -⟩ := (append_delimiter_inj (hblank _) (hblank _)).1 heq
  exact ⟨String.toList_inj.1 hverb, Alias.text_inj.1 (String.toList_inj.1 hrelation)⟩

/-! ## The path and the storage function -/

/-- `functionClause` tells whether there is a storage function, and its invocation. -/
theorem map_resolve_of_functionClause {function function' : Option String} {clause : String}
    (h : functionClause resolve function = .ok clause)
    (h' : functionClause resolve' function' = .ok clause) :
    function.map resolve = function'.map resolve' := by
  -- A clause that is there is not empty.
  have hne : ∀ invocation : String, " USING " ++ invocation ≠ "" := by
    intro invocation heq
    have hlist := congrArg String.toList heq
    simp at hlist
  cases function with
  | none =>
    cases h
    cases function' with
    | none => rfl
    | some name' =>
      obtain ⟨invocation, -, heq⟩ := Except.map_eq_ok_iff.1 h'
      exact absurd heq (hne invocation)
  | some name =>
    obtain ⟨invocation, hname, rfl⟩ := Except.map_eq_ok_iff.1 h
    cases function' with
    | none =>
      have heq : "" = " USING " ++ invocation := Except.ok.inj h'
      exact absurd heq.symm (hne invocation)
    | some name' =>
      obtain ⟨invocation', hname', heq⟩ := Except.map_eq_ok_iff.1 h'
      have hinvocation : invocation' = invocation := by
        have hlist := congrArg String.toList heq
        simpa [String.toList_inj] using hlist
      simp only [Option.map_some, hname, hname', hinvocation]

section

variable {relation : Alias} {path path' : StorePath} {function function' : Option String}

/-- Two stores of one relation with the same text have the same text behind the first quote. -/
theorem eq_behind_quote (h : (store relation path function).render resolve = .ok text)
    (h' : (store relation path' function').render resolve' = .ok text) :
    ∃ clause clause', functionClause resolve function = .ok clause ∧
      functionClause resolve' function' = .ok clause' ∧
      path.text.toList ++ '\'' :: clause.toList = path'.text.toList ++ '\'' :: clause'.toList := by
  obtain ⟨clause, hclause, htext⟩ := toList_render_store h
  obtain ⟨clause', hclause', htext'⟩ := toList_render_store h'
  have heq := htext.symm.trans htext'
  exact ⟨clause, clause', hclause, hclause',
    List.append_cancel_left (List.append_cancel_left heq)⟩

/-- Without a storage function, a path ends at the last quote. -/
theorem path_of_render_of_none (h : (store relation path none).render resolve = .ok text)
    (h' : (store relation path' none).render resolve' = .ok text) : path = path' := by
  obtain ⟨clause, clause', hclause, hclause', heq⟩ := eq_behind_quote h h'
  cases hclause
  cases hclause'
  exact StorePath.text_inj.1 (String.toList_inj.1 (List.append_cancel_right heq))

/-- A path without quotes ends at the quote after it. -/
theorem path_and_function_of_render (hpath : '\'' ∉ path.text.toList)
    (hpath' : '\'' ∉ path'.text.toList)
    (h : (store relation path function).render resolve = .ok text)
    (h' : (store relation path' function').render resolve' = .ok text) :
    path = path' ∧ function.map resolve = function'.map resolve' := by
  obtain ⟨clause, clause', hclause, hclause', heq⟩ := eq_behind_quote h h'
  obtain ⟨htext, hrest⟩ := (append_delimiter_inj hpath hpath').1 heq
  obtain rfl := String.toList_inj.1 hrest
  exact ⟨StorePath.text_inj.1 (String.toList_inj.1 htext),
    map_resolve_of_functionClause hclause hclause'⟩

end

/-- Statements with the same text have the same `verb` and the same alias, with which the text
starts, so they are of one kind. Two stores have the same path if there is no storage function, and
if no quote is in the paths, they have the same path and the same invocation, or none at all. -/
theorem eq_of_render_eq (h : s.render resolve = .ok text) (h' : s'.render resolve' = .ok text) :
    s.verb = s'.verb ∧ s.relation = s'.relation ∧
      (∃ rest, text = s.head ++ rest) ∧ (∃ rest, text = s'.head ++ rest) ∧
      (∀ inspection relation, s = .inspect inspection relation → s' = s) ∧
      ∀ relation relation' path path' function function',
        s = .store relation path function → s' = .store relation' path' function' →
        (function = none → function' = none → path = path') ∧
          ('\'' ∉ path.text.toList → '\'' ∉ path'.text.toList →
            path = path' ∧ function.map resolve = function'.map resolve') := by
  obtain ⟨hverb, hrelation⟩ := verb_and_relation_of_render h h'
  refine ⟨hverb, hrelation, exists_render_eq_head_append h, exists_render_eq_head_append h', ?_, ?_⟩
  · rintro inspection relation rfl
    exact eq_inspect_of_verb hverb.symm hrelation.symm
  · rintro relation relation' path path' function function' rfl rfl
    obtain rfl : relation = relation' := hrelation
    refine ⟨?_, fun hpath hpath' => path_and_function_of_render hpath hpath' h h'⟩
    rintro rfl rfl
    exact path_of_render_of_none h h'

/-- Two stores whose functions have different names and stand for the same invocation, which has
quotes in it. -/
theorem eq_of_render_eq_gz :
    let relation : Alias := ⟨"R", by decide +kernel⟩
    let path : StorePath := ⟨"/o; u", by decide +kernel⟩
    let resolve : Resolver := fun _ => .ok "Gz('x')"
    let resolve' : Resolver := fun name => .ok (name ++ "('x')")
    (store relation path (some "gz")).render resolve =
        .ok "STORE R INTO '/o; u' USING Gz('x')" ∧
      (store relation path (some "Gz")).render resolve' =
        .ok "STORE R INTO '/o; u' USING Gz('x')" ∧
      (some "gz").map resolve = (some "Gz").map resolve' := by
  intro relation path resolve resolve'
  have hgz : (store relation path (some "gz")).render resolve =
      .ok "STORE R INTO '/o; u' USING Gz('x')" := by decide +kernel
  have hgz' : (store relation path (some "Gz")).render resolve' =
      .ok "STORE R INTO '/o; u' USING Gz('x')" := by decide +kernel
  obtain ⟨-, -, -, -, -, hstores⟩ := eq_of_render_eq hgz hgz'
  obtain ⟨-, hunquoted⟩ := hstores _ _ _ _ _ _ rfl rfl
  have hpath : '\'' ∉ path.text.toList := by decide
  exact ⟨hgz, hgz', (hunquoted hpath hpath).2⟩

/-- With quotes in it, a path can be read as a shorter one with a storage function. -/
example :
    let relation : Alias := ⟨"R", by decide +kernel⟩
    let resolve : Resolver := fun _ => .ok "F('b'"
    (store relation ⟨"a' USING F('b", by decide +kernel⟩ none).render resolve =
      (store relation ⟨"a", by decide +kernel⟩ (some "f")).render resolve := by
  decide +kernel

end Statement

end PigLatin
