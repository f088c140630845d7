import PigLatin.Proofs.Lexical

/-!
# Quoted text

Text between single quotes neither ends early nor runs on: of its characters only the two quotes
around it are code, and a reader that undoes the escapes gets back the text and whatever follows it.
-/

namespace PigLatin.Chararray

/-! ## Scanning -/

/-- No character that `escape` writes ends quoted text. -/
theorem after_escape (c : Char) : Mode.quoted.after (escape c) = .quoted := by
  unfold escape
  split <;> simp_all [Mode.next]

theorem after?_escape (c : Char) (d : Nat) :
    Place.after? ⟨.quoted, d⟩ (escape c) = some ⟨.quoted, d⟩ := by
  unfold escape
  split <;> simp_all [Place.next?, Mode.next]

theorem visible_escape (c : Char) : Mode.quoted.visible (escape c) = [] := by
  unfold escape
  split <;> simp_all [Mode.visible, Mode.next]

/-- `escape` writes line feeds and tabs by letters. -/
theorem notMem_escape (c : Char) : '\n' ∉ escape c ∧ '\t' ∉ escape c := by
  unfold escape
  split <;> simp_all [eq_comm]

theorem notMem_quote (cs : List Char) : '\n' ∉ quote cs ∧ '\t' ∉ quote cs := by
  simp [quote, notMem_escape]

theorem after?_flatMap_escape (cs : List Char) (d : Nat) :
    Place.after? ⟨.quoted, d⟩ (cs.flatMap escape) = some ⟨.quoted, d⟩ := by
  induction cs with
  | nil => rfl
  | cons c cs ih => simp [after?_escape, ih]

theorem visible_flatMap_escape (cs : List Char) :
    Mode.quoted.visible (cs.flatMap escape) = [] := by
  induction cs with
  | nil => rfl
  | cons c cs ih => simp [visible_escape, after_escape, ih]

/-- What `quote` writes is `Sound` whatever it says: of its characters only the quotes around it are
code. -/
theorem sound_quote (cs : List Char) : Sound (quote cs) where
  closed := by
    have hinside := after?_flatMap_escape cs 0
    simp [Closed, quote, Place.start, Place.next?, Mode.next, hinside]
  commentFree := by
    have hafter : Mode.quoted.after (cs.flatMap escape) = .quoted :=
      (Place.mode_of_after? (after?_flatMap_escape cs 0)).symm
    have hvisible : Mode.code.visible (quote cs) = ['\'', '\''] := by
      simp [quote, Mode.visible, Mode.next, visible_flatMap_escape, hafter]
    simp [hvisible, commentFree_iff_isChain, OpensComment]
  oneLine := (notMem_quote cs).1

/-! ## Reading -/

/-- The character that is meant by a character after a backslash. -/
def unescape? : Char → Option Char
  | '\'' => some '\''
  | '\\' => some '\\'
  | 'n' => some '\n'
  | 't' => some '\t'
  | _ => none

/-- The text up to the quote that ends it, and the characters after that quote. -/
def untilQuote? : List Char → Option (List Char × List Char)
  | [] => none
  | '\'' :: rest => some ([], rest)
  | '\\' :: c :: cs =>
    (unescape? c).bind fun c => (untilQuote? cs).map fun (text, rest) => (c :: text, rest)
  | c :: cs => (untilQuote? cs).map fun (text, rest) => (c :: text, rest)

/-- The text between the quotes at the start, and the characters after them. -/
def unquote? : List Char → Option (List Char × List Char)
  | '\'' :: cs => untilQuote? cs
  | _ => none

/-- `untilQuote?` reads an escaped character as the character, wherever it stands. -/
theorem untilQuote?_escape_append (c : Char) (cs : List Char) :
    untilQuote? (escape c ++ cs) = (untilQuote? cs).map fun (text, rest) => (c :: text, rest) := by
  unfold escape
  split
  · simp [untilQuote?, unescape?]
  · simp [untilQuote?, unescape?]
  · simp [untilQuote?, unescape?]
  · simp [untilQuote?, unescape?]
  · next hquote hbackslash _ _ =>
    rw [List.singleton_append]
    exact untilQuote?.eq_4 c cs hquote (fun _ _ h _ => hbackslash h)

theorem untilQuote?_flatMap_escape (cs rest : List Char) :
    untilQuote? (cs.flatMap escape ++ '\'' :: rest) = some (cs, rest) := by
  induction cs with
  | nil => rfl
  | cons c cs ih =>
    rw [List.flatMap_cons, List.append_assoc, untilQuote?_escape_append, ih, Option.map_some]

/-- `unquote?` undoes `quote` in front of whatever follows it. -/
theorem unquote?_quote_append (cs rest : List Char) :
    unquote? (quote cs ++ rest) = some (cs, rest) := by
  simp [quote, unquote?, untilQuote?_flatMap_escape]

end PigLatin.Chararray
