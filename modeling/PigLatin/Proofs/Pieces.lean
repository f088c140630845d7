import PigLatin.Proofs.Chararray

/-!
# Pieces of code

Code can be cut wherever a separator stands in it, outside of quoted text and of parentheses. Text
without such a separator is a single piece, and pieces that were joined by separators are found
again.
-/

namespace PigLatin

/-- The pieces of the characters after a place, cut at the separators that stand at the outermost
level of the code. -/
def Place.pieces (separator : Char) : Place → List Char → List (List Char)
  | _, [] => [[]]
  | p, c :: cs =>
    if p = start ∧ c = separator then [] :: pieces separator p cs
    else
      match p.next? c with
      | none => [[]]
      | some q => (pieces separator q cs).modifyHead (c :: ·)

namespace Place

variable {separator : Char}

theorem pieces_cons {p q : Place} {c : Char} (hc : ¬(p = start ∧ c = separator))
    (hq : p.next? c = some q) (cs : List Char) :
    p.pieces separator (c :: cs) = (q.pieces separator cs).modifyHead (c :: ·) := by
  simp only [pieces, if_neg hc, hq]

/-- Characters without a cut lengthen the first piece of what follows them. -/
theorem pieces_append {p q : Place} {cs : List Char} (hq : p.after? cs = some q)
    (hcs : p.pieces separator cs = [cs]) (ds : List Char) :
    p.pieces separator (cs ++ ds) = (q.pieces separator ds).modifyHead (cs ++ ·) := by
  induction cs generalizing p with
  | nil =>
    cases hq
    exact (congrFun List.modifyHead_id _).symm
  | cons c cs ih =>
    obtain ⟨r, hr, hq⟩ := Option.bind_eq_some_iff.1 hq
    have hc : ¬(p = start ∧ c = separator) := by
      intro hc
      rw [pieces, if_pos hc] at hcs
      cases hcs
    rw [pieces_cons hc hr] at hcs
    have hrest : r.pieces separator cs = [cs] := by
      cases hpieces : r.pieces separator cs with
      | nil => rw [hpieces] at hcs; cases hcs
      | cons first rest => rw [hpieces] at hcs; cases hcs; rfl
    rw [List.cons_append, pieces_cons hc hr, ih hq hrest, List.modifyHead_modifyHead]
    rfl

/-- `pieces` cuts nothing between parentheses. -/
theorem pieces_deeper {p q : Place} {cs : List Char} (h : p.after? cs = some q) :
    pieces separator ⟨p.mode, p.depth + 1⟩ cs = [cs] := by
  induction cs generalizing p with
  | nil => rfl
  | cons c cs ih =>
    obtain ⟨r, hr, hq⟩ := Option.bind_eq_some_iff.1 h
    have hc : ¬((⟨p.mode, p.depth + 1⟩ : Place) = start ∧ c = separator) := by
      rintro ⟨hstart, -⟩
      exact absurd (congrArg Place.depth hstart) (Nat.succ_ne_zero _)
    rw [pieces_cons hc (next?_deeper hr 1), ih hq]
    rfl

end Place

/-- Closed text that is not cut at a separator. -/
structure IsPiece (separator : Char) (cs : List Char) : Prop where
  closed : Closed cs
  pieces_eq : Place.start.pieces separator cs = [cs]

namespace IsPiece

variable {separator : Char} {cs ds : List Char}

theorem append (hcs : IsPiece separator cs) (hds : IsPiece separator ds) :
    IsPiece separator (cs ++ ds) where
  closed := hcs.closed.append hds.closed
  pieces_eq := by
    rw [Place.pieces_append hcs.closed hcs.pieces_eq, hds.pieces_eq]
    rfl

/-- A piece is cut off at the separator after it. -/
theorem pieces_append_cons (h : IsPiece separator cs) (ds : List Char) :
    Place.start.pieces separator (cs ++ separator :: ds) =
      cs :: Place.start.pieces separator ds := by
  rw [Place.pieces_append h.closed h.pieces_eq, Place.pieces, if_pos ⟨rfl, rfl⟩]
  simp

/-- Characters that neither quote nor nest nor separate are not cut. -/
theorem of_plain (h : Avoids cs ['\'', '(', ')', separator]) : IsPiece separator cs where
  closed := .of_plain fun c hc => by
    have hplain := h c hc
    simp_all
  pieces_eq := by
    induction cs with
    | nil => rfl
    | cons c cs ih =>
      obtain ⟨hc, hcs⟩ := List.forall_mem_cons.1 h
      obtain ⟨hquote, hopen, hclose, hseparator⟩ :
          c ≠ '\'' ∧ c ≠ '(' ∧ c ≠ ')' ∧ c ≠ separator := by
        simpa using hc
      have hnext : Place.start.next? c = some Place.start := by
        simp [Place.next?, Place.start, Mode.next, hopen, hclose, hquote]
      rw [Place.pieces_cons (fun hcut => hseparator hcut.2) hnext, ih hcs]
      rfl

/-- Words are not cut. -/
theorem of_isWord (hseparator : separator ∈ punctuation) (h : IsWord cs) :
    IsPiece separator cs := by
  refine .of_plain fun c hc hplain => h c hc ?_
  simp only [List.mem_cons, List.not_mem_nil, or_false] at hplain
  rcases hplain with rfl | rfl | rfl | rfl
  · decide
  · decide
  · decide
  · exact hseparator

/-- What stands between parentheses is not cut. -/
theorem parens (hseparator : separator ≠ '(') (h : Closed cs) :
    IsPiece separator ('(' :: cs ++ [')']) where
  closed := h.parens
  pieces_eq := by
    have hopen : Place.start.next? '(' = some ⟨.code, 1⟩ := rfl
    have hcut : ¬(Place.start = Place.start ∧ '(' = separator) := fun hcut => hseparator hcut.2.symm
    have hend : Place.pieces separator ⟨.code, 1⟩ [')'] = [[')']] := by
      simp [Place.pieces, Place.next?, Place.start]
    rw [List.cons_append, Place.pieces_cons hcut hopen,
      Place.pieces_append (h.after? 1) (Place.pieces_deeper h), hend]
    rfl

/-- Quoted text is not cut. -/
theorem quote (hseparator : separator ≠ '\'') (cs : List Char) :
    IsPiece separator (Chararray.quote cs) where
  closed := (Chararray.sound_quote cs).closed
  pieces_eq := by
    have hopen : Place.start.next? '\'' = some ⟨.quoted, 0⟩ := rfl
    have hcut : ¬(Place.start = Place.start ∧ '\'' = separator) :=
      fun hcut => hseparator hcut.2.symm
    have hescape : ∀ c, Place.pieces separator ⟨.quoted, 0⟩ (Chararray.escape c) =
        [Chararray.escape c] := by
      intro c
      unfold Chararray.escape
      split <;> simp_all [Place.pieces, Place.next?, Place.start, Mode.next]
    have hinside : Place.pieces separator ⟨.quoted, 0⟩ (cs.flatMap Chararray.escape) =
        [cs.flatMap Chararray.escape] := by
      induction cs with
      | nil => rfl
      | cons c cs ih =>
        rw [List.flatMap_cons, Place.pieces_append (Chararray.after?_escape c 0) (hescape c), ih]
        rfl
    have hend : Place.pieces separator ⟨.quoted, 0⟩ ['\''] = [['\'']] := by
      simp [Place.pieces, Place.next?, Place.start, Mode.next]
    rw [Chararray.quote, List.cons_append, Place.pieces_cons hcut hopen,
      Place.pieces_append (Chararray.after?_flatMap_escape cs 0) hinside, hend]
    rfl

end IsPiece

end PigLatin
