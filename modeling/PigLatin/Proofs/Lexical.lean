import PigLatin.Proofs.Scan
import PigLatin.Proofs.Word

/-!
# Lexically sound text

Text is lexically sound if a script can hold it without harm to what stands around it: it leaves
nothing open, it starts no comment and it stays on its line. Sound texts can be put one after the
other as long as no comment starts where they meet.
-/

namespace PigLatin

/-- Two characters that start a comment if they stand side by side. -/
def OpensComment (c d : Char) : Prop := (c = '-' ∧ d = '-') ∨ (c = '/' ∧ d = '*')

instance (c d : Char) : Decidable (OpensComment c d) := inferInstanceAs (Decidable (_ ∨ _))

/-- Neither of the two pairs of characters that start a comment occurs. -/
def CommentFree (cs : List Char) : Prop := ¬['-', '-'] <:+: cs ∧ ¬['/', '*'] <:+: cs

theorem commentFree_iff_isChain {cs : List Char} :
    CommentFree cs ↔ cs.IsChain fun c d => ¬OpensComment c d := by
  constructor
  · rintro ⟨hline, hblock⟩
    refine List.isChain_iff_forall_rel_of_append_cons_cons.2 ?_
    rintro c d before after rfl (⟨rfl, rfl⟩ | ⟨rfl, rfl⟩)
    · exact hline ⟨before, after, by simp⟩
    · exact hblock ⟨before, after, by simp⟩
  · intro h
    constructor
    · intro hline
      simpa [OpensComment] using h.infix hline
    · intro hblock
      simpa [OpensComment] using h.infix hblock

instance (cs : List Char) : Decidable (CommentFree cs) :=
  decidable_of_iff (cs.IsChain fun c d => ¬OpensComment c d) commentFree_iff_isChain.symm

/-- Text that does no harm to the script around it. -/
structure Sound (cs : List Char) : Prop where
  /-- No quoted text and no parenthesis is left open, and none is closed that was not opened. -/
  closed : Closed cs
  /-- No comment starts in the code. -/
  commentFree : CommentFree (Mode.code.visible cs)
  /-- Nothing breaks the line. -/
  oneLine : '\n' ∉ cs

instance (cs : List Char) : Decidable (Sound cs) :=
  decidable_of_iff (Closed cs ∧ CommentFree (Mode.code.visible cs) ∧ '\n' ∉ cs)
    ⟨fun ⟨closed, commentFree, oneLine⟩ => ⟨closed, commentFree, oneLine⟩,
      fun h => ⟨h.closed, h.commentFree, h.oneLine⟩⟩

namespace Sound

variable {cs ds : List Char}

/-- Texts that are `Sound` can be joined unless the join starts a comment. -/
theorem append (hcs : Sound cs) (hds : Sound ds)
    (hjoin : ∀ c ∈ cs.getLast?, ∀ d ∈ ds.head?, ¬OpensComment c d) : Sound (cs ++ ds) where
  closed := hcs.closed.append hds.closed
  commentFree := by
    have hlast : (Mode.code.visible cs).getLast? = cs.getLast? :=
      Mode.getLast?_visible hcs.closed.after
    rw [Mode.visible_append, hcs.closed.after, commentFree_iff_isChain]
    refine List.isChain_append.2 ⟨commentFree_iff_isChain.1 hcs.commentFree,
      commentFree_iff_isChain.1 hds.commentFree, ?_⟩
    rwa [hlast, Mode.head?_visible_code]
  oneLine := fun h => (List.mem_append.1 h).elim hcs.oneLine hds.oneLine

/-- What starts with neither a minus sign nor an asterisk can follow any `Sound` text. -/
theorem append_of_head (hcs : Sound cs) (hds : Sound ds)
    (hhead : ∀ d ∈ ds.head?, d ≠ '-' ∧ d ≠ '*') : Sound (cs ++ ds) := by
  refine hcs.append hds fun c _ d hd => ?_
  rintro (⟨-, rfl⟩ | ⟨-, rfl⟩)
  · exact (hhead _ hd).1 rfl
  · exact (hhead _ hd).2 rfl

/-- Any `Sound` text can follow what ends with neither a minus sign nor a slash. -/
theorem append_of_last (hcs : Sound cs) (hds : Sound ds)
    (hlast : ∀ c ∈ cs.getLast?, c ≠ '-' ∧ c ≠ '/') : Sound (cs ++ ds) := by
  refine hcs.append hds fun c hc d _ => ?_
  rintro (⟨rfl, -⟩ | ⟨rfl, -⟩)
  · exact (hlast _ hc).1 rfl
  · exact (hlast _ hc).2 rfl

/-- Text without quotes is sound if it is all that as it stands. -/
theorem of_notMem_quote (hquote : '\'' ∉ cs) (hclosed : Closed cs) (hcomment : CommentFree cs)
    (hline : '\n' ∉ cs) : Sound cs :=
  ⟨hclosed, by rwa [Mode.visible_code_of_notMem hquote], hline⟩

theorem of_isWord (h : IsWord cs) : Sound cs := by
  refine of_notMem_quote h.quote_notMem (.of_plain fun c hc => ?_) ⟨?_, ?_⟩
    (h.notMem (by decide))
  · refine ⟨?_, ?_, ?_⟩ <;> rintro rfl <;> exact h _ hc (by decide)
  · exact fun hline => h.notMem (c := '-') (by decide) (hline.subset List.mem_cons_self)
  · exact fun hblock => h.notMem (c := '*') (by decide) (hblock.subset (by simp))

/-- Sound texts can be joined by a blank. -/
theorem append_blank (hcs : Sound cs) (hds : Sound ds) : Sound (cs ++ ' ' :: ds) := by
  have hblank : Sound [' '] := by decide
  exact hcs.append_of_head (hblank.append_of_last hds (by simp)) (by simp)

/-- Sound text can be put between parentheses. -/
theorem parens (h : Sound cs) : Sound ('(' :: cs ++ [')']) where
  closed := h.closed.parens
  commentFree := by
    have hvisible : Mode.code.visible ('(' :: cs ++ [')']) =
        ['('] ++ (Mode.code.visible cs ++ [')']) := by
      simp [Mode.visible, Mode.next, h.closed.after]
    rw [hvisible, commentFree_iff_isChain]
    refine .append (by simp) (.append (commentFree_iff_isChain.1 h.commentFree) (by simp) ?_) ?_
    · simp [OpensComment]
    · simp [OpensComment]
  oneLine := by simpa using h.oneLine

end Sound

end PigLatin
