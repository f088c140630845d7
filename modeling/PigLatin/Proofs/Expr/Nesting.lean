import PigLatin.Proofs.Expr.Sound

/-!
# Where nodes stand in a written expression

Each node of an expression stands somewhere in the written form of the whole. A compound node that
is the operand of another one stands there between parentheses, and a scan of the whole text pairs
exactly these two.
-/

namespace PigLatin.Expr

/-- The characters directly before an operand: a parenthesis unless the operand is simple. -/
def opening (e : Expr) : List Char := if e.isSimple then [] else ['(']

/-- The characters directly after an operand. -/
def closing (e : Expr) : List Char := if e.isSimple then [] else [')']

/-- A node, the text it puts before one of its operands, the operand, and the text it puts after
it. -/
inductive HasOperand : Expr → List Char → Expr → List Char → Prop where
  | suffixed (operand : Expr) (op : OperatorText) (override : Option DataType) :
      HasOperand (suffixed operand op override) [] operand (' ' :: op.text.toList)
  | prefixed (op : OperatorText) (operand : Expr) (override : Option DataType) :
      HasOperand (prefixed op operand override)
        (op.text.toList ++ if op.endsInWord then [' '] else []) operand []
  | left (left : Expr) (op : BinaryOperator) (right : Expr) (override : Option DataType) :
      HasOperand (binary left op right override) []
        left (' ' :: (op.symbol.toList ++ ' ' :: right.parenthesized.toList))
  | right (left : Expr) (op : BinaryOperator) (right : Expr) (override : Option DataType) :
      HasOperand (binary left op right override)
        (left.parenthesized.toList ++ ' ' :: (op.symbol.toList ++ [' '])) right []

/-- A node at any depth of an expression, with the text of the expression before and after the
node. -/
inductive Occurs (root : Expr) : List Char → Expr → List Char → Prop where
  | root : Occurs root [] root []
  | operand {before after pre post : List Char} {node e : Expr} (h : Occurs root before node after)
      (hoperand : HasOperand node pre e post) :
      Occurs root (before ++ (pre ++ e.opening)) e (e.closing ++ post ++ after)
  | argument {before after : List Char} {function : FunctionName} {es rest : List Expr} {e : Expr}
      {override : Option DataType}
      (h : Occurs root before (call function (es ++ e :: rest) override) after) :
      Occurs root
        (before ++ (function.text.toList ++ '(' ::
          es.flatMap fun e => e.render.toList ++ [',', ' ']))
        e ((rest.flatMap fun e => ',' :: ' ' :: e.render.toList) ++ ')' :: after)

theorem toList_parenthesized_eq (e : Expr) :
    e.parenthesized.toList = e.opening ++ e.render.toList ++ e.closing := by
  rw [toList_parenthesized, opening, closing]
  split <;> simp

theorem HasOperand.render_eq {node e : Expr} {pre post : List Char}
    (h : HasOperand node pre e post) :
    node.render.toList = pre ++ e.parenthesized.toList ++ post := by
  cases h <;> simp

/-- What a node puts before an operand is `Closed`, so the operand starts in the code. -/
theorem HasOperand.closed {node e : Expr} {pre post : List Char}
    (h : HasOperand node pre e post) (hclean : node.HasCleanOperators) : Closed pre := by
  have hblank : Closed [' '] := by decide
  cases h with
  | suffixed | left => exact .nil
  | prefixed op operand override =>
    cases hclean with
    | prefixed _ _ hop =>
      refine hop.balanced.append ?_
      split
      · exact hblank
      · exact .nil
  | right left op right override =>
    cases hclean with
    | binary _ _ hleft _ =>
      exact (sound_parenthesized (sound_render hleft)).closed.append
        (hblank.append ((sound_symbol op).closed.append hblank))

theorem HasOperand.hasCleanOperators {node e : Expr} {pre post : List Char}
    (h : HasOperand node pre e post) (hclean : node.HasCleanOperators) :
    e.HasCleanOperators := by
  cases h with
  | suffixed => cases hclean with | suffixed _ hoperand _ => exact hoperand
  | prefixed => cases hclean with | prefixed _ hoperand _ => exact hoperand
  | left => cases hclean with | binary _ _ hleft _ => exact hleft
  | right => cases hclean with | binary _ _ _ hright => exact hright

theorem closed_separated {es : List Expr} (h : ∀ e ∈ es, Sound e.render.toList) :
    Closed (es.flatMap fun e => e.render.toList ++ [',', ' ']) := by
  induction es with
  | nil => exact .nil
  | cons e es ih =>
    obtain ⟨he, hes⟩ := List.forall_mem_cons.1 h
    rw [List.flatMap_cons]
    exact (he.closed.append (by decide)).append (ih hes)

/-- Behind what is `Closed`, the scan is still in the code if it was there before. -/
theorem exists_after?_append {before cs : List Char} {d : Nat} (hcs : Closed cs)
    (h : Place.start.after? before = some ⟨.code, d⟩) :
    Place.start.after? (before ++ cs) = some ⟨.code, d⟩ := by
  rw [Place.after?_append, h, Option.bind_some, hcs.after?]

/-- The text of a node that `Occurs` at any depth is part of the whole text. -/
theorem Occurs.render_eq {root node : Expr} {before after : List Char}
    (h : Occurs root before node after) :
    root.render.toList = before ++ node.render.toList ++ after := by
  induction h with
  | root => simp
  | operand _ hoperand ih =>
    rw [ih, hoperand.render_eq, toList_parenthesized_eq]
    simp
  | argument _ ih =>
    rw [ih, toList_render_call, argumentChars_append_cons]
    simp

/-- A node that `Occurs` at any depth is clean, and the scan from `Place.start` reaches it in the
code. -/
theorem Occurs.spec {root node : Expr} {before after : List Char}
    (h : Occurs root before node after) (hclean : root.HasCleanOperators) :
    node.HasCleanOperators ∧ ∃ d, Place.start.after? before = some ⟨.code, d⟩ := by
  induction h with
  | root => exact ⟨hclean, 0, rfl⟩
  | @operand before after pre post node e _ hoperand ih =>
    obtain ⟨hnode, d, hd⟩ := ih
    refine ⟨hoperand.hasCleanOperators hnode, ?_⟩
    have hpre := exists_after?_append (hoperand.closed hnode) hd
    rw [← List.append_assoc]
    unfold opening
    split
    · exact ⟨d, by rw [List.append_nil, hpre]⟩
    · exact ⟨d + 1, by rw [Place.after?_append, hpre]; rfl⟩
  | @argument before after function es rest e override _ ih =>
    obtain ⟨hnode, d, hd⟩ := ih
    cases hnode with
    | call _ _ harguments =>
      refine ⟨harguments e (by simp), d + 1, ?_⟩
      have hfunction : Closed function.text.toList := (Sound.of_isWord function.isWord).closed
      have hes := closed_separated fun e he =>
        sound_render (harguments e (List.mem_append_left _ he))
      rw [← List.append_assoc, Place.after?_append, exists_after?_append hfunction hd]
      simpa [Place.next?] using hes.after? (d + 1)

/-- Whatever an expression is made of, its written form leaves no parenthesis and no quoted text
open, closes no parenthesis that it did not open, starts no comment and stays on one line; and the
parentheses around a compound operand, at any depth, belong together: a scan of the whole text is
in the code where the first of them stands, and the second is the one that closes it. -/
theorem sound_render_and_parentheses_match {root : Expr} (hclean : root.HasCleanOperators) :
    Sound root.render.toList ∧
      ∀ {before after pre post : List Char} {node e : Expr}, Occurs root before node after →
        HasOperand node pre e post → e.isSimple = false →
          root.render.toList =
            (before ++ pre) ++ '(' :: (e.render.toList ++ ')' :: (post ++ after)) ∧
          (∃ d, Place.start.after? (before ++ pre) = some ⟨.code, d⟩) ∧
          Place.start.untilClosed (e.render.toList ++ ')' :: (post ++ after)) =
            some (e.render.toList, post ++ after) := by
  refine ⟨sound_render hclean, ?_⟩
  intro before after pre post node e hoccurs hoperand hcompound
  obtain ⟨hnode, d, hd⟩ := hoccurs.spec hclean
  have he : Sound e.render.toList := sound_render (hoperand.hasCleanOperators hnode)
  refine ⟨?_, ⟨d, exists_after?_append (hoperand.closed hnode) hd⟩, he.closed.untilClosed _⟩
  rw [hoccurs.render_eq, hoperand.render_eq, toList_parenthesized, hcompound]
  simp

/-- The quotes, the minus signs and the parenthesis that a constant holds change nothing for the
parentheses around a compound operand with that constant in it. -/
theorem sound_render_negate_isNull_chararray :
    Sound (negate (isNull (.literal (.chararray "--')")))).render.toList ∧
      Place.start.untilClosed ((isNull (.literal (.chararray "--')"))).render.toList ++ [')']) =
        some ((isNull (.literal (.chararray "--')"))).render.toList, []) := by
  have hminus : OperatorText.minus.IsClean := by decide
  have hisNull : OperatorText.isNull.IsClean := by decide
  have hclean : (negate (isNull (.literal (.chararray "--')")))).HasCleanOperators :=
    .prefixed _ (.suffixed _ (.literal _) hisNull) hminus
  obtain ⟨hsound, hmatch⟩ := sound_render_and_parentheses_match hclean
  obtain ⟨-, -, hclosed⟩ := hmatch .root (.prefixed _ _ _) rfl
  exact ⟨hsound, hclosed⟩

end PigLatin.Expr
