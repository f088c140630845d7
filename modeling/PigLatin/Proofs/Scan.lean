import Mathlib.Data.List.Chain
import PigLatin.Chararray

/-!
# Scanning a script

A script is scanned from left to right. What stands between single quotes is opaque, and there a
backslash takes the character after it along; everything else is code, and the parentheses in the
code nest. The scan is the measure for what the written forms of expressions and statements may do
to the script around them.
-/

namespace PigLatin

/-- What the next character of a script is part of. -/
inductive Mode where
  /-- Code, outside of quoted text. -/
  | code
  /-- Text between single quotes. -/
  | quoted
  /-- Text between single quotes, directly after a backslash. -/
  | escaped
  deriving DecidableEq, Repr

namespace Mode

/-- The mode after one more character. -/
def next : Mode → Char → Mode
  | code, c => if c = '\'' then quoted else code
  | quoted, c => if c = '\'' then code else if c = '\\' then escaped else quoted
  | escaped, _ => quoted

/-- The mode after more characters. -/
def after (mode : Mode) (cs : List Char) : Mode := cs.foldl next mode

/-- The code among characters that are scanned from a mode on. Quotes count as code, so that
quoted text keeps the code before it and the code after it apart. -/
def visible : Mode → List Char → List Char
  | _, [] => []
  | mode, c :: cs =>
    if mode = code ∨ mode.next c = code then c :: visible (mode.next c) cs
    else visible (mode.next c) cs

@[simp] theorem after_nil (mode : Mode) : mode.after [] = mode := rfl

@[simp] theorem after_cons (mode : Mode) (c : Char) (cs : List Char) :
    mode.after (c :: cs) = (mode.next c).after cs := rfl

@[simp] theorem after_append (mode : Mode) (cs ds : List Char) :
    mode.after (cs ++ ds) = (mode.after cs).after ds := by
  simp [after]

@[simp] theorem visible_nil (mode : Mode) : mode.visible [] = [] := rfl

/-- What is `visible` of later characters depends on the characters before them through the mode
alone. -/
@[simp] theorem visible_append (mode : Mode) (cs ds : List Char) :
    mode.visible (cs ++ ds) = mode.visible cs ++ (mode.after cs).visible ds := by
  induction cs generalizing mode with
  | nil => rfl
  | cons c cs ih =>
    simp only [List.cons_append, visible, after_cons, ih]
    split <;> rfl

/-! ## Characters that start no quoted text -/

theorem next_code_of_ne {c : Char} (h : c ≠ '\'') : code.next c = code := by
  simp [next, h]

theorem after_code_of_notMem {cs : List Char} (h : '\'' ∉ cs) : code.after cs = code := by
  induction cs with
  | nil => rfl
  | cons c cs ih =>
    have hc : c ≠ '\'' := fun hc => h (hc ▸ List.mem_cons_self)
    rw [after_cons, next_code_of_ne hc]
    exact ih fun hcs => h (List.mem_cons_of_mem _ hcs)

theorem visible_code_of_notMem {cs : List Char} (h : '\'' ∉ cs) : code.visible cs = cs := by
  induction cs with
  | nil => rfl
  | cons c cs ih =>
    have hc : c ≠ '\'' := fun hc => h (hc ▸ List.mem_cons_self)
    simp only [visible, next_code_of_ne hc, true_or, if_true, ih fun hcs =>
      h (List.mem_cons_of_mem _ hcs)]

/-- The first character of code is code. -/
theorem head?_visible_code (cs : List Char) : (code.visible cs).head? = cs.head? := by
  cases cs with
  | nil => rfl
  | cons c cs => simp [visible]

/-- The last character is code if there is code after it. -/
theorem getLast?_visible {mode : Mode} {cs : List Char} (h : mode.after cs = code) :
    (mode.visible cs).getLast? = cs.getLast? := by
  induction cs using List.reverseRecOn generalizing mode with
  | nil => rfl
  | append_singleton cs c _ =>
    have hlast : (mode.after cs).next c = code := by simpa using h
    simp [visible, hlast]

end Mode

/-- A place in a script, as far as the characters before it matter. -/
structure Place where
  /-- What the next character is part of. -/
  mode : Mode
  /-- How many parentheses are open. -/
  depth : Nat
  deriving DecidableEq, Repr

namespace Place

/-- Where a script starts. -/
def start : Place := ⟨.code, 0⟩

/-- The place after one more character; there is none after a parenthesis that closes nothing. -/
def next? (p : Place) (c : Char) : Option Place :=
  if p.mode = .code ∧ c = '(' then some ⟨.code, p.depth + 1⟩
  else if p.mode = .code ∧ c = ')' then
    if p.depth = 0 then none else some ⟨.code, p.depth - 1⟩
  else some ⟨p.mode.next c, p.depth⟩

/-- The place after more characters, if none of them closes a parenthesis that is not open. -/
def after? (p : Place) (cs : List Char) : Option Place := cs.foldlM next? p

@[simp] theorem after?_nil (p : Place) : p.after? [] = some p := rfl

@[simp] theorem after?_cons (p : Place) (c : Char) (cs : List Char) :
    p.after? (c :: cs) = (p.next? c).bind fun q => q.after? cs := rfl

@[simp] theorem after?_append (p : Place) (cs ds : List Char) :
    p.after? (cs ++ ds) = (p.after? cs).bind fun q => q.after? ds := by
  simp [after?, List.foldlM_append]

theorem mode_of_next? {p q : Place} {c : Char} (h : p.next? c = some q) :
    q.mode = p.mode.next c := by
  grind [next?, Mode.next]

theorem mode_of_after? {p q : Place} {cs : List Char} (h : p.after? cs = some q) :
    q.mode = p.mode.after cs := by
  induction cs generalizing p with
  | nil => cases h; rfl
  | cons c cs ih =>
    obtain ⟨r, hr, hq⟩ := Option.bind_eq_some_iff.1 h
    rw [ih hq, mode_of_next? hr, Mode.after_cons]

/-- Parentheses that are open already change nothing for `next?` but the count of open
parentheses. -/
theorem next?_deeper {p q : Place} {c : Char} (h : p.next? c = some q) (k : Nat) :
    next? ⟨p.mode, p.depth + k⟩ c = some ⟨q.mode, q.depth + k⟩ := by
  grind [next?]

theorem after?_deeper {p q : Place} {cs : List Char} (h : p.after? cs = some q) (k : Nat) :
    after? ⟨p.mode, p.depth + k⟩ cs = some ⟨q.mode, q.depth + k⟩ := by
  induction cs generalizing p with
  | nil => cases h; rfl
  | cons c cs ih =>
    obtain ⟨r, hr, hq⟩ := Option.bind_eq_some_iff.1 h
    rw [after?_cons, next?_deeper hr]
    exact ih hq

/-! ## The parenthesis that closes -/

/-- The characters up to the parenthesis that closes the one before them, and those after it. -/
def untilClosed : Place → List Char → Option (List Char × List Char)
  | _, [] => none
  | p, c :: cs =>
    if p = start ∧ c = ')' then some ([], cs)
    else
      match p.next? c with
      | none => none
      | some q => (untilClosed q cs).map fun (inside, rest) => (c :: inside, rest)

end Place

/-- Text that leaves no quoted text and no parenthesis open, and closes none that it did not
open. -/
def Closed (cs : List Char) : Prop := Place.start.after? cs = some Place.start

instance (cs : List Char) : Decidable (Closed cs) := inferInstanceAs (Decidable (_ = _))

namespace Closed

variable {cs ds : List Char}

theorem nil : Closed [] := rfl

/-- Closed text can stand anywhere in the code of a script. -/
theorem after? (h : Closed cs) (d : Nat) : Place.after? ⟨.code, d⟩ cs = some ⟨.code, d⟩ := by
  simpa [Place.start] using Place.after?_deeper h d

theorem after (h : Closed cs) : Mode.code.after cs = .code := (Place.mode_of_after? h).symm

theorem append (hcs : Closed cs) (hds : Closed ds) : Closed (cs ++ ds) := by
  rw [Closed, Place.after?_append, hcs, Option.bind_some, hds]

theorem parens (h : Closed cs) : Closed ('(' :: cs ++ [')']) := by
  have hcs : Place.after? ⟨.code, 1⟩ cs = some ⟨.code, 1⟩ := h.after? 1
  simp [Closed, Place.start, Place.next?, hcs]

/-- Characters that are neither quotes nor parentheses are closed text. -/
theorem of_plain (h : ∀ c ∈ cs, c ≠ '\'' ∧ c ≠ '(' ∧ c ≠ ')') : Closed cs := by
  induction cs with
  | nil => rfl
  | cons c cs ih =>
    obtain ⟨hquote, hopen, hclose⟩ := h c List.mem_cons_self
    have hnext : Place.start.next? c = some Place.start := by
      simp [Place.next?, Place.start, Mode.next, hquote, hopen, hclose]
    rw [Closed, Place.after?_cons, hnext]
    exact ih fun c hc => h c (List.mem_cons_of_mem _ hc)

/-- `Place.untilClosed` stops right behind text that is `Closed`. -/
theorem untilClosed (h : Closed cs) (rest : List Char) :
    Place.start.untilClosed (cs ++ ')' :: rest) = some (cs, rest) := by
  -- Every place within the text is either below `start` or at `start` before another character
  -- than a parenthesis that closes, for such a parenthesis has no place after it.
  suffices hgeneral : ∀ p : Place, p.after? cs = some Place.start →
      p.untilClosed (cs ++ ')' :: rest) = some (cs, rest) from hgeneral _ h
  clear h
  induction cs with
  | nil =>
    intro p hp
    cases hp
    simp [Place.untilClosed]
  | cons c cs ih =>
    intro p hp
    obtain ⟨q, hq, hrest⟩ := Option.bind_eq_some_iff.1 hp
    have hopen : ¬(p = Place.start ∧ c = ')') := by
      rintro ⟨rfl, rfl⟩
      simp [Place.next?, Place.start] at hq
    simp only [List.cons_append, Place.untilClosed, if_neg hopen, hq, ih q hrest, Option.map_some]

end Closed

end PigLatin
