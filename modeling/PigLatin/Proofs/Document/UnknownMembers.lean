import PigLatin.Proofs.Document.Expression
import PigLatin.Proofs.Document.Statement
import PigLatin.Proofs.Json.Edit

/-!
# Members with unknown keys

The readers of expressions and of statements know the keys of a few members and look at no others. A
document that is edited in what it has under other keys is read as before: as the same expression or
statement, or with an error of the same kind. Only the wording of an error can change, because it
shows the value that was found.
-/

namespace PigLatin.Document

open Json

/-! ## The same but for wordings -/

/-- The errors are the same, or both are about shapes. -/
inductive ItemError.SameKind : ItemError → ItemError → Prop where
  | build (error : BuildError) : SameKind (.build error) (.build error)
  | resolve (error : ResolveError) : SameKind (.resolve error) (.resolve error)
  | shape (error error' : ShapeError) : SameKind (.shape error) (.shape error')

/-- Both come out the same, or with errors of the same kind. -/
inductive SameOutcome {α : Type} : Except ItemError α → Except ItemError α → Prop where
  | ok (a : α) : SameOutcome (.ok a) (.ok a)
  | error {error error' : ItemError} (h : error.SameKind error') :
      SameOutcome (.error error) (.error error')

namespace SameOutcome

variable {α β : Type} {x x' x'' : Except ItemError α}

theorem refl (x : Except ItemError α) : SameOutcome x x := by
  cases x with
  | ok a => exact .ok a
  | error error =>
    cases error with
    | build error => exact .error (.build error)
    | resolve error => exact .error (.resolve error)
    | shape error => exact .error (.shape error error)

/-- `SameOutcome` is kept over any number of changes. -/
theorem trans (h : SameOutcome x x') (h' : SameOutcome x' x'') : SameOutcome x x'' := by
  cases h with
  | ok a => exact h'
  | error hkind =>
    cases h' with
    | error hkind' =>
      refine .error ?_
      cases hkind with
      | build error => exact hkind'
      | resolve error => exact hkind'
      | shape error error' =>
        cases hkind' with
        | shape _ error'' => exact .shape error error''

/-- If a computation has the same outcome and all that follows it has, then both together have. -/
theorem bind {f f' : α → Except ItemError β} (h : SameOutcome x x')
    (hf : ∀ a, SameOutcome (f a) (f' a)) : SameOutcome (x >>= f) (x' >>= f') := by
  cases h with
  | ok a => exact hf a
  | error hkind => exact .error hkind

theorem map {x x' : Except ItemError α} (h : SameOutcome x x') (f : α → β) :
    SameOutcome (x.map f) (x'.map f) := by
  cases h with
  | ok a => exact .ok (f a)
  | error hkind => exact .error hkind

theorem throwShape (error error' : ShapeError) :
    SameOutcome (throwShape error : Except ItemError α) (Document.throwShape error') :=
  .error (.shape error error')

theorem ok_iff (h : SameOutcome x x') (a : α) : x = .ok a ↔ x' = .ok a := by
  cases h with
  | ok b => rfl
  | error hkind => exact iff_of_false nofun nofun

theorem sameKind {error error' : ItemError} (h : SameOutcome x x') (hx : x = .error error)
    (hx' : x' = .error error') : error.SameKind error' := by
  cases h with
  | ok a => cases hx
  | error hkind =>
    cases hx
    cases hx'
    exact hkind

end SameOutcome

/-! ## Texts -/

variable {members members' : Members} {key : String} {v v' : Json}

/-- The values cannot be told apart as texts. -/
def SameText (v v' : Json) : Prop := ∀ key, SameOutcome (asString key v) (asString key v')

theorem sameText_refl (v : Json) : SameText v v := fun _ => .refl _

/-- No value with an object in it is text, so an `Edit` leaves texts as they are. -/
theorem sameText_of_edit {known : List String} (h : Edit known v v') : SameText v v' := by
  intro key
  cases h with
  | here hkey hagree => exact .throwShape _ _
  | member hvalue hvalue' hagree hedit => exact .throwShape _ _
  | item hedit => exact .throwShape _ _

theorem sameOutcome_stringMember (h : Under SameText key members members') :
    SameOutcome (stringMember key members) (stringMember key members') := by
  cases h with
  | absent hnone hnone' =>
    simp only [stringMember, hnone, hnone']
    exact .refl _
  | present hvalue hvalue' htext =>
    simp only [stringMember, hvalue, hvalue']
    exact htext key

theorem sameOutcome_stringMember? (h : Under SameText key members members') :
    SameOutcome (stringMember? key members) (stringMember? key members') := by
  cases h with
  | absent hnone hnone' =>
    simp only [stringMember?, hnone, hnone']
    exact .refl _
  | present hvalue hvalue' htext =>
    simp only [stringMember?, hvalue, hvalue']
    exact (htext key).map some

theorem sameOutcome_typeMember? (h : Under SameText "type" members members') :
    SameOutcome (typeMember? members) (typeMember? members') :=
  .bind (sameOutcome_stringMember? h) fun _ => .refl _

/-! ## Expressions -/

/-- The keys that the reader of expressions knows. -/
def expressionKeys : List String :=
  ["field", "literal", "suffix", "prefix", "cast", "binary", "call", "operand", "left", "right",
    "args", "type"]

/-- The values cannot be told apart as a part of an expression. -/
structure SamePart (v v' : Json) : Prop where
  /-- As a name, an operator or a type. -/
  text : SameText v v'
  /-- As a constant. -/
  constant : SameOutcome (((readLiteral v).map Expr.literal).mapError .shape)
    (((readLiteral v').map Expr.literal).mapError .shape)
  /-- As an expression. -/
  expression : SameOutcome (readExpr v) (readExpr v')
  /-- As the arguments of a function. -/
  arguments : SameOutcome (readExprArray v) (readExprArray v')

theorem samePart_refl (v : Json) : SamePart v v :=
  ⟨sameText_refl v, .refl _, .refl _, .refl _⟩

theorem sameOutcome_readConstant (h : Under SamePart "literal" members members') :
    SameOutcome (readConstant members) (readConstant members') := by
  cases h with
  | absent hnone hnone' =>
    simp only [readConstant, hnone, hnone']
    exact .refl _
  | present hvalue hvalue' hpart =>
    simp only [readConstant, hvalue, hvalue']
    exact hpart.constant

/-- `readExprMember` has the same outcome on a part that describes the same as an expression. -/
theorem sameOutcome_readExprMember (h : Under SamePart key members members') :
    SameOutcome (readExprMember key members) (readExprMember key members') := by
  rw [readExprMember_eq, readExprMember_eq]
  cases h with
  | absent hnone hnone' =>
    rw [hnone, hnone']
    exact .refl _
  | present hvalue hvalue' hpart =>
    rw [hvalue, hvalue']
    exact hpart.expression

theorem sameOutcome_readArguments (h : Under SamePart "args" members members') :
    SameOutcome (readArguments members) (readArguments members') := by
  rw [readArguments_eq, readArguments_eq]
  cases h with
  | absent hnone hnone' =>
    rw [hnone, hnone']
    exact .refl _
  | present hvalue hvalue' hpart =>
    rw [hvalue, hvalue']
    exact hpart.arguments

/-- `Kind.ofMembers?` looks for keys in `expressionKeys` alone. -/
theorem Kind.ofMembers?_eq_of_under
    (h : ∀ key ∈ expressionKeys, Under SamePart key members members') :
    Kind.ofMembers? members = Kind.ofMembers? members' := by
  have hcontains : ∀ kind : Kind, members.contains kind.key = members'.contains kind.key := by
    intro kind
    have hkey : kind.key ∈ expressionKeys := by
      cases kind <;> decide
    exact (h kind.key hkey).contains_eq
  simp only [Kind.ofMembers?, hcontains]

/-- An object whose parts describe the same describes the same, or fails for a reason of the same
kind. The error of an object that is no expression at all shows the object, which may have
changed. -/
theorem sameOutcome_readExpr_object
    (h : ∀ key ∈ expressionKeys, Under SamePart key members members') :
    SameOutcome (readExpr (.object members)) (readExpr (.object members')) := by
  have htext : ∀ key ∈ expressionKeys,
      SameOutcome (stringMember key members) (stringMember key members') := by
    intro key hkey
    exact sameOutcome_stringMember ((h key hkey).imp fun _ _ hpart => hpart.text)
  have htype : SameOutcome (typeMember? members) (typeMember? members') :=
    sameOutcome_typeMember? ((h "type" (by decide)).imp fun _ _ hpart => hpart.text)
  have hpart : ∀ key ∈ expressionKeys,
      SameOutcome (readExprMember key members) (readExprMember key members') :=
    fun key hkey => sameOutcome_readExprMember (h key hkey)
  have hkind := Kind.ofMembers?_eq_of_under h
  cases hfound : Kind.ofMembers? members with
  | none =>
    rw [readExpr_of_no_kind hfound, readExpr_of_no_kind (hkind.symm.trans hfound)]
    exact .throwShape _ _
  | some kind =>
    rw [hfound] at hkind
    cases kind with
    | field =>
      simp only [readExpr, hfound, ← hkind]
      exact .bind (htext "field" (by decide)) fun _ => .bind htype fun _ => .refl _
    | literal =>
      simp only [readExpr, hfound, ← hkind]
      exact sameOutcome_readConstant (h "literal" (by decide))
    | suffixOp =>
      simp only [readExpr, hfound, ← hkind]
      exact .bind (htext "suffix" (by decide)) fun _ =>
        .bind (hpart "operand" (by decide)) fun _ => .bind htype fun _ => .refl _
    | prefixOp =>
      simp only [readExpr, hfound, ← hkind]
      exact .bind (htext "prefix" (by decide)) fun _ =>
        .bind (hpart "operand" (by decide)) fun _ => .bind htype fun _ => .refl _
    | cast =>
      simp only [readExpr, hfound, ← hkind]
      exact .bind (htext "cast" (by decide)) fun _ => .bind (.refl _) fun _ =>
        .bind (hpart "operand" (by decide)) fun _ => .refl _
    | binary =>
      simp only [readExpr, hfound, ← hkind]
      exact .bind (htext "binary" (by decide)) fun _ => .bind (.refl _) fun _ =>
        .bind (hpart "left" (by decide)) fun _ => .bind (hpart "right" (by decide)) fun _ =>
          .bind htype fun _ => .refl _
    | call =>
      simp only [readExpr, hfound, ← hkind]
      exact .bind (htext "call" (by decide)) fun _ =>
        .bind (sameOutcome_readArguments (h "args" (by decide))) fun _ =>
          .bind htype fun _ => .refl _

theorem samePart_object (h : ∀ key ∈ expressionKeys, Under SamePart key members members') :
    SamePart (.object members) (.object members') where
  text _ := .throwShape _ _
  constant := .throwShape _ _
  expression := sameOutcome_readExpr_object h
  arguments := .throwShape _ _

theorem sameOutcome_readExprs {before after : List Json}
    (h : SameOutcome (readExpr v) (readExpr v')) :
    SameOutcome (readExprs (before ++ v :: after)) (readExprs (before ++ v' :: after)) := by
  induction before with
  | nil => exact .bind h fun _ => .refl _
  | cons first before ih => exact .bind (.refl _) fun _ => .bind ih fun _ => .refl _

/-- An `Edit` of members that are not in `expressionKeys` changes nothing that a value describes as
a part. -/
theorem samePart_of_edit (h : Edit expressionKeys v v') : SamePart v v' := by
  -- The induction follows the way to the place of the edit; all else on that way is the same.
  induction h with
  | here hkey hagree =>
    refine samePart_object fun known hknown => .of_eq samePart_refl (hagree known ?_)
    rintro rfl
    exact hkey hknown
  | member hvalue hvalue' hagree hedit ih =>
    exact samePart_object fun known _ => .of_agreeBut samePart_refl hvalue hvalue' hagree ih known
  | item hedit ih =>
    exact ⟨sameText_of_edit (.item hedit), .throwShape _ _, .throwShape _ _,
      sameOutcome_readExprs ih.expression⟩

/-- Any number of edits of members that are not in `expressionKeys` leave the outcome of `readExpr`
as it is. -/
theorem sameOutcome_readExpr (h : Edits expressionKeys v v') :
    SameOutcome (readExpr v) (readExpr v') := by
  induction h with
  | refl => exact .refl _
  | tail _ hedit ih => exact ih.trans (samePart_of_edit hedit).expression

/-! ## Statements -/

/-- The keys that the reader of statements knows. -/
def statementKeys : List String :=
  ["store", "dump", "describe", "illustrate", "explain", "into", "using"]

theorem key_mem_statementKeys (verb : Verb) : verb.key ∈ statementKeys := by
  cases verb with
  | store => decide
  | inspect inspection => cases inspection <;> decide

theorem Verb.ofMembers?_eq_of_under
    (h : ∀ key ∈ statementKeys, Under SameText key members members') :
    Verb.ofMembers? members = Verb.ofMembers? members' := by
  have hcontains : ∀ verb : Verb, members.contains verb.key = members'.contains verb.key := by
    intro verb
    exact (h verb.key (key_mem_statementKeys verb)).contains_eq
  simp only [Verb.ofMembers?, hcontains]

theorem sameOutcome_readStatement_object
    (h : ∀ key ∈ statementKeys, Under SameText key members members') :
    SameOutcome (readStatement (.object members)) (readStatement (.object members')) := by
  have htext : ∀ key ∈ statementKeys,
      SameOutcome (stringMember key members) (stringMember key members') :=
    fun key hkey => sameOutcome_stringMember (h key hkey)
  have hverb := Verb.ofMembers?_eq_of_under h
  cases hfound : Verb.ofMembers? members with
  | none =>
    simp only [readStatement, hfound, ← hverb]
    exact .throwShape _ _
  | some verb =>
    simp only [readStatement, hfound, ← hverb]
    refine .bind (htext verb.key (key_mem_statementKeys verb)) fun _ => .bind (.refl _) fun _ => ?_
    cases verb with
    | store =>
      exact .bind (sameOutcome_stringMember? (h "using" (by decide))) fun _ =>
        .bind (htext "into" (by decide)) fun _ => .refl _
    | inspect inspection => exact .refl _

theorem sameOutcome_readStatement_of_edit (h : Edit statementKeys v v') :
    SameOutcome (readStatement v) (readStatement v') := by
  cases h with
  | here hkey hagree =>
    refine sameOutcome_readStatement_object fun known hknown =>
      .of_eq sameText_refl (hagree known ?_)
    rintro rfl
    exact hkey hknown
  | member hvalue hvalue' hagree hedit =>
    exact sameOutcome_readStatement_object fun known _ =>
      .of_agreeBut sameText_refl hvalue hvalue' hagree (sameText_of_edit hedit) known
  | item hedit => exact .throwShape _ _

/-- Any number of edits of members that are not in `statementKeys` leave the outcome of
`renderStatement` as it is. -/
theorem sameOutcome_renderStatement (h : Edits statementKeys v v') (resolve : Resolver) :
    SameOutcome (renderStatement resolve v) (renderStatement resolve v') := by
  induction h with
  | refl => exact .refl _
  | tail _ hedit ih =>
    exact ih.trans (.bind (sameOutcome_readStatement_of_edit hedit) fun _ => .refl _)

/-- Members whose keys are not known can come and go in any objects of a value. If `readExpr`
accepts it, it still does, with the same expression; and if it did not, it still does not, for a
reason of the same kind, which is the same reason unless it is about shapes. The same is true of
statements and `renderStatement`, with any resolver. -/
theorem read_of_edits (v v' : Json) :
    (Edits expressionKeys v v' →
        (∀ e, readExpr v = .ok e ↔ readExpr v' = .ok e) ∧
          ∀ error error', readExpr v = .error error → readExpr v' = .error error' →
            error.SameKind error') ∧
      (Edits statementKeys v v' → ∀ resolve,
        (∀ text, renderStatement resolve v = .ok text ↔ renderStatement resolve v' = .ok text) ∧
          ∀ error error', renderStatement resolve v = .error error →
            renderStatement resolve v' = .error error' → error.SameKind error') := by
  refine ⟨fun h => ?_, fun h resolve => ?_⟩
  · have hsame := sameOutcome_readExpr h
    exact ⟨hsame.ok_iff, fun _ _ => hsame.sameKind⟩
  · have hsame := sameOutcome_renderStatement h resolve
    exact ⟨hsame.ok_iff, fun _ _ => hsame.sameKind⟩

/-- A note in the argument of a call goes, and a comment on the call comes. A comment on a statement
with a wrong alias does not help it. -/
theorem read_call_of_edits :
    let reference : Json := .object [("field", .string "x")]
    let withNote : Json := .object [("field", .string "x"), ("note", .null)]
    let call : Json := .object [("args", .array [withNote]), ("call", .string "f")]
    let call' : Json :=
      .object [("args", .array [reference]), ("call", .string "f"), ("comment", .bool true)]
    let dump : Json := .object [("dump", .string "1R")]
    let dump' : Json := .object [("comment", .string "R"), ("dump", .string "1R")]
    (∃ e, readExpr call = .ok e ∧ readExpr call' = .ok e) ∧
      ∃ error error', renderStatement Registry.standard.resolve dump = .error error ∧
        renderStatement Registry.standard.resolve dump' = .error error' ∧
          error.SameKind error' := by
  intro reference withNote call call' dump dump'
  have hcall : Edits expressionKeys call call' := by
    have hnote : Edit expressionKeys withNote reference :=
      Edit.remove [("field", .string "x"), ("note", .null)] (by decide : "note" ∉ expressionKeys)
    have hitem : Edit expressionKeys (.array [withNote]) (.array [reference]) :=
      @Edit.item expressionKeys [] [] withNote reference hnote
    have hargs : Edit expressionKeys call
        (.object [("args", .array [reference]), ("call", .string "f")]) :=
      .member rfl rfl (agreeBut_insert _ "args" (.array [reference])) hitem
    have hcomment : Edit expressionKeys
        (.object [("args", .array [reference]), ("call", .string "f")]) call' :=
      Edit.insert _ (.bool true) (by decide : "comment" ∉ expressionKeys)
    exact (Relation.ReflTransGen.single hargs).tail hcomment
  have hdump : Edits statementKeys dump dump' :=
    .single (Edit.insert _ (.string "R") (by decide : "comment" ∉ statementKeys))
  obtain ⟨hexpr, -⟩ := read_of_edits call call'
  obtain ⟨-, hstatement⟩ := read_of_edits dump dump'
  obtain ⟨hok, -⟩ := hexpr hcall
  obtain ⟨-, hkind⟩ := hstatement hdump Registry.standard.resolve
  exact ⟨⟨_, rfl, (hok _).1 rfl⟩, _, _, rfl, rfl, hkind _ _ rfl rfl⟩

end PigLatin.Document
