import PigLatin.Document.Statement
import PigLatin.Proofs.Document.Member
import PigLatin.Proofs.Parse

/-!
# What resolvers can change

Whether a value describes a statement, and which one, is settled before any name is resolved. The
resolver is asked for one name at most, that of the storage function of a store, so two resolvers
that agree on this name cannot be told apart.
-/

namespace PigLatin

/-! ## Statements -/

namespace Statement

variable {s : Statement} {resolve resolve' : Resolver}

/-- The name that is resolved when the statement is written: that of the storage function of a store
that has one. -/
def functionName? : Statement → Option String
  | .store _ _ function => function
  | .inspect _ _ => none

/-- `Statement.render` asks for the name of the storage function alone. -/
theorem render_congr (h : ∀ name, s.functionName? = some name → resolve name = resolve' name) :
    s.render resolve = s.render resolve' := by
  cases s with
  | store relation path function =>
    have hclause : functionClause resolve function = functionClause resolve' function := by
      cases function with
      | none => rfl
      | some name => simp only [functionClause, h name rfl]
    simp only [render, hclause]
  | inspect inspection relation => rfl

/-- `Statement.render` fails exactly as the name of the storage function fails to be resolved. -/
theorem render_eq_error_iff {error : ResolveError} :
    s.render resolve = .error error ↔
      ∃ name, s.functionName? = some name ∧ resolve name = .error error := by
  cases s with
  | store relation path function =>
    cases function with
    | none => simp [render, functionClause, functionName?, Except.map]
    | some name =>
      cases h : resolve name <;> simp [render, functionClause, functionName?, Except.map, h]
  | inspect inspection relation => simp [render, functionName?]

end Statement

namespace Document

variable {members : Members} {v : Json}

/-! ## Statements that are read -/

theorem Verb.ofMembers?_eq_store_iff :
    Verb.ofMembers? members = some .store ↔ ∃ value, members.get? "store" = some value := by
  have hfirst : Verb.ofMembers? members = some .store ↔
      Lacks members [] ∧ ∃ value, members.get? "store" = some value :=
    find?_contains_eq_some_iff [] (by decide)
  rw [hfirst]
  exact and_iff_right fun _ hkey => absurd hkey List.not_mem_nil

theorem readStatement_store_eq_ok_iff {s : Statement}
    (hverb : Verb.ofMembers? members = some .store) :
    readStatement (.object members) = .ok s ↔
      ∃ (relation : Alias) (path : StorePath) (function : Option String),
        members.get? "store" = some (.string relation.text) ∧
          members.get? "using" = function.map .string ∧
          members.get? "into" = some (.string path.text) ∧ s = .store relation path function := by
  simp only [readStatement, hverb, Verb.key, Except.bind_eq_ok_iff, stringMember_eq_ok_iff,
    stringMember?_eq_ok_iff, liftBuild_eq_ok_iff, Alias.parse_eq_ok_iff, StorePath.parse_eq_ok_iff]
  constructor
  · rintro ⟨_, hstore, relation, rfl, function, husing, _, hinto, path, rfl, hpure⟩
    cases hpure
    exact ⟨relation, path, function, hstore, husing, hinto, rfl⟩
  · rintro ⟨relation, path, function, hstore, husing, hinto, rfl⟩
    exact ⟨_, hstore, relation, rfl, function, husing, _, hinto, path, rfl, rfl⟩

/-- Only stores have a `functionName?`. -/
theorem functionName?_of_readStatement_inspect {s : Statement} {inspection : Inspection}
    (hverb : Verb.ofMembers? members = some (.inspect inspection))
    (h : readStatement (.object members) = .ok s) : s.functionName? = none := by
  simp only [readStatement, hverb, Except.bind_eq_ok_iff] at h
  obtain ⟨_, -, relation, -, hpure⟩ := h
  cases hpure
  rfl

/-- The value describes a store with the storage function of the name. -/
inductive IsStoreUsing (name : String) : Json → Prop where
  | intro {members : Members} (relation : Alias) (path : StorePath)
      (hstore : members.get? "store" = some (.string relation.text))
      (hinto : members.get? "into" = some (.string path.text))
      (husing : members.get? "using" = some (.string name)) : IsStoreUsing name (.object members)

/-- `IsStoreUsing` lists the objects that `readStatement` reads as stores with the storage
function. -/
theorem isStoreUsing_iff {name : String} :
    IsStoreUsing name v ↔ ∃ s, readStatement v = .ok s ∧ s.functionName? = some name := by
  constructor
  · rintro ⟨relation, path, hstore, hinto, husing⟩
    have hverb := Verb.ofMembers?_eq_store_iff.2 ⟨_, hstore⟩
    exact ⟨.store relation path (some name), (readStatement_store_eq_ok_iff hverb).2
      ⟨relation, path, some name, hstore, husing, hinto, rfl⟩, rfl⟩
  · rintro ⟨s, hread, hname⟩
    cases v with
    | object members =>
      cases hverb : Verb.ofMembers? members with
      | none => simp [readStatement, hverb, throwShape] at hread
      | some verb =>
        cases verb with
        | store =>
          obtain ⟨relation, path, function, hstore, husing, hinto, rfl⟩ :=
            (readStatement_store_eq_ok_iff hverb).1 hread
          obtain rfl : function = some name := hname
          exact ⟨relation, path, hstore, hinto, husing⟩
        | inspect inspection =>
          rw [functionName?_of_readStatement_inspect hverb hread] at hname
          cases hname
    | null | bool | number | string | array => simp [readStatement, throwShape] at hread

/-! ## What is resolved -/

/-- `readStatement` resolves no name. -/
theorem readStatement_ne_resolve {error : ResolveError} :
    readStatement v ≠ .error (.resolve error) := by
  cases v with
  | object members =>
    cases hverb : Verb.ofMembers? members with
    | none => simp [readStatement, hverb, throwShape]
    | some verb =>
      cases verb with
      | store =>
        simp [readStatement, hverb, Except.bind_eq_error_iff, stringMember_ne_resolve,
          stringMember?_ne_resolve, liftBuild_ne_resolve, pure, Except.pure]
      | inspect inspection =>
        simp [readStatement, hverb, Except.bind_eq_error_iff, stringMember_ne_resolve,
          liftBuild_ne_resolve, pure, Except.pure]
  | null | bool | number | string | array => simp [readStatement, throwShape]

section

variable {resolve resolve' : Resolver}

/-- `renderStatement` fails because of the value, or else because of the name of a store in
order. -/
theorem renderStatement_eq_error_iff {error : ItemError} :
    renderStatement resolve v = .error error ↔ readStatement v = .error error ∨
      ∃ name unresolved, IsStoreUsing name v ∧ resolve name = .error unresolved ∧
        error = .resolve unresolved := by
  rw [renderStatement, Except.bind_eq_error_iff]
  refine or_congr_right ⟨?_, ?_⟩
  · rintro ⟨s, hread, herror⟩
    obtain ⟨unresolved, hrender, rfl⟩ := Except.mapError_eq_error_iff.1 herror
    obtain ⟨name, hname, hresolve⟩ := Statement.render_eq_error_iff.1 hrender
    exact ⟨name, unresolved, isStoreUsing_iff.2 ⟨s, hread, hname⟩, hresolve, rfl⟩
  · rintro ⟨name, unresolved, husing, hresolve, rfl⟩
    obtain ⟨s, hread, hname⟩ := isStoreUsing_iff.1 husing
    have hrender := Statement.render_eq_error_iff.2 ⟨name, hname, hresolve⟩
    exact ⟨s, hread, Except.mapError_eq_error_iff.2 ⟨unresolved, hrender, rfl⟩⟩

/-- `renderStatement` cannot tell resolvers apart that agree on the storage function of a store. -/
theorem renderStatement_congr (h : ∀ name, IsStoreUsing name v → resolve name = resolve' name) :
    renderStatement resolve v = renderStatement resolve' v := by
  cases hread : readStatement v with
  | error error => simp only [renderStatement, hread, bind, Except.bind]
  | ok s =>
    have hrender : s.render resolve = s.render resolve' :=
      Statement.render_congr fun name hname => h name (isStoreUsing_iff.2 ⟨s, hread, hname⟩)
    simp only [renderStatement, hread, bind, Except.bind, hrender]

theorem renderStatement_eq_resolve_iff {error : ResolveError} :
    renderStatement resolve v = .error (.resolve error) ↔
      ∃ name, IsStoreUsing name v ∧ resolve name = .error error := by
  rw [renderStatement_eq_error_iff]
  simp [readStatement_ne_resolve]

end

/-- What is wrong with a statement itself is wrong with any resolver. Any two resolvers give the
same if the statement is no store or has no storage function, and so do two that agree on the name
of the storage function. The error of the resolver comes out of `renderStatement` as it is, and it
does so exactly for stores that have nothing else wrong with them. -/
theorem renderStatement_of_resolvers (resolve resolve' : Resolver) (v : Json) :
    (∀ error, (∀ unresolved, error ≠ .resolve unresolved) →
        renderStatement resolve v = .error error → renderStatement resolve' v = .error error) ∧
      ((∀ members : Members, v = .object members → Verb.ofMembers? members = some .store →
          members.get? "using" = none) →
        renderStatement resolve v = renderStatement resolve' v) ∧
      ((∀ (members : Members) (name : String), v = .object members →
          members.get? "using" = some (.string name) → resolve name = resolve' name) →
        renderStatement resolve v = renderStatement resolve' v) ∧
      ∀ error, renderStatement resolve v = .error (.resolve error) ↔
        ∃ name, IsStoreUsing name v ∧ resolve name = .error error := by
  refine ⟨?_, ?_, ?_, fun _ => renderStatement_eq_resolve_iff⟩
  · intro error hne h
    rcases renderStatement_eq_error_iff.1 h with hread | ⟨_, unresolved, -, -, rfl⟩
    · exact renderStatement_eq_error_iff.2 (.inl hread)
    · exact absurd rfl (hne unresolved)
  · intro hnone
    refine renderStatement_congr ?_
    rintro name ⟨relation, path, hstore, hinto, husing⟩
    have hverb := Verb.ofMembers?_eq_store_iff.2 ⟨_, hstore⟩
    cases husing.symm.trans (hnone _ rfl hverb)
  · intro hagree
    refine renderStatement_congr ?_
    rintro name ⟨relation, path, hstore, hinto, husing⟩
    exact hagree _ name rfl husing

/-- A resolver that knows a single name, compared with `Registry.standard`, which does not know it,
and with a resolver that gives every name the same invocation. -/
theorem renderStatement_store_using_gz :
    let single : Resolver := fun name =>
      if name = "gz" then .ok "Gz()" else .error (.unresolved name)
    let registry : Resolver := Registry.standard.resolve
    let noAlias : Json := .object [("store", .string "1R"), ("using", .string "gz")]
    let dump : Json := .object [("dump", .string "R"), ("using", .string "gz")]
    let store : Json :=
      .object [("into", .string "/out"), ("store", .string "R"), ("using", .string "gz")]
    renderStatement registry noAlias = .error (.build (.invalidAlias "1R")) ∧
      renderStatement single dump = renderStatement registry dump ∧
      renderStatement single store = renderStatement (fun _ => .ok "Gz()") store ∧
      renderStatement registry store = .error (.resolve (.unresolved "gz")) := by
  intro single registry noAlias dump store
  obtain ⟨hbuild, -⟩ := renderStatement_of_resolvers single registry noAlias
  obtain ⟨-, hequal, -⟩ := renderStatement_of_resolvers single registry dump
  obtain ⟨-, -, hagree, -⟩ := renderStatement_of_resolvers single (fun _ => .ok "Gz()") store
  obtain ⟨-, -, -, hresolve⟩ := renderStatement_of_resolvers registry registry store
  refine ⟨hbuild _ nofun rfl, hequal ?_, hagree ?_, (hresolve _).2 ⟨"gz", ?_, rfl⟩⟩
  · intro members hdump hverb
    obtain rfl := Json.object.inj hdump
    cases hverb
  · intro members name hstore husing
    obtain rfl := Json.object.inj hstore
    cases husing
    rfl
  · exact .intro ⟨"R", by decide +kernel⟩ ⟨"/out", by decide +kernel⟩ rfl rfl rfl

end Document

end PigLatin
