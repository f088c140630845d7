import PigLatin.Proofs.Storage

/-!
# Runs of registrations

What a registry holds after any run of registrations: under each name the invocation that came last,
or else the one that was there at the start. Since the entries are kept in order, a registry has no
memory of anything but that, so registrations of different names may change places.
-/

namespace PigLatin.Registry

open Text

section

variable {registry : Registry} {name invocation : String} {run : List (String × String)}

/-- `resolve` finds an invocation under a name exactly if the registry holds the two as an entry. -/
theorem mem_entries_iff :
    (name, invocation) ∈ registry.entries ↔ registry.resolve name = .ok invocation := by
  rw [Dictionary.mem_iff_get? registry.sorted, resolve]
  cases registry.entries.get? name <;> simp

theorem resolve_eq_error_iff :
    registry.resolve name = .error (.unresolved name) ↔ name ∉ registry.entries.map Prod.fst := by
  constructor
  · intro h hname
    obtain ⟨⟨_, invocation⟩, hentry, rfl⟩ := List.mem_map.1 hname
    rw [mem_entries_iff.1 hentry] at h
    cases h
  · intro h
    unfold resolve
    cases hget : registry.entries.get? name with
    | none => rfl
    | some invocation => exact absurd (List.mem_map_of_mem (Dictionary.mem_of_get? hget)) h

/-! ## One registration after the other -/

/-- The invocation that the run registers under the name after all others. -/
def lastRegistered? (name : String) (run : List (String × String)) : Option String :=
  ((run.filter fun pair => pair.1 = name).getLast?).map Prod.snd

theorem lastRegistered?_cons (name : String) (pair : String × String)
    (run : List (String × String)) : lastRegistered? name (pair :: run) =
      (lastRegistered? name run).or (if pair.1 = name then some pair.2 else none) := by
  by_cases h : pair.1 = name
  · have hfilter : (pair :: run).filter (fun pair => pair.1 = name) =
        pair :: run.filter fun pair => pair.1 = name := by
      simp [h]
    rw [lastRegistered?, hfilter, List.getLast?_cons, lastRegistered?, if_pos h]
    cases (run.filter fun pair => pair.1 = name).getLast? <;> rfl
  · simp [lastRegistered?, h]

/-- Of two runs, one after the other, the second counts where it registers the name. -/
theorem lastRegistered?_append (name : String) (run run' : List (String × String)) :
    lastRegistered? name (run ++ run') =
      (lastRegistered? name run').or (lastRegistered? name run) := by
  induction run with
  | nil => exact Option.or_none.symm
  | cons pair run ih =>
    rw [List.cons_append, lastRegistered?_cons, lastRegistered?_cons, ih, Option.or_assoc]

theorem lastRegistered?_eq_none_iff :
    lastRegistered? name run = none ↔ name ∉ run.map Prod.fst := by
  simp only [lastRegistered?, Option.map_eq_none_iff, List.getLast?_eq_none_iff,
    List.filter_eq_nil_iff, decide_eq_true_eq, List.mem_map, not_exists, not_and]

/-- `register` changes what its own name stands for, and nothing else. -/
theorem get?_register (registry : Registry) (name invocation other : String) :
    (registry.register name invocation).entries.get? other =
      if name = other then some invocation else registry.entries.get? other :=
  Dictionary.get?_insert registry.entries name invocation other

/-- After `registerAll`, a name stands for what `lastRegistered?` finds, or else for what it stood
for before the run. -/
theorem get?_registerAll (registry : Registry) (run : List (String × String)) (name : String) :
    (registry.registerAll run).entries.get? name =
      (lastRegistered? name run).or (registry.entries.get? name) := by
  induction run generalizing registry with
  | nil => rfl
  | cons pair run ih =>
    have hstep : (registry.registerAll (pair :: run)).entries.get? name =
        (lastRegistered? name run).or ((registry.register pair.1 pair.2).entries.get? name) :=
      ih (registry.register pair.1 pair.2)
    rw [hstep, get?_register, lastRegistered?_cons, Option.or_assoc]
    congr 1
    split <;> rfl

theorem resolve_registerAll_of_some (h : lastRegistered? name run = some invocation) :
    (registry.registerAll run).resolve name = .ok invocation := by
  simp only [resolve, get?_registerAll, h, Option.some_or]

theorem resolve_registerAll_of_none (h : lastRegistered? name run = none) :
    (registry.registerAll run).resolve name = registry.resolve name := by
  simp only [resolve, get?_registerAll, h, Option.none_or]

/-- Of a run, nothing but the last registration of a name counts for what the name stands for. -/
theorem resolve_registerAll_congr {run' : List (String × String)}
    (h : lastRegistered? name run = lastRegistered? name run') :
    (registry.registerAll run).resolve name = (registry.registerAll run').resolve name := by
  simp only [resolve, get?_registerAll, h]

/-- `registerAll` adds the names that it registers, and takes no name away. -/
theorem mem_names_registerAll : name ∈ (registry.registerAll run).entries.map Prod.fst ↔
    name ∈ run.map Prod.fst ∨ name ∈ registry.entries.map Prod.fst := by
  rw [← not_iff_not, ← resolve_eq_error_iff, not_or, ← lastRegistered?_eq_none_iff]
  constructor
  · intro h
    cases hlast : lastRegistered? name run with
    | none =>
      rw [resolve_registerAll_of_none hlast] at h
      exact ⟨rfl, resolve_eq_error_iff.1 h⟩
    | some invocation =>
      rw [resolve_registerAll_of_some hlast] at h
      cases h
  · rintro ⟨hlast, hname⟩
    rw [resolve_registerAll_of_none hlast]
    exact resolve_eq_error_iff.2 hname

/-! ## The order of a run -/

/-- The runs register the same under every name: registrations of one name keep their order, those
of different names may have changed places. -/
def SameRegistrations (run run' : List (String × String)) : Prop :=
  ∀ name, (run.filter fun pair => pair.1 = name) = run'.filter fun pair => pair.1 = name

/-- Runs that register the same under every name lead to the same registry. -/
theorem entries_registerAll_congr (registry : Registry) {run' : List (String × String)}
    (h : SameRegistrations run run') :
    (registry.registerAll run).entries = (registry.registerAll run').entries := by
  refine Dictionary.eq_of_get?_eq (Registry.sorted _) (Registry.sorted _) fun name => ?_
  rw [get?_registerAll, get?_registerAll, lastRegistered?, lastRegistered?, h name]

end

/-! ## Runs from the start -/

/-- The registries that a run may start from. -/
inductive Start where
  /-- The one without any names. -/
  | empty
  /-- The one with the storage functions that are always there. -/
  | standard
  deriving DecidableEq, Repr

namespace Start

/-- The registry at the start. -/
def registry : Start → Registry
  | empty => Registry.empty
  | standard => Registry.standard

/-- The names that are there at the start, with their invocations. -/
def known : Start → List (String × String)
  | empty => []
  | standard => builtIn

/-- The registry at the start holds just what is known then. -/
theorem entries_registry (start : Start) : start.registry.entries = start.known := by
  cases start <;> decide +kernel

end Start

/-- After any run from a start, a name stands for what was last registered under it, or else for
what it stood for at the start, or else for nothing. The entries are the names that were registered
or there at the start, each with what it stands for and in ascending order, so that none is there
twice. The places of registrations of different names do not matter. -/
theorem registerAll_from_start (start : Start) (run : List (String × String)) :
    (∀ name invocation, lastRegistered? name run = some invocation →
        (start.registry.registerAll run).resolve name = .ok invocation) ∧
      (∀ name invocation, lastRegistered? name run = none → (name, invocation) ∈ start.known →
        (start.registry.registerAll run).resolve name = .ok invocation) ∧
      (∀ name, lastRegistered? name run = none → name ∉ start.known.map Prod.fst →
        (start.registry.registerAll run).resolve name = .error (.unresolved name)) ∧
      (start.registry.registerAll run).entries.Pairwise (fun a b => bytes a.1 < bytes b.1) ∧
      (∀ name, name ∈ (start.registry.registerAll run).entries.map Prod.fst ↔
        name ∈ run.map Prod.fst ∨ name ∈ start.known.map Prod.fst) ∧
      (∀ name invocation, (name, invocation) ∈ (start.registry.registerAll run).entries ↔
        (start.registry.registerAll run).resolve name = .ok invocation) ∧
      ∀ run', SameRegistrations run run' →
        (start.registry.registerAll run).entries = (start.registry.registerAll run').entries := by
  refine ⟨?_, ?_, ?_, Registry.sorted _, ?_, ?_, ?_⟩
  · intro name invocation hlast
    exact resolve_registerAll_of_some hlast
  · intro name invocation hlast hknown
    rw [resolve_registerAll_of_none hlast]
    exact mem_entries_iff.1 (start.entries_registry ▸ hknown)
  · intro name hlast hname
    rw [resolve_registerAll_of_none hlast]
    exact resolve_eq_error_iff.2 (start.entries_registry ▸ hname)
  · intro name
    rw [mem_names_registerAll, start.entries_registry]
  · intro name invocation
    exact mem_entries_iff
  · intro run' hrun
    exact entries_registerAll_congr start.registry hrun

/-- A run that gives a new name an invocation twice and replaces one that was there at the start,
and the same run with registrations of the two names in another order. -/
theorem registerAll_csv_twice :
    let run := [("csv", "Csv(1)"), ("pig_storage", "Mine()"), ("csv", "Csv(2)")]
    let run' := [("pig_storage", "Mine()"), ("csv", "Csv(1)"), ("csv", "Csv(2)")]
    (standard.registerAll run).resolve "csv" = .ok "Csv(2)" ∧
      (standard.registerAll run).resolve "json_loader" = .ok "JsonLoader()" ∧
      (empty.registerAll run).resolve "json_loader" = .error (.unresolved "json_loader") ∧
      ("pig_storage", "Mine()") ∈ (standard.registerAll run).entries ∧
      (standard.registerAll run).entries = (standard.registerAll run').entries := by
  intro run run'
  obtain ⟨hlast, hknown, -, -, -, hentries, hsame⟩ := registerAll_from_start .standard run
  obtain ⟨-, -, hnone, -⟩ := registerAll_from_start .empty run
  have hrun : SameRegistrations run run' := by
    intro name
    by_cases hcsv : "csv" = name
    · subst hcsv
      decide
    · simp [run, run', List.filter_cons, hcsv]
  exact ⟨hlast _ _ (by decide), hknown _ _ (by decide) (by decide), hnone _ (by decide) (by decide),
    (hentries _ _).2 (hlast _ _ (by decide)), hsame _ hrun⟩

end PigLatin.Registry
