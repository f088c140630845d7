import PigLatin.Proofs.CommandLine.Command

/-!
# What an assignment says

The first equals sign of an assignment ends the name, so an assignment is read in one way only, and
every name without an equals sign can be assigned any invocation that is not empty. Assignments
reach the program as they are: an option with its value in the same argument keeps that value
whatever it looks like.
-/

namespace PigLatin.CommandLine

/-- An invocation that can be assigned to the name: neither is empty, and the name has no equals
sign. -/
structure IsAssignable (name invocation : String) : Prop where
  name_ne : name ≠ ""
  notMem_name : '=' ∉ name.toList
  invocation_ne : invocation ≠ ""

/-- The argument is the name and an invocation that can be assigned to it, with an equals sign
between them. -/
structure Assigns (argument name invocation : String) : Prop extends
    IsAssignable name invocation where
  written : argument = name ++ "=" ++ invocation

variable {argument name invocation : String}

/-- `Assigns` says where `parseAssignment` cuts: at the first equals sign, with something on both
sides. -/
theorem assigns_iff : Assigns argument name invocation ↔
    argument.toList.takeWhile (· ≠ '=') = name.toList ∧
      argument.toList.dropWhile (· ≠ '=') = '=' :: invocation.toList ∧
        name ≠ "" ∧ invocation ≠ "" := by
  have hwritten : argument = name ++ "=" ++ invocation ↔
      argument.toList = name.toList ++ '=' :: invocation.toList := by
    simp [← String.toList_inj]
  have hequals : ∀ c ∈ ('=' :: invocation.toList).head?, c = '=' := by simp
  rw [← and_assoc, Argument.takeWhile_and_dropWhile_iff hequals, ← hwritten]
  constructor
  · intro h
    exact ⟨⟨h.written, h.notMem_name⟩, h.name_ne, h.invocation_ne⟩
  · rintro ⟨⟨hwritten, hnotMem⟩, hname, hinvocation⟩
    exact ⟨⟨hname, hnotMem, hinvocation⟩, hwritten⟩

theorem Assigns.unique {name' invocation' : String} (h : Assigns argument name invocation)
    (h' : Assigns argument name' invocation') : name = name' ∧ invocation = invocation' := by
  obtain ⟨htake, hdrop, -⟩ := assigns_iff.1 h
  obtain ⟨htake', hdrop', -⟩ := assigns_iff.1 h'
  rw [htake'] at htake
  rw [hdrop'] at hdrop
  exact ⟨String.toList_inj.1 htake.symm, String.toList_inj.1 (List.cons.inj hdrop).2.symm⟩

/-- `parseAssignment` reads an argument as what it `Assigns`, and refuses it as it is if it assigns
nothing. -/
theorem parseAssignment_cases (argument : String) :
    (∃ name invocation, Assigns argument name invocation ∧
        parseAssignment argument = .ok (name, invocation)) ∨
      (∀ name invocation, ¬Assigns argument name invocation) ∧
        parseAssignment argument = .error (.notAssignment argument) := by
  simp only [parseAssignment]
  split
  · next c after hdrop =>
    obtain rfl : c = '=' := by
      have hstops := List.head?_dropWhile_not (fun c => decide (c ≠ '=')) argument.toList
      rw [hdrop] at hstops
      simpa using hstops
    split
    · next hempty =>
      refine .inr ⟨fun name invocation h => ?_, rfl⟩
      obtain ⟨htake, hdrop', hname, hinvocation⟩ := assigns_iff.1 h
      rw [htake, ← (List.cons.inj (hdrop'.symm.trans hdrop)).2] at hempty
      rcases hempty with hnil | hnil
      · exact hname (String.toList_eq_nil_iff.1 hnil)
      · exact hinvocation (String.toList_eq_nil_iff.1 hnil)
    · next hne =>
      obtain ⟨hname, hinvocation⟩ := not_or.1 hne
      refine .inl ⟨_, _, assigns_iff.2 ⟨String.toList_ofList.symm, ?_, ?_, ?_⟩, rfl⟩
      · rw [hdrop, String.toList_ofList]
      · rwa [ne_eq, ← String.toList_eq_nil_iff, String.toList_ofList]
      · rwa [ne_eq, ← String.toList_eq_nil_iff, String.toList_ofList]
  · next hdrop =>
    refine .inr ⟨fun name invocation h => ?_, rfl⟩
    obtain ⟨-, hdrop', -⟩ := assigns_iff.1 h
    rw [hdrop] at hdrop'
    cases hdrop'

theorem parseAssignment_eq_ok_iff :
    parseAssignment argument = .ok (name, invocation) ↔ Assigns argument name invocation := by
  rcases parseAssignment_cases argument with ⟨name', invocation', h, heq⟩ | ⟨hnone, heq⟩
  · rw [heq, Except.ok.injEq, Prod.mk.injEq]
    constructor
    · rintro ⟨rfl, rfl⟩
      exact h
    · exact h.unique
  · rw [heq]
    exact iff_of_false (by simp) (hnone name invocation)

theorem parseAssignment_eq_error_iff {e : UsageError} :
    parseAssignment argument = .error e ↔
      e = .notAssignment argument ∧ ∀ name invocation, ¬Assigns argument name invocation := by
  rcases parseAssignment_cases argument with ⟨name, invocation, h, heq⟩ | ⟨hnone, heq⟩
  · rw [heq]
    exact iff_of_false (by simp) fun hnone => hnone.2 name invocation h
  · rw [heq, Except.error.injEq, eq_comm]
    exact (and_iff_left hnone).symm

/-! ## Assignments among the arguments -/

/-- The option that each of the assignments is given to, with the assignment as its value. -/
def assignments (pairs : List (String × String)) : List (Setting × String) :=
  pairs.map fun pair => (.storage, pair.1 ++ "=" ++ pair.2)

/-- The assignments as arguments, each in one argument with the name of the option. -/
def assignmentArguments (pairs : List (String × String)) : List String :=
  pairs.map fun pair => Setting.storage.longForm ++ "=" ++ (pair.1 ++ "=" ++ pair.2)

/-- Every list of pairs can be spelled, each as `--storage=name=invocation`. -/
theorem spells_assignmentArguments (pairs : List (String × String)) :
    Spells (assignments pairs) (assignmentArguments pairs) := by
  induction pairs with
  | nil => exact .nil
  | cons pair pairs ih => exact .cons .longEquals ih

theorem valuesOf_assignments (setting : Setting) (pairs : List (String × String)) :
    valuesOf setting (assignments pairs) =
      if .storage = setting then pairs.map fun pair => pair.1 ++ "=" ++ pair.2 else [] := by
  by_cases h : .storage = setting <;>
    simp [valuesOf, assignments, List.filter_map, Function.comp_def, h]

/-- Pairs that are `IsAssignable` are read as they were put together. -/
theorem mapM_parseAssignment {pairs : List (String × String)}
    (h : ∀ pair ∈ pairs, IsAssignable pair.1 pair.2) :
    (pairs.map fun pair => pair.1 ++ "=" ++ pair.2).mapM parseAssignment = .ok pairs := by
  rw [Except.mapM_eq_ok_iff, List.forall₂_map_left_iff, List.forall₂_same]
  intro pair hpair
  exact parseAssignment_eq_ok_iff.2 ⟨h pair hpair, rfl⟩

theorem parse_of_spells_assignments {pairs : List (String × String)} {spelled : List String}
    (h : ∀ pair ∈ pairs, IsAssignable pair.1 pair.2)
    (hspells : Spells (assignments pairs) spelled) :
    Command.parse ("render" :: spelled) = .ok (.render ⟨none, pairs⟩) := by
  refine Command.parse_render_iff.2 ⟨_, hspells, ?_, ?_⟩
  · rw [valuesOf_assignments]
    rfl
  · rw [valuesOf_assignments]
    exact mapM_parseAssignment h

/-- An argument is read as a name with an invocation exactly if it is these two with an equals sign
between them, where neither is empty and the name has no equals sign; any other argument is refused
with an error that quotes it. So an argument is read in one way only, and any invocations can be
given to the program under any such names: it takes them as they are, in whatever way the arguments
spell them, and there is always a way. -/
theorem parseAssignment_iff (argument : String) :
    (∀ name invocation, parseAssignment argument = .ok (name, invocation) ↔
        Assigns argument name invocation) ∧
      (∀ e, parseAssignment argument = .error e ↔
        e = .notAssignment argument ∧ ∀ name invocation, ¬Assigns argument name invocation) ∧
      (UsageError.notAssignment argument).message =
        "expected name=invocation, got '" ++ argument ++ "'" ∧
      (∀ name invocation name' invocation', Assigns argument name invocation →
        Assigns argument name' invocation' → name = name' ∧ invocation = invocation') ∧
      ∀ pairs : List (String × String), (∀ pair ∈ pairs, IsAssignable pair.1 pair.2) →
        Spells (assignments pairs) (assignmentArguments pairs) ∧
          ∀ spelled, Spells (assignments pairs) spelled →
            Command.parse ("render" :: spelled) = .ok (.render ⟨none, pairs⟩) := by
  refine ⟨fun name invocation => parseAssignment_eq_ok_iff,
    fun e => parseAssignment_eq_error_iff, rfl, fun _ _ _ _ h h' => h.unique h',
    fun pairs hpairs => ⟨spells_assignmentArguments pairs, fun spelled hspells => ?_⟩⟩
  exact parse_of_spells_assignments hpairs hspells

/-- An invocation with equals signs of its own, under a name that looks like an option; and an
argument that starts with the equals sign. -/
theorem parseAssignment_dash :
    parseAssignment "-x=F('a=b')" = .ok ("-x", "F('a=b')") ∧
      parseAssignment "=F()" = .error (.notAssignment "=F()") ∧
      Command.parse ["render", "-s=-x=F('a=b')", "--storage", "y=="] =
        .ok (.render ⟨none, [("-x", "F('a=b')"), ("y", "=")]⟩) := by
  have hdash : IsAssignable "-x" "F('a=b')" := ⟨by decide, by decide, by decide⟩
  have hequals : IsAssignable "y" "=" := ⟨by decide, by decide, by decide⟩
  have hspells : Spells (assignments [("-x", "F('a=b')"), ("y", "=")])
      ["-s=-x=F('a=b')", "--storage", "y=="] :=
    .cons .attachedEquals (.cons (.long (.inr (by decide))) .nil)
  refine ⟨((parseAssignment_iff _).1 _ _).2 ⟨hdash, rfl⟩, ?_, ?_⟩
  · refine ((parseAssignment_iff _).2.1 _).2 ⟨rfl, fun name invocation h => ?_⟩
    obtain ⟨htake, -, hname, -⟩ := assigns_iff.1 h
    have hnil : "=F()".toList.takeWhile (· ≠ '=') = [] := by decide
    exact hname (String.toList_eq_nil_iff.1 (htake.symm.trans hnil))
  · obtain ⟨-, -, -, -, hall⟩ := parseAssignment_iff ""
    refine (hall _ ?_).2 _ hspells
    simpa using ⟨hdash, hequals⟩

end PigLatin.CommandLine
