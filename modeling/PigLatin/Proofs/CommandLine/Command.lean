import PigLatin.CommandLine.Command
import PigLatin.Proofs.CommandLine.Argument
import PigLatin.Proofs.Except

/-!
# What the arguments of a command say

The arguments after the name of the command that renders spell a list of options with their values,
in the order in which they are given. Reading the arguments uses these values one after the other,
and arguments that spell no such list are not accepted. What is found in the end is the value of the
one option and the values of the other in their order: how the two are mixed is forgotten.
-/

namespace PigLatin.CommandLine

/-- The arguments spell the options with their values. Nothing has to mark their end. -/
inductive Spells : List (Setting × String) → List String → Prop where
  | nil : Spells [] []
  | ended : Spells [] ["--"]
  | cons {setting : Setting} {value : String} {given : List (Setting × String)}
      {spelling rest : List String} (hwrites : Writes setting value spelling)
      (hrest : Spells given rest) : Spells ((setting, value) :: given) (spelling ++ rest)

/-- The values given for the option, in their order. -/
def valuesOf (setting : Setting) (given : List (Setting × String)) : List String :=
  (given.filter fun pair => pair.1 = setting).map Prod.snd

namespace RenderOptions

variable {options result : RenderOptions} {setting : Setting} {value argument : String}
  {given : List (Setting × String)} {arguments rest : List String} {pending : Option Pending}

/-- Uses the values of options one after the other. -/
def applyAll (options : RenderOptions) (given : List (Setting × String)) :
    Except UsageError RenderOptions :=
  given.foldlM (fun options pair => options.apply pair.1 pair.2) options

theorem applyAll_cons (options : RenderOptions) (setting : Setting) (value : String)
    (given : List (Setting × String)) :
    options.applyAll ((setting, value) :: given) =
      options.apply setting value >>= fun options => options.applyAll given :=
  List.foldlM_cons

/-! ## Reading one argument -/

/-- Before the next option is looked at, `settle` uses the value that is `Pending`. -/
theorem read_setting {attached : Option String}
    (h : Argument.ofString argument = .setting setting attached) :
    options.read pending (argument :: arguments) =
      options.settle pending >>= fun options => options.read none (argument :: arguments) := by
  cases pending with
  | none => rfl
  | some pending =>
    simp only [read, h]
    rfl

theorem read_alone (h : Argument.ofString argument = .setting setting none) :
    options.read none (argument :: arguments) =
      options.read (some ⟨setting, none⟩) arguments := by
  simp only [read, h]
  rfl

theorem read_attached (h : Argument.ofString argument = .setting setting (some value)) :
    options.read none (argument :: arguments) =
      options.apply setting value >>= fun options => options.read none arguments := by
  simp only [read, h]
  rfl

theorem read_value (h : IsPlain value) :
    options.read (some ⟨setting, none⟩) (value :: arguments) =
      options.read (some ⟨setting, some value⟩) arguments := by
  simp only [read, Argument.ofString_eq_plain_iff.2 h]

/-! ## Reading all that is spelled -/

/-- A `Pending` value is used before anything else, though `read` uses it only when the next option
comes. -/
theorem read_pending (h : Spells given rest) :
    options.read (some ⟨setting, some value⟩) rest =
      options.apply setting value >>= fun options => options.read none rest := by
  cases h with
  | nil => rfl
  | ended => rfl
  | cons hwrites hrest =>
    obtain ⟨first, tail, attached, rfl, hfirst⟩ := Argument.exists_setting_of_writes hwrites
    exact read_setting hfirst

/-- `read` applies an option as soon as it is spelled in full, in whatever way `Writes` spells
it. -/
theorem read_writes {spelling : List String} (hwrites : Writes setting value spelling)
    (hrest : Spells given rest) :
    options.read none (spelling ++ rest) =
      options.apply setting value >>= fun options => options.read none rest := by
  cases hwrites with
  | short hplain =>
    have hform := Argument.ofString_eq_setting_none_iff.2 (.inl (Eq.refl setting.shortForm))
    show options.read none (setting.shortForm :: value :: rest) = _
    rw [read_alone hform, read_value hplain, read_pending hrest]
  | long hplain =>
    have hform := Argument.ofString_eq_setting_none_iff.2 (.inr (Eq.refl setting.longForm))
    show options.read none (setting.longForm :: value :: rest) = _
    rw [read_alone hform, read_value hplain, read_pending hrest]
  | attached hne hequals =>
    exact read_attached (Argument.ofString_eq_setting_some_iff.2 (.attached hne hequals))
  | attachedEquals => exact read_attached (Argument.ofString_eq_setting_some_iff.2 .attachedEquals)
  | longEquals => exact read_attached (Argument.ofString_eq_setting_some_iff.2 .longEquals)

/-- `read` does with spelled options what `applyAll` does with the options themselves. -/
theorem read_of_spells (h : Spells given arguments) :
    options.read none arguments = (options.applyAll given).map .render := by
  induction h generalizing options with
  | nil => rfl
  | ended => rfl
  | cons hwrites hrest ih =>
    rw [read_writes hwrites hrest, applyAll_cons]
    cases options.apply _ _ with
    | error e => rfl
    | ok options => exact ih

/-! ## Nothing else is read -/

/-- The arguments spell the options with their values, of which the first may have been begun
before. -/
inductive Completes : Option Pending → List (Setting × String) → List String → Prop where
  | whole {given : List (Setting × String)} {arguments : List String}
      (hspells : Spells given arguments) : Completes none given arguments
  | unused {setting : Setting} {value : String} {given : List (Setting × String)}
      {arguments : List String} (hspells : Spells given arguments) :
      Completes (some ⟨setting, some value⟩) ((setting, value) :: given) arguments
  | missing {setting : Setting} {value : String} {given : List (Setting × String)}
      {arguments : List String} (hplain : IsPlain value) (hspells : Spells given arguments) :
      Completes (some ⟨setting, none⟩) ((setting, value) :: given) (value :: arguments)

/-- A value that `settle` uses was begun before. -/
theorem completes_of_settle {settled : RenderOptions}
    (hsettle : options.settle pending = .ok settled) (hspells : Spells given arguments)
    (happly : settled.applyAll given = .ok result) :
    ∃ all, Completes pending all arguments ∧ options.applyAll all = .ok result := by
  match pending, hsettle with
  | none, hsettle =>
    cases hsettle
    exact ⟨given, .whole hspells, happly⟩
  | some ⟨setting, some value⟩, hsettle =>
    refine ⟨_, .unused hspells, ?_⟩
    rw [applyAll_cons]
    exact Except.bind_eq_ok_iff.2 ⟨settled, hsettle, happly⟩

/-- Nothing is left when `finish` ends the options. -/
theorem completes_of_finish {spelled : List String}
    (h : options.finish pending arguments = .ok (.render result))
    (hspells : arguments = [] → Spells [] spelled) :
    ∃ all, Completes pending all spelled ∧ options.applyAll all = .ok result := by
  cases arguments with
  | nil =>
    obtain ⟨settled, hsettle, hrender⟩ := Except.bind_eq_ok_iff.1 h
    cases hrender
    exact completes_of_settle hsettle (hspells rfl) rfl
  | cons argument arguments => cases h

theorem completes_of_read
    (h : options.read pending arguments = .ok (.render result)) :
    ∃ given, Completes pending given arguments ∧ options.applyAll given = .ok result := by
  -- The arguments are read from the left, and a step never looks at more than the first of them.
  induction arguments generalizing options pending with
  | nil => exact completes_of_finish h fun _ => .nil
  | cons argument arguments ih =>
    cases hargument : Argument.ofString argument with
    | endOfOptions =>
      obtain rfl := Argument.eq_of_ofString_eq_endOfOptions hargument
      refine completes_of_finish h ?_
      rintro rfl
      exact .ended
    | setting setting attached =>
      rw [read_setting hargument] at h
      obtain ⟨settled, hsettle, h⟩ := Except.bind_eq_ok_iff.1 h
      cases attached with
      | some value =>
        rw [read_attached hargument] at h
        obtain ⟨applied, happly, h⟩ := Except.bind_eq_ok_iff.1 h
        obtain ⟨given, hcompletes, hall⟩ := ih h
        cases hcompletes with
        | whole hspells =>
          have hwrites := Argument.ofString_eq_setting_some_iff.1 hargument
          refine completes_of_settle hsettle (.cons hwrites hspells) ?_
          rw [applyAll_cons]
          exact Except.bind_eq_ok_iff.2 ⟨applied, happly, hall⟩
      | none =>
        rw [read_alone hargument] at h
        obtain ⟨given, hcompletes, hall⟩ := ih h
        cases hcompletes with
        | missing hplain hspells =>
          rcases Argument.ofString_eq_setting_none_iff.1 hargument with rfl | rfl
          · exact completes_of_settle hsettle (.cons (.short hplain) hspells) hall
          · exact completes_of_settle hsettle (.cons (.long hplain) hspells) hall
    | help =>
      simp only [read, hargument] at h
      obtain ⟨settled, -, hhelp⟩ := Except.bind_eq_ok_iff.1 h
      cases hhelp
    | plain =>
      have hplain := Argument.ofString_eq_plain_iff.1 hargument
      match pending, h with
      | none, h =>
        simp only [read, hargument] at h
        cases h
      | some ⟨setting, some value⟩, h =>
        simp only [read, hargument] at h
        cases h
      | some ⟨setting, none⟩, h =>
        rw [read_value hplain] at h
        obtain ⟨given, hcompletes, hall⟩ := ih h
        cases hcompletes with
        | unused hspells => exact ⟨_, .missing hplain hspells, hall⟩
    | version =>
      simp only [read, hargument] at h
      cases h
    | unknown =>
      simp only [read, hargument] at h
      cases h

theorem read_eq_render_iff : options.read none arguments = .ok (.render result) ↔
    ∃ given, Spells given arguments ∧ options.applyAll given = .ok result := by
  constructor
  · intro h
    obtain ⟨given, hcompletes, hall⟩ := completes_of_read h
    cases hcompletes with
    | whole hspells => exact ⟨given, hspells, hall⟩
  · rintro ⟨given, hspells, hall⟩
    rw [read_of_spells hspells, hall]
    rfl

/-! ## What is found in the end -/

theorem apply_input_eq_ok_iff : options.apply .input value = .ok result ↔
    options.input = none ∧ result = ⟨some value, options.storage⟩ := by
  cases hinput : options.input with
  | none =>
    have happly : options.apply .input value = .ok ⟨some value, options.storage⟩ := by
      simp [apply, hinput]
    rw [happly, Except.ok.injEq, eq_comm]
    exact (and_iff_right rfl).symm
  | some text =>
    have happly : options.apply .input value = .error (.repeated .input) := by
      simp [apply, hinput]
    rw [happly]
    exact iff_of_false nofun nofun

theorem apply_storage_eq_ok_iff : options.apply .storage value = .ok result ↔
    ∃ pair, parseAssignment value = .ok pair ∧
      result = ⟨options.input, options.storage ++ [pair]⟩ := by
  show (parseAssignment value >>= fun pair => _) = _ ↔ _
  rw [Except.bind_eq_ok_iff]
  refine exists_congr fun pair => and_congr_right fun _ => ?_
  exact ⟨fun h => (Except.ok.inj h).symm, fun h => congrArg Except.ok h.symm⟩

/-- The document is given at most once, and the storage functions are those that `valuesOf` finds,
in their order. -/
theorem applyAll_eq_ok_iff : options.applyAll given = .ok result ↔
    options.input.toList ++ valuesOf .input given = result.input.toList ∧
      ∃ storage, (valuesOf .storage given).mapM parseAssignment = .ok storage ∧
        options.storage ++ storage = result.storage := by
  induction given generalizing options with
  | nil =>
    obtain ⟨input, storage⟩ := options
    obtain ⟨input', storage'⟩ := result
    have hinput : input.toList = input'.toList ↔ input = input' := by
      cases input <;> cases input' <;> simp
    simp [applyAll, valuesOf, pure, Except.pure, hinput]
  | cons pair given ih =>
    obtain ⟨setting, value⟩ := pair
    rw [applyAll_cons, Except.bind_eq_ok_iff]
    cases setting with
    | input =>
      have hinput : valuesOf .input ((.input, value) :: given) = value :: valuesOf .input given :=
        rfl
      have hstorage : valuesOf .storage ((.input, value) :: given) = valuesOf .storage given := rfl
      simp only [apply_input_eq_ok_iff, hinput, hstorage]
      constructor
      · rintro ⟨_, ⟨hnone, rfl⟩, hrest⟩
        rw [hnone]
        exact ih.1 hrest
      · rintro ⟨hvalues, hstorage⟩
        cases hnone : options.input with
        | none =>
          rw [hnone] at hvalues
          exact ⟨_, ⟨rfl, rfl⟩, ih.2 ⟨hvalues, hstorage⟩⟩
        | some text =>
          rw [hnone] at hvalues
          cases hresult : result.input <;> simp [hresult] at hvalues
    | storage =>
      have hinput : valuesOf .input ((.storage, value) :: given) = valuesOf .input given := rfl
      have hstorage : valuesOf .storage ((.storage, value) :: given) =
        value :: valuesOf .storage given := rfl
      simp only [apply_storage_eq_ok_iff, hinput, hstorage]
      constructor
      · rintro ⟨_, ⟨pair, hpair, rfl⟩, hrest⟩
        obtain ⟨hvalues, storage, hall, happend⟩ := ih.1 hrest
        refine ⟨hvalues, pair :: storage,
          Except.mapM_cons_eq_ok_iff.2 ⟨pair, storage, hpair, hall, rfl⟩, ?_⟩
        rw [← happend, List.append_assoc]
        rfl
      · rintro ⟨hvalues, storage, hall, happend⟩
        obtain ⟨pair, rest, hpair, hrest, rfl⟩ := Except.mapM_cons_eq_ok_iff.1 hall
        refine ⟨_, ⟨pair, hpair, rfl⟩, ih.2 ⟨hvalues, rest, hrest, ?_⟩⟩
        rw [← happend, List.append_assoc]
        rfl

end RenderOptions

namespace Command

variable {arguments : List String} {options : RenderOptions}

/-- The options in given arguments of the command that renders. -/
structure Gives (given : List (Setting × String)) (options : RenderOptions) : Prop where
  /-- The document is given once, or not at all. -/
  input : valuesOf .input given = options.input.toList
  /-- The storage functions are the ones given, in their order. -/
  storage : (valuesOf .storage given).mapM parseAssignment = .ok options.storage

/-- `Gives` describes what `applyAll` makes of the options, without saying how. -/
theorem gives_iff {given : List (Setting × String)} :
    Gives given options ↔ RenderOptions.empty.applyAll given = .ok options := by
  rw [RenderOptions.applyAll_eq_ok_iff]
  constructor
  · intro h
    exact ⟨h.input, options.storage, h.storage, rfl⟩
  · rintro ⟨hinput, storage, hstorage, rfl⟩
    exact ⟨hinput, hstorage⟩

/-- The arguments after `render` are accepted exactly if they are spelled options that give
something to render. -/
theorem parse_render_iff {spelled : List String} :
    parse ("render" :: spelled) = .ok (.render options) ↔
      ∃ given, Spells given spelled ∧ Gives given options := by
  simp only [gives_iff]
  exact RenderOptions.read_eq_render_iff

theorem readStorage_ne_render : readStorage arguments ≠ .ok (.render options) := by
  unfold readStorage
  split
  · nofun
  · split <;> nofun

theorem readHelp_ne_render : readHelp arguments ≠ .ok (.render options) := by
  unfold readHelp
  split
  · nofun
  · split <;> nofun
  · nofun

/-- `Command.parse` finds the command `render` in no other arguments. -/
theorem parse_eq_render_iff : parse arguments = .ok (.render options) ↔
    ∃ spelled, arguments = "render" :: spelled ∧
      ∃ given, Spells given spelled ∧ Gives given options := by
  constructor
  · intro h
    unfold parse at h
    split at h
    · cases h
    · next spelled => exact ⟨spelled, rfl, parse_render_iff.1 h⟩
    · exact absurd h readStorage_ne_render
    · exact absurd h readHelp_ne_render
    · split at h <;> cases h
  · rintro ⟨spelled, rfl, hgiven⟩
    exact parse_render_iff.2 hgiven

end Command

end PigLatin.CommandLine
