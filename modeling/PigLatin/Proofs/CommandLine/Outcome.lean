import PigLatin.CommandLine.Outcome
import PigLatin.Proofs.CommandLine.Command
import PigLatin.Proofs.Document.ErrorText
import PigLatin.Proofs.Document.Events

/-!
# What the command that renders leaves behind

The program either writes all the lines of a document or writes nothing but an error, beside what
its log shows, which is nothing with the default filter. With the document among its arguments it
does not matter what standard input is, and without it the document is all of standard input, if
that is text.
-/

namespace PigLatin.CommandLine

/-- All the lines are written to standard output, or else nothing: then the text of the error is
written to standard error. Before it, and alone if there is no error, stands what the log of the
environment shows of the events. -/
inductive Tells (env : Environment) (events : List Event) :
    Except Document.RenderError (List String) → Outcome → Prop where
  | lines (lines : List String) : Tells env events (.ok lines)
      ⟨0, String.join (lines.map fun line => line ++ "\n"), env.log events⟩
  | error {error : Document.RenderError} {text : String} (h : error.Displays env.jsonError text) :
      Tells env events (.error error) ⟨1, "", env.log events ++ text ++ "\n"⟩

section

variable {env : Environment} {events : List Event} {outcome : Outcome}

theorem tells_ok_iff {lines : List String} : Tells env events (.ok lines) outcome ↔
    outcome = ⟨0, String.join (lines.map fun line => line ++ "\n"), env.log events⟩ := by
  constructor
  · intro h
    cases h
    rfl
  · rintro rfl
    exact .lines lines

theorem tells_error_iff {error : Document.RenderError} : Tells env events (.error error) outcome ↔
    outcome = ⟨1, "", env.log events ++ error.message env.jsonError ++ "\n"⟩ := by
  constructor
  · intro h
    cases h with
    | error h => rw [Document.RenderError.displays_iff.1 h]
  · rintro rfl
    exact .error (Document.RenderError.displays_iff.2 rfl)

/-- With the default filter the log stays empty, because no `Event` is as important as a warning. -/
theorem Environment.HasDefaultFilter.log_eq (h : env.HasDefaultFilter) (events : List Event) :
    env.log events = "" := by
  have hnone : events.filter env.shows = [] := by
    refine List.filter_eq_nil_iff.2 fun event _ => ?_
    rw [h event, decide_eq_true_eq]
    exact Nat.not_le_of_lt event.rank_level_lt_warn
  rw [Environment.log, hnone]
  rfl

end

/-- The options are given with the same values, though they may be mixed in another way. -/
def SameValues (given given' : List (Setting × String)) : Prop :=
  ∀ setting, valuesOf setting given = valuesOf setting given'

variable {env : Environment} {arguments spelled spelled' : List String} {command : Command}
  {options : RenderOptions} {given given' : List (Setting × String)} {bytes : ByteArray}
  {text : String}

/-! ## Standard input -/

/-- `String.fromUTF8?` undoes `String.toUTF8` and accepts nothing else. -/
theorem fromUTF8?_eq_some_iff : String.fromUTF8? bytes = some text ↔ text.toUTF8 = bytes := by
  unfold String.fromUTF8?
  constructor
  · intro h
    split at h
    · cases h
      rfl
    · cases h
  · rintro rfl
    have hvalid : text.toUTF8.IsValidUTF8 := text.isValidUTF8
    rw [dif_pos hvalid]
    rfl

theorem fromUTF8?_eq_none_iff :
    String.fromUTF8? bytes = none ↔ ∀ text : String, text.toUTF8 ≠ bytes := by
  simp only [Option.eq_none_iff_forall_ne_some, ne_eq, fromUTF8?_eq_some_iff]

theorem inputText_toUTF8 (text : String) : inputText (some text.toUTF8) = .ok (some text) := by
  have hdecode : String.fromUTF8? text.toUTF8 = some text := fromUTF8?_eq_some_iff.2 rfl
  simp only [inputText, hdecode]

theorem inputText_of_not_text (h : ∀ text : String, text.toUTF8 ≠ bytes) :
    inputText (some bytes) = .error .notText := by
  have hdecode : String.fromUTF8? bytes = none := fromUTF8?_eq_none_iff.2 h
  simp only [inputText, hdecode]

theorem RenderOptions.text?_of_input (hinput : options.input = some text)
    (stdin : Option ByteArray) : options.text? stdin = .ok (some text) := by
  simp only [text?, hinput]

theorem RenderOptions.text?_of_stdin (hinput : options.input = none) (stdin : Option ByteArray) :
    options.text? stdin = inputText stdin := by
  simp only [text?, hinput]

/-- A command that has no use for standard input, by `Command.readsInput`, does the same with
any. -/
theorem run_of_not_readsInput (hparse : Command.parse arguments = .ok command)
    (h : command.readsInput = false) (stdin : Option ByteArray) :
    run env arguments stdin = run env arguments none := by
  simp only [run, hparse]
  cases command with
  | version => rfl
  | help => rfl
  | storage => rfl
  | render options =>
    obtain ⟨text, hinput⟩ : ∃ text, options.input = some text := by
      refine Option.ne_none_iff_exists'.1 fun hnone => ?_
      rw [Command.readsInput, hnone] at h
      cases h
    simp only [Command.run, RenderOptions.lines, RenderOptions.events,
      RenderOptions.text?_of_input hinput]

/-! ## Lines or an error -/

/-- `run` writes the lines of the options or the error, and the events of them. -/
theorem tells_run (env : Environment) (hparse : Command.parse arguments = .ok (.render options))
    (stdin : Option ByteArray) :
    Tells env (options.events stdin) (options.lines stdin) (run env arguments stdin) := by
  simp only [run, hparse, Command.run]
  cases options.lines stdin with
  | ok lines => exact .lines lines
  | error error => exact tells_error_iff.2 rfl

/-- What `RenderOptions.text?` reads is rendered, and the events are those of
`Document.renderEvents`. -/
theorem tells_run_of_text? (hparse : Command.parse arguments = .ok (.render options))
    {stdin : Option ByteArray} (htext : options.text? stdin = .ok (some text)) :
    Tells env (Document.renderEvents (some text) options.storage)
      (Document.render (some text) options.storage) (run env arguments stdin) := by
  have htells := tells_run env hparse stdin
  simp only [RenderOptions.events, RenderOptions.lines, htext] at htells
  exact htells

/-! ## Order of the options -/

/-- `Command.parse` does not see how the options of different settings are mixed. -/
theorem parse_of_sameValues (hspells : Spells given spelled) (hspells' : Spells given' spelled')
    (hsame : SameValues given given')
    (hparse : Command.parse ("render" :: spelled) = .ok (.render options)) :
    Command.parse ("render" :: spelled') = .ok (.render options) := by
  have hread : (RenderOptions.empty.applyAll given).map Command.render = .ok (.render options) := by
    rw [← RenderOptions.read_of_spells hspells]
    exact hparse
  obtain ⟨found, happly, hfound⟩ := Except.map_eq_ok_iff.1 hread
  cases hfound
  have hgives := Command.gives_iff.2 happly
  have hgives' : Command.Gives given' options := by
    refine ⟨?_, ?_⟩
    · rw [← hsame .input]
      exact hgives.input
    · rw [← hsame .storage]
      exact hgives.storage
  exact Command.parse_render_iff.2 ⟨given', hspells', hgives'⟩

/-- When the arguments ask for a document to be rendered, all of its lines are written and nothing
else, or nothing but the text of the error, beside what the log shows; with the default filter that
is nothing. If the document is among the arguments, this is so whatever standard input is, and
nothing depends on that. If it is not, the document is the text of which standard input is the
UTF-8, and the error is that there is no such text if there is none. The arguments spell the
options, and any arguments that give each option the same values in the same order do the same. -/
theorem run_render (env : Environment)
    (hparse : Command.parse arguments = .ok (.render options)) :
    (env.HasDefaultFilter → ∀ events, env.log events = "") ∧
      (∀ text, options.input = some text →
        (∀ stdin, Tells env (Document.renderEvents (some text) options.storage)
          (Document.render (some text) options.storage) (run env arguments stdin)) ∧
          ∀ stdin stdin', run env arguments stdin = run env arguments stdin') ∧
      (options.input = none →
        (∀ text : String, Tells env (Document.renderEvents (some text) options.storage)
          (Document.render (some text) options.storage)
          (run env arguments (some text.toUTF8))) ∧
          ∀ bytes, (∀ text : String, text.toUTF8 ≠ bytes) →
            Tells env [] (.error .notText) (run env arguments (some bytes))) ∧
      ∃ spelled, arguments = "render" :: spelled ∧
        (∃ given, Spells given spelled ∧ Command.Gives given options) ∧
        ∀ given given' spelled', Spells given spelled → Spells given' spelled' →
          SameValues given given' → ∀ stdin, run env ("render" :: spelled') stdin =
            run env arguments stdin := by
  refine ⟨fun hfilter => hfilter.log_eq, fun text hinput => ⟨fun stdin => ?_,
    fun stdin stdin' => ?_⟩, fun hinput => ⟨fun text => ?_, fun bytes hbytes => ?_⟩, ?_⟩
  · exact tells_run_of_text? hparse (options.text?_of_input hinput stdin)
  · have hreads : (Command.render options).readsInput = false := by
      rw [Command.readsInput, hinput]
      rfl
    rw [run_of_not_readsInput hparse hreads stdin, run_of_not_readsInput hparse hreads stdin']
  · refine tells_run_of_text? hparse ?_
    rw [options.text?_of_stdin hinput, inputText_toUTF8]
  · have htext := options.text?_of_stdin hinput (some bytes)
    rw [inputText_of_not_text hbytes] at htext
    have htells := tells_run env hparse (some bytes)
    simp only [RenderOptions.events, RenderOptions.lines, htext] at htells
    exact htells
  · obtain ⟨spelled, rfl, hgiven⟩ := Command.parse_eq_render_iff.1 hparse
    refine ⟨spelled, rfl, hgiven, ?_⟩
    intro given given' spelled' hspells hspells' hsame stdin
    have hparse' := parse_of_sameValues hspells hspells' hsame hparse
    simp only [run, hparse, hparse']

/-- The environment in which the log shows everything, each event as an empty line. -/
def Environment.verbose : Environment := { Environment.standard with shows := fun _ => true }

/-- A store whose function is registered twice, with the options in two orders; and standard input
that is no text. A log that shows everything tells that the document is rendered, that the name of
the function is resolved, and that the store is written. -/
theorem run_render_store :
    let text := "\x7b\"store\":\"R\",\"into\":\"/o\",\"using\":\"gz\"\x7d"
    let outcome : Outcome := ⟨0, "STORE R INTO '/o' USING Gz();\n", ""⟩
    (∀ stdin, run .standard ["render", "-i", text, "-sgz=Old()", "--storage=gz=Gz()"] stdin =
        outcome) ∧
      (∀ stdin, run .standard ["render", "-s", "gz=Old()", "--input", text, "-s=gz=Gz()", "--"]
        stdin = outcome) ∧
      run .standard ["render", "-s", "gz=Gz()"] (some text.toUTF8) = outcome ∧
      run .standard ["render", "-s", "gz=Gz()"] (some ⟨#[255]⟩) =
        ⟨1, "", "IO error: stream did not contain valid UTF-8\n"⟩ ∧
      run .verbose ["render", "-s", "gz=Gz()"] (some text.toUTF8) =
        { outcome with errors := "\n\n\n" } := by
  intro text outcome
  have hparse : Command.parse ["render", "-i", text, "-sgz=Old()", "--storage=gz=Gz()"] =
      .ok (.render ⟨some text, [("gz", "Old()"), ("gz", "Gz()")]⟩) := by
    refine Except.toOption_eq_some_iff.1 ?_
    decide +kernel
  have hparse' : Command.parse ["render", "-s", "gz=Gz()"] =
      .ok (.render ⟨none, [("gz", "Gz()")]⟩) := by
    refine Except.toOption_eq_some_iff.1 ?_
    decide +kernel
  have hrender : ∀ storage ∈ [[("gz", "Gz()")], [("gz", "Old()"), ("gz", "Gz()")]],
      Document.render (some text) storage = .ok ["STORE R INTO '/o' USING Gz();"] := by
    have hoption : ∀ storage ∈ [[("gz", "Gz()")], [("gz", "Old()"), ("gz", "Gz()")]],
        (Document.render (some text) storage).toOption =
          some ["STORE R INTO '/o' USING Gz();"] := by decide +kernel
    exact fun storage hstorage => Except.toOption_eq_some_iff.1 (hoption storage hstorage)
  have hplain : IsPlain text := .inr (by decide +kernel)
  have hspells : Spells [(.input, text), (.storage, "gz=Old()"), (.storage, "gz=Gz()")]
      ["-i", text, "-sgz=Old()", "--storage=gz=Gz()"] :=
    .cons (.short hplain) (.cons (.attached (by decide) (by decide)) (.cons .longEquals .nil))
  have hspells' : Spells [(.storage, "gz=Old()"), (.input, text), (.storage, "gz=Gz()")]
      ["-s", "gz=Old()", "--input", text, "-s=gz=Gz()", "--"] :=
    .cons (.short (.inr (by decide))) (.cons (.long hplain) (.cons .attachedEquals .ended))
  have hinvalid : ∀ decoded : String, decoded.toUTF8 ≠ ⟨#[255]⟩ := by
    refine fromUTF8?_eq_none_iff.1 ?_
    decide +kernel
  have hevents : Document.renderEvents (some text) [("gz", "Gz()")] =
      [.renderingDocument 1, .resolved "gz" "Gz()",
        .renderedStore "STORE R INTO '/o' USING Gz()"] := by
    decide +kernel
  obtain ⟨hquiet, hinput, -, spelled, hspelled, -, hmixed⟩ := run_render .standard hparse
  obtain ⟨-, -, hstdin, -⟩ := run_render .standard hparse'
  obtain ⟨-, -, hstdin', -⟩ := run_render .verbose hparse'
  have hlog := hquiet Environment.hasDefaultFilter_standard
  cases hspelled
  have hrun : ∀ stdin,
      run .standard ["render", "-i", text, "-sgz=Old()", "--storage=gz=Gz()"] stdin = outcome := by
    intro stdin
    have htells := (hinput text rfl).1 stdin
    rw [hrender _ (by decide), tells_ok_iff, hlog] at htells
    exact htells
  refine ⟨hrun, ?_, ?_, ?_, ?_⟩
  · intro stdin
    have hsame : SameValues [(.input, text), (.storage, "gz=Old()"), (.storage, "gz=Gz()")]
        [(.storage, "gz=Old()"), (.input, text), (.storage, "gz=Gz()")] := by
      intro setting
      cases setting <;> rfl
    exact (hmixed _ _ _ hspells hspells' hsame stdin).trans (hrun stdin)
  · have htells := (hstdin rfl).1 text
    rw [hrender _ (by decide), tells_ok_iff, hlog] at htells
    exact htells
  · have htells := (hstdin rfl).2 _ hinvalid
    rw [tells_error_iff, hlog] at htells
    exact htells
  · have htells := (hstdin' rfl).1 text
    rw [hrender _ (by decide), tells_ok_iff, hevents] at htells
    exact htells

end PigLatin.CommandLine
