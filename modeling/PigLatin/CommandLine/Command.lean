import PigLatin.CommandLine.Argument
import PigLatin.CommandLine.Assignment

/-!
# Commands

What the arguments ask the program to do. They are read from left to right. The value of an option
that stands in an argument of its own is used when the next option comes, or at the end: an argument
that cannot be there at all is therefore found before a value that is wrong.
-/

namespace PigLatin.CommandLine

/-- What to render. -/
structure RenderOptions where
  /-- The document, if it is among the arguments. -/
  input : Option String
  /-- Storage functions beside those that are always there, with their names. -/
  storage : List (String × String)
  deriving DecidableEq, Repr

/-- What the program is asked to do. -/
inductive Command where
  /-- To tell its version. -/
  | version
  /-- To tell how it is used. -/
  | help
  /-- To list the storage functions that are always there. -/
  | storage
  /-- To render a document. -/
  | render (options : RenderOptions)
  deriving DecidableEq, Repr

/-! ## Options for rendering -/

/-- An option whose value is not used yet: it is in an argument of its own, and may still be to
come. -/
structure Pending where
  /-- The option. -/
  setting : Setting
  /-- Its value, once it has come. -/
  value : Option String

namespace RenderOptions

/-- No options at all. -/
def empty : RenderOptions := ⟨none, []⟩

/-- Uses the value of an option. -/
def apply (options : RenderOptions) (setting : Setting) (value : String) :
    Except UsageError RenderOptions :=
  match setting with
  | .input =>
    if options.input.isSome then .error (.repeated .input)
    else .ok { options with input := some value }
  | .storage => do
    let pair ← parseAssignment value
    return { options with storage := options.storage ++ [pair] }

/-- Uses the value that is not used yet. -/
def settle (options : RenderOptions) : Option Pending → Except UsageError RenderOptions
  | none => .ok options
  | some ⟨setting, some value⟩ => options.apply setting value
  | some ⟨setting, none⟩ => .error (.missingValue setting)

/-- Nothing may stand after the end of the options. -/
def finish (options : RenderOptions) (pending : Option Pending) :
    List String → Except UsageError Command
  | [] => do return .render (← options.settle pending)
  | argument :: _ => .error (.unexpected argument)

/-- Reads the arguments of the command that renders. -/
def read (options : RenderOptions) (pending : Option Pending) :
    List String → Except UsageError Command
  | [] => options.finish pending []
  | argument :: arguments =>
    match Argument.ofString argument, pending with
    | .endOfOptions, _ => options.finish pending arguments
    | .setting setting value, _ => do
      let options ← options.settle pending
      match value with
      | some value => (← options.apply setting value).read none arguments
      | none => options.read (some ⟨setting, none⟩) arguments
    | .help, _ => do
      let _ ← options.settle pending
      return .help
    | .plain, some ⟨setting, none⟩ => options.read (some ⟨setting, some argument⟩) arguments
    | _, _ => .error (.unexpected argument)

end RenderOptions

/-! ## Commands -/

namespace Command

/-- Reads the arguments of the command that lists storage functions: it has none. -/
def readStorage : List String → Except UsageError Command
  | [] => .ok .storage
  | argument :: arguments =>
    match Argument.ofString argument, arguments with
    | .help, _ => .ok .help
    | .endOfOptions, [] => .ok .storage
    | _, _ => .error (.unexpected argument)

/-- Reads the arguments of the command that tells how the program is used: at most one, the name of
a command. -/
def readHelp : List String → Except UsageError Command
  | [] => .ok .help
  | [name] =>
    if name ∈ ["render", "storage", "help"] then .ok .help else .error (.unknownCommand name)
  | _ :: argument :: _ => .error (.unexpected argument)

/-- Reads all the arguments of the program. -/
def parse : List String → Except UsageError Command
  | [] => .error .noCommand
  | "render" :: arguments => RenderOptions.empty.read none arguments
  | "storage" :: arguments => readStorage arguments
  | "help" :: arguments => readHelp arguments
  | argument :: _ =>
    match Argument.ofString argument with
    | .version => .ok .version
    | .help => .ok .help
    | .endOfOptions => .error .noCommand
    | .plain => .error (.unknownCommand argument)
    | _ => .error (.unexpected argument)

end Command

end PigLatin.CommandLine
