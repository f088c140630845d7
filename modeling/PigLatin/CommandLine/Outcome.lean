import PigLatin.CommandLine.Command
import PigLatin.CommandLine.Environment

/-!
# Outcomes

What running the program leaves behind: its exit code and what it has written. The document is read
from standard input only where it is not among the arguments.

What depends on more than the arguments and standard input is taken from an `Environment`: which
events the log shows and how, the wording of a fault in the text of a document, the wording of an
error in the arguments and the explanation of their use. That writing can fail, as to a pipe that is
closed, is left out.
-/

namespace PigLatin.CommandLine

/-- What running the program leaves behind. -/
structure Outcome where
  /-- Zero unless something went wrong. -/
  exitCode : UInt8
  /-- What is written to standard output. -/
  output : String
  /-- What is written to standard error. -/
  errors : String
  deriving DecidableEq

/-- What the program says about its version. -/
def versionText : String := "piglet 0.2.0\n"

/-- The text of standard input. Without any, as at a terminal, there is no document. -/
def inputText : Option ByteArray → Except Document.RenderError (Option String)
  | none => .ok none
  | some bytes =>
    match String.fromUTF8? bytes with
    | some text => .ok (some text)
    | none => .error .notText

namespace RenderOptions

/-- The text of the document: the one among the arguments, or else standard input. -/
def text? (options : RenderOptions) (stdin : Option ByteArray) :
    Except Document.RenderError (Option String) :=
  match options.input with
  | some text => .ok (some text)
  | none => inputText stdin

/-- The lines that the options ask for. -/
def lines (options : RenderOptions) (stdin : Option ByteArray) :
    Except Document.RenderError (List String) := do
  Document.render (← options.text? stdin) options.storage

/-- What happens when the lines are written. -/
def events (options : RenderOptions) (stdin : Option ByteArray) : List Event :=
  match options.text? stdin with
  | .ok text => Document.renderEvents text options.storage
  | .error _ => []

end RenderOptions

/-- Does what the program is asked to do. Nothing goes to standard output before all the lines are
there. -/
def Command.run (env : Environment) (stdin : Option ByteArray) : Command → Outcome
  | .version => ⟨0, versionText, ""⟩
  | .help => ⟨0, env.help, ""⟩
  | .storage => ⟨0, Registry.standard.overview?.get Registry.isSome_overview?_standard, ""⟩
  | .render options =>
    let log := env.log (options.events stdin)
    match options.lines stdin with
    | .ok lines => ⟨0, String.join (lines.map fun line => line ++ "\n"), log⟩
    | .error error => ⟨1, "", log ++ error.message env.jsonError ++ "\n"⟩

/-- The command reads its document from standard input. -/
def Command.readsInput : Command → Bool
  | .render options => options.input.isNone
  | _ => false

/-- Runs the program with its arguments and standard input. -/
def run (env : Environment) (arguments : List String) (stdin : Option ByteArray) : Outcome :=
  match Command.parse arguments with
  | .ok command => command.run env stdin
  | .error error => ⟨2, "", env.usageError error⟩

end PigLatin.CommandLine
