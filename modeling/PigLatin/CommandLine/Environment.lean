import PigLatin.CommandLine.Usage
import PigLatin.Document.Events

/-!
# Environments

What the program depends on beside its arguments and its standard input: the filter of its log, and
wordings that are not its own. The log is written to standard error. A line of it tells the time
too, so it is not determined by the event.
-/

namespace PigLatin.CommandLine

/-- What the program finds where it runs. -/
structure Environment where
  /-- The filter of the log lets the event through. -/
  shows : Event → Bool
  /-- The line that is written for an event that is shown, by the number of those before it. -/
  logLine : Nat → Event → String
  /-- How the reader of documents words the fault of a text. -/
  jsonError : String → Json.Fault → String
  /-- How the reader of arguments words what is wrong with them. -/
  usageError : UsageError → String
  /-- How the reader of arguments explains their use. -/
  help : String

namespace Environment

/-- What the log shows of the events. -/
def log (env : Environment) (events : List Event) : String :=
  String.join ((events.filter env.shows).mapIdx env.logLine)

/-- The filter is the one that is used where no other is asked for: it shows warnings and errors. -/
def HasDefaultFilter (env : Environment) : Prop :=
  ∀ event, env.shows event = decide (Level.warn.rank ≤ event.level.rank)

/-- The environment with the default filter and with wordings that say no more than they have to. -/
def standard : Environment where
  shows event := decide (Level.warn.rank ≤ event.level.rank)
  logLine _ _ := "\n"
  jsonError _ fault :=
    match fault with
    | .unfinished => "the text ends before the document does"
    | .malformed => "the text is not a document"
  usageError error := "error: " ++ error.message ++ "\n"
  help :=
    "Usage: piglet render [--input JSON] [--storage NAME=INVOCATION]...\n" ++
    "       piglet storage\n"

theorem hasDefaultFilter_standard : standard.HasDefaultFilter := fun _ => rfl

end Environment

end PigLatin.CommandLine
