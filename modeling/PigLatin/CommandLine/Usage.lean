/-!
# Usage errors

The ways in which the arguments of the program can be wrong.
-/

namespace PigLatin.CommandLine

/-- An option of the program that takes a value. -/
inductive Setting where
  /-- The document itself. -/
  | input
  /-- A storage function, with its name. -/
  | storage
  deriving DecidableEq, Repr

/-- The long name of the option. -/
def Setting.name : Setting → String
  | .input => "input"
  | .storage => "storage"

/-- The short name of the option. -/
def Setting.letter : Setting → Char
  | .input => 'i'
  | .storage => 's'

/-- Every option that takes a value. -/
def Setting.all : List Setting := [.input, .storage]

/-- What is wrong with the arguments of the program. -/
inductive UsageError where
  /-- No command is given. -/
  | noCommand
  /-- The argument is no command. -/
  | unknownCommand (argument : String)
  /-- The argument is no option, or stands where none is expected. -/
  | unexpected (argument : String)
  /-- The option is given without its value. -/
  | missingValue (setting : Setting)
  /-- The option is given twice but has only one value. -/
  | repeated (setting : Setting)
  /-- The value is no storage function with its name. -/
  | notAssignment (value : String)
  deriving DecidableEq, Repr

/-- The wording of the error. Only that of `notAssignment` is the program's own; the others are
worded by the reader of arguments. -/
def UsageError.message : UsageError → String
  | .noCommand => "a command is required"
  | .unknownCommand argument => "unknown command '" ++ argument ++ "'"
  | .unexpected argument => "unexpected argument '" ++ argument ++ "'"
  | .missingValue setting => "a value is required for '--" ++ setting.name ++ "'"
  | .repeated setting => "'--" ++ setting.name ++ "' cannot be used multiple times"
  | .notAssignment value => "expected name=invocation, got '" ++ value ++ "'"

end PigLatin.CommandLine
