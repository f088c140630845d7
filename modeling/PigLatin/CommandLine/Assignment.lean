import PigLatin.CommandLine.Usage

/-!
# Assignments

The name of a storage function and its invocation in one argument, with an equals sign between them.
The first equals sign ends the name, so an invocation may hold more of them.
-/

namespace PigLatin.CommandLine

/-- The name and the invocation that the argument assigns to it. Neither may be empty. -/
def parseAssignment (argument : String) : Except UsageError (String × String) :=
  let name := argument.toList.takeWhile (· ≠ '=')
  match argument.toList.dropWhile (· ≠ '=') with
  | _ :: invocation =>
    if name = [] ∨ invocation = [] then .error (.notAssignment argument)
    else .ok (String.ofList name, String.ofList invocation)
  | [] => .error (.notAssignment argument)

end PigLatin.CommandLine
