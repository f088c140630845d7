import PigLatin.CommandLine.Usage

/-!
# Arguments

What a single argument of the program can be. An option has a long name after two dashes or a letter
after one; its value stands in the same argument or in the next one.
-/

namespace PigLatin.CommandLine

/-- A single argument. -/
inductive Argument where
  /-- An option, with its value if that stands in the same argument. -/
  | setting (setting : Setting) (value : Option String)
  /-- The request for help. -/
  | help
  /-- The request for the version. -/
  | version
  /-- Something with the form of an option that is none. -/
  | unknown
  /-- The mark after which nothing is an option. -/
  | endOfOptions
  /-- Anything else. -/
  | plain
  deriving DecidableEq, Repr

namespace Argument

/-- The value behind a letter, with or without an equals sign before it. -/
def attached? : List Char → Option String
  | [] => none
  | '=' :: value => some (String.ofList value)
  | value => some (String.ofList value)

/-- What stands after two dashes. -/
def ofLong (cs : List Char) : Argument :=
  let name := String.ofList (cs.takeWhile (· ≠ '='))
  let value := attached? (cs.dropWhile (· ≠ '='))
  match Setting.all.find? fun setting => setting.name = name with
  | some known => .setting known value
  | none =>
    if value.isSome then .unknown
    else if name = "help" then .help
    else if name = "version" then .version
    else .unknown

/-- What stands after one dash. -/
def ofShort (letter : Char) (rest : List Char) : Argument :=
  match Setting.all.find? fun setting => setting.letter = letter with
  | some known => .setting known (attached? rest)
  | none =>
    if letter = 'h' then .help
    else if letter = 'V' then .version
    else .unknown

/-- What the argument is. A single dash is nothing special. -/
def ofString (s : String) : Argument :=
  match s.toList with
  | ['-', '-'] => .endOfOptions
  | '-' :: '-' :: name => ofLong name
  | '-' :: letter :: rest => ofShort letter rest
  | _ => .plain

end Argument

end PigLatin.CommandLine
