/-!
# Quoted text in a script

How a script writes text: between single quotes, with a backslash before each quote and backslash,
and with line feeds and tabs as letters after a backslash.
-/

namespace PigLatin.Chararray

/-- A character as it stands between single quotes. -/
def escape : Char → List Char
  | '\'' => ['\\', '\'']
  | '\\' => ['\\', '\\']
  | '\n' => ['\\', 'n']
  | '\t' => ['\\', 't']
  | c => [c]

/-- The characters between single quotes. -/
def quote (cs : List Char) : List Char := '\'' :: cs.flatMap escape ++ ['\'']

end PigLatin.Chararray
