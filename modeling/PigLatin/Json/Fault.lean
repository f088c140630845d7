/-!
# Faults in the text of a document

How reading a document can fail. A reader takes what it reads off the front of the text and hands on
the rest, or says what is wrong at the first character that cannot be right.
-/

namespace PigLatin.Json

/-- What is wrong with the text of a document. -/
inductive Fault where
  /-- The text ends before the document does. -/
  | unfinished
  /-- The text cannot be continued to a document. -/
  | malformed
  deriving DecidableEq, Repr

/-- Reads something off the front of the text. -/
abbrev Reader (α : Type) := List Char → Except Fault (α × List Char)

end PigLatin.Json
