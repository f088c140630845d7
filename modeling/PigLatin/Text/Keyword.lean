import PigLatin.Text.Blank

/-!
# Keywords

A keyword may be written in either case and between blanks. Only the letters of ASCII have two
cases here, so that no look-alike of another script is ever read as one.
-/

namespace PigLatin.Text

/-- The text with its ASCII capital letters made small. -/
def lowerCase (s : String) : String := String.ofList (s.toList.map Char.toLower)

@[simp] theorem toList_lowerCase (s : String) :
    (lowerCase s).toList = s.toList.map Char.toLower := by
  simp [lowerCase]

end PigLatin.Text
