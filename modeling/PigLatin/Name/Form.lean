/-!
# Forms of names

A name is one word, or several words joined by a separator. Its form says which characters may start
a word, which may continue one, and what the separator is; a name is recognised by one scan from
left to right, which at each character knows what may come next.
-/

namespace PigLatin

/-- The form of a family of names. -/
structure NameForm where
  /-- The character may start a word. -/
  starts : Char → Bool
  /-- The character may continue a word. -/
  continues : Char → Bool
  /-- What joins two words; empty where a name is a single word. -/
  separator : List Char

namespace NameForm

/-- Where a scan stands in a name. -/
inductive Position where
  /-- Within a word, so that the name may end here. -/
  | inWord
  /-- Before a word, with this much of a separator still to come. -/
  | beforeWord (awaited : List Char)

/-- The rest of a name, read from a position in it. -/
def scan (form : NameForm) : Position → List Char → Bool
  | .inWord, [] => true
  | .beforeWord _, [] => false
  | .beforeWord [], c :: cs => form.starts c && form.scan .inWord cs
  | .beforeWord (s :: awaited), c :: cs => c == s && form.scan (.beforeWord awaited) cs
  | .inWord, c :: cs =>
    if form.continues c then form.scan .inWord cs
    else
      match form.separator with
      | [] => false
      | s :: awaited => c == s && form.scan (.beforeWord awaited) cs

/-- The characters are a name of the form. -/
def accepts (form : NameForm) (cs : List Char) : Bool := form.scan (.beforeWord []) cs

end NameForm

end PigLatin
