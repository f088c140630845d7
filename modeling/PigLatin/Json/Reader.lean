import PigLatin.Json.Basic
import PigLatin.Json.Number.Reader
import PigLatin.Json.Text

/-!
# Reading documents

A document is one value with blanks around it. Arrays and objects may be nested in each other up to
a fixed depth.
-/

namespace PigLatin.Json

/-- The text without the blanks at its front. -/
def skipBlanks (cs : List Char) : List Char :=
  cs.dropWhile fun c => c = ' ' || c = '\t' || c = '\n' || c = '\r'

/-- Reads the letters of a word. -/
def readWord : List Char → Reader Unit
  | [], cs => .ok ((), cs)
  | _ :: _, [] => .error .unfinished
  | letter :: letters, c :: cs => if c = letter then readWord letters cs else .error .malformed

/-- Reads text from its opening quote on. -/
def readString (cs : List Char) : Except Fault (String × List Char) :=
  match skipBlanks cs with
  | [] => .error .unfinished
  | '"' :: cs => do
    let (text, cs) ← readText .plain cs
    return (String.ofList text, cs)
  | _ => .error .malformed

/-- Reads the items of an array, one or more, up to its end. The count bounds how many there may be;
there are never more than characters. -/
def readItems (readValue : Reader Json) : Nat → Reader (List Json)
  | 0, _ => .error .unfinished
  | count + 1, cs => do
    let (value, cs) ← readValue cs
    match skipBlanks cs with
    | [] => .error .unfinished
    | ']' :: cs => return ([value], cs)
    | ',' :: cs =>
      let (values, cs) ← readItems readValue count cs
      return (value :: values, cs)
    | _ => .error .malformed

/-- Reads one member of an object. -/
def readMember (readValue : Reader Json) : Reader (String × Json) := fun cs => do
  let (key, cs) ← readString cs
  match skipBlanks cs with
  | [] => .error .unfinished
  | ':' :: cs =>
    let (value, cs) ← readValue cs
    return ((key, value), cs)
  | _ => .error .malformed

/-- Reads the members of an object, one or more, up to its end. The count bounds how many there may
be; there are never more than characters. -/
def readMembers (readValue : Reader Json) : Nat → Reader (List (String × Json))
  | 0, _ => .error .unfinished
  | count + 1, cs => do
    let (member, cs) ← readMember readValue cs
    match skipBlanks cs with
    | [] => .error .unfinished
    | '\x7d' :: cs => return ([member], cs)
    | ',' :: cs =>
      let (members, cs) ← readMembers readValue count cs
      return (member :: members, cs)
    | _ => .error .malformed

/-- Reads an array after its opening bracket. -/
def readArray (readValue : Reader Json) : Reader Json := fun cs =>
  match skipBlanks cs with
  | ']' :: cs => .ok (.array [], cs)
  | cs => do
    let (items, cs) ← readItems readValue (cs.length + 1) cs
    return (.array items, cs)

/-- Reads an object after its opening brace. -/
def readObject (readValue : Reader Json) : Reader Json := fun cs =>
  match skipBlanks cs with
  | '\x7d' :: cs => .ok (.object [], cs)
  | cs => do
    let (members, cs) ← readMembers readValue (cs.length + 1) cs
    return (.object (Dictionary.insertAll [] members), cs)

/-- Reads a value. The reader for the values within it is missing where none may be nested. -/
def readValueWith (nested : Option (Reader Json)) : Reader Json := fun cs =>
  match skipBlanks cs with
  | [] => .error .unfinished
  | 'n' :: cs => (readWord ['u', 'l', 'l'] cs).map fun (_, cs) => (.null, cs)
  | 't' :: cs => (readWord ['r', 'u', 'e'] cs).map fun (_, cs) => (.bool true, cs)
  | 'f' :: cs => (readWord ['a', 'l', 's', 'e'] cs).map fun (_, cs) => (.bool false, cs)
  | '"' :: cs => (readText .plain cs).map fun (text, cs) => (.string (String.ofList text), cs)
  | '[' :: cs =>
    match nested with
    | some readValue => readArray readValue cs
    | none => .error .malformed
  | '\x7b' :: cs =>
    match nested with
    | some readValue => readObject readValue cs
    | none => .error .malformed
  | c :: cs =>
    if c = '-' || c.isDigit then (Number.read (c :: cs)).map fun (n, cs) => (.number n, cs)
    else .error .malformed

/-- Reads a value in which arrays and objects are nested up to a depth. -/
def readValue : Nat → Reader Json
  | 0 => readValueWith none
  | depth + 1 => readValueWith (some (readValue depth))

/-- How deep arrays and objects may be nested. -/
def maxDepth : Nat := 127

/-- The document that the text is. -/
def parse (s : String) : Except Fault Json := do
  let (value, cs) ← readValue maxDepth s.toList
  if (skipBlanks cs).isEmpty then return value else .error .malformed

end PigLatin.Json
