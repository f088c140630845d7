import PigLatin.Json.Fault

/-!
# Reading text in documents

Text is read character by character; the state says what an earlier backslash has left to be done.
A character beyond the first 65536 is escaped as two surrogates, a leading and a trailing one, of
which neither may stand alone.
-/

namespace PigLatin.Json

/-- Where reading stands within text. -/
inductive TextState where
  /-- Before a character, an escape or the closing quote. -/
  | plain
  /-- After a backslash. -/
  | escape
  /-- Within the digits of an escape: how many are to come, the value of those before, and the
  leading surrogate that waits for this escape. -/
  | hex (toCome : Nat) (value : Nat) (leading : Option Nat)
  /-- After a leading surrogate, before the backslash of the trailing one. -/
  | surrogate (leading : Nat)
  /-- After a leading surrogate and a backslash, before the letter of the trailing one. -/
  | surrogateEscape (leading : Nat)

/-- The character that a letter stands for after a backslash. -/
def escaped? : Char → Option Char
  | '"' => some '"'
  | '\\' => some '\\'
  | '/' => some '/'
  | 'b' => some '\x08'
  | 'f' => some '\x0c'
  | 'n' => some '\n'
  | 'r' => some '\r'
  | 't' => some '\t'
  | _ => none

/-- The value of a hexadecimal digit. -/
def hexValue? (c : Char) : Option Nat :=
  if '0' ≤ c ∧ c ≤ '9' then some (c.toNat - '0'.toNat)
  else if 'a' ≤ c ∧ c ≤ 'f' then some (c.toNat - 'a'.toNat + 10)
  else if 'A' ≤ c ∧ c ≤ 'F' then some (c.toNat - 'A'.toNat + 10)
  else none

/-- What the four digits of an escape amount to. -/
inductive Escaped where
  /-- A whole character. -/
  | char (c : Char)
  /-- A leading surrogate, which a trailing one must follow. -/
  | leading (unit : Nat)

/-- What an escape amounts to, behind the leading surrogate that may wait for it. -/
def escapedUnit (leading : Option Nat) (unit : Nat) : Except Fault Escaped :=
  let isLeading := 0xD800 ≤ unit ∧ unit < 0xDC00
  let isTrailing := 0xDC00 ≤ unit ∧ unit < 0xE000
  match leading with
  | some first =>
    if isTrailing then
      .ok (.char (Char.ofNat (0x10000 + (first - 0xD800) * 0x400 + (unit - 0xDC00))))
    else .error .malformed
  | none =>
    if isLeading then .ok (.leading unit)
    else if isTrailing then .error .malformed
    else .ok (.char (Char.ofNat unit))

/-- There is room for the four digits of an escape: four bytes of text. -/
def hasFourBytes (cs : List Char) : Bool :=
  4 ≤ (cs.take 4).foldl (fun size c => size + c.utf8Size) 0

/-- Reads text from a state within it up to its closing quote. -/
def readText : TextState → Reader (List Char)
  | _, [] => .error .unfinished
  | .plain, c :: cs =>
    if c = '"' then .ok ([], cs)
    else if c = '\\' then readText .escape cs
    else if c.toNat < 0x20 then .error .malformed
    else do
      let (text, rest) ← readText .plain cs
      return (c :: text, rest)
  | .escape, c :: cs =>
    if c = 'u' then
      if hasFourBytes cs then readText (.hex 4 0 none) cs else .error .unfinished
    else
      match escaped? c with
      | none => .error .malformed
      | some char => do
        let (text, rest) ← readText .plain cs
        return (char :: text, rest)
  | .hex toCome value leading, c :: cs =>
    match hexValue? c with
    | none => .error .malformed
    | some digit =>
      let value := 16 * value + digit
      if 1 < toCome then readText (.hex (toCome - 1) value leading) cs
      else do
        match ← escapedUnit leading value with
        | .leading first => readText (.surrogate first) cs
        | .char char =>
          let (text, rest) ← readText .plain cs
          return (char :: text, rest)
  | .surrogate leading, c :: cs =>
    if c = '\\' then readText (.surrogateEscape leading) cs else .error .malformed
  | .surrogateEscape leading, c :: cs =>
    if c = 'u' then
      if hasFourBytes cs then readText (.hex 4 0 (some leading)) cs else .error .unfinished
    else .error .malformed

end PigLatin.Json
