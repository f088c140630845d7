import PigLatin.Json.Fault
import PigLatin.Json.Number

/-!
# Reading numbers

A numeral is read in two steps: its parts off the text, then the number they write.

Digits are gathered in 64 bits for as long as they fit. What is beyond that, or has a fraction or an
exponent, is a number of double precision, reached from the digits gathered by multiplying or
dividing with a power of ten; it can therefore differ from the nearest one in its last bit.
-/

namespace PigLatin.Json

/-- The parts of a numeral. -/
structure Numeral where
  /-- A minus sign stands before it. -/
  negative : Bool
  /-- The digits before the point. -/
  whole : List Char
  /-- The digits after the point, if there is one. -/
  fraction : Option (List Char)
  /-- The power of ten it is multiplied with, if one is written. -/
  exponent : Option Int

namespace Numeral

/-! ## Parts -/

/-- One or more digits. -/
def readDigits : Reader (List Char)
  | [] => .error .unfinished
  | c :: cs =>
    if c.isDigit then .ok (c :: cs.takeWhile Char.isDigit, cs.dropWhile Char.isDigit)
    else .error .malformed

/-- The digits before the point: a single zero, or digits that do not start with one. -/
def readWhole : Reader (List Char)
  | '0' :: c :: cs => if c.isDigit then .error .malformed else .ok (['0'], c :: cs)
  | cs => readDigits cs

/-- The digits after the point, if a point comes next. -/
def readFraction : Reader (Option (List Char))
  | '.' :: cs => do
    let (digits, cs) ← readDigits cs
    return (some digits, cs)
  | cs => .ok (none, cs)

/-- The digits of an exponent, with the sign that may stand before them. -/
def readSignedDigits : Reader Int
  | '-' :: cs => do
    let (digits, cs) ← readDigits cs
    return (-Text.digitsValue digits, cs)
  | cs => do
    let (digits, cs) ← readDigits (if cs.head? = some '+' then cs.tail else cs)
    return (Text.digitsValue digits, cs)

/-- The exponent, if one comes next. -/
def readExponent : Reader (Option Int)
  | c :: cs =>
    if c = 'e' ∨ c = 'E' then do
      let (exponent, cs) ← readSignedDigits cs
      return (some exponent, cs)
    else .ok (none, c :: cs)
  | [] => .ok (none, [])

/-- A whole numeral. -/
def read (cs : List Char) : Except Fault (Numeral × List Char) := do
  let negative := cs.head? = some '-'
  let (whole, cs) ← readWhole (if negative then cs.tail else cs)
  let (fraction, cs) ← readFraction cs
  let (exponent, cs) ← readExponent cs
  return (⟨negative, whole, fraction, exponent⟩, cs)

/-! ## Value -/

/-- Gathers digits behind those of `n` for as long as all of them fit in 64 bits; answers what was
gathered and the digits that were left. -/
def gather (n : Nat) : List Char → Nat × List Char
  | [] => (n, [])
  | c :: cs =>
    let next := 10 * n + Text.digitValue c
    if next < UInt64.size then gather next cs else (n, c :: cs)

/-- The number of double precision that the numeral writes, unless it is too large. -/
def float? (n : Numeral) : Option Number := do
  let (significand, wholeLeft) := gather 0 n.whole
  let digits := n.fraction.getD []
  let (significand, digitsLeft) := gather significand digits
  let shift : Int := wholeLeft.length - (digits.length - digitsLeft.length)
  let magnitude ← Binary64.scaled? significand (n.exponent.getD 0 + shift)
  return .float n.negative magnitude

/-- The whole number that the numeral writes: one without fraction and exponent that fits in 64
bits, of which one is the sign if there is a minus. Zero with a minus sign is none. -/
def integer? (n : Numeral) : Option Int :=
  if n.fraction.isSome || n.exponent.isSome then none
  else
    let value := Text.digitsValue n.whole
    if n.negative then
      if 0 < value ∧ Int64.minValue.toInt ≤ -value then some (-value) else none
    else if value < UInt64.size then some value
    else none

/-- The number that the numeral writes, unless it is too large. -/
def value? (n : Numeral) : Option Number :=
  match n.integer? with
  | some value => some (.integer value)
  | none => n.float?

end Numeral

/-- Reads a number. -/
def Number.read (cs : List Char) : Except Fault (Number × List Char) := do
  let (numeral, cs) ← Numeral.read cs
  match numeral.value? with
  | some value => return (value, cs)
  | none => .error .malformed

end PigLatin.Json
