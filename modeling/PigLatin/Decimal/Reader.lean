import PigLatin.Decimal

/-!
# Reading decimals

There are two readers of decimals. `Decimal.parse?` reads a sign, digits and a point and refuses
anything else, an exponent too. `Decimal.parseScientific?` reads what `Decimal.parse?` reads with an
exponent behind it, and refuses what has none. Both round to as many decimals as a decimal can have,
and a half goes away from zero.
-/

namespace PigLatin.Decimal

/-! ## Rounding -/

/-- The fraction `n / 10 ^ k` rounded to a natural number; a half goes up. -/
def roundHalfUp (n k : Nat) : Nat := (2 * n + Nat.pow 10 k) / (2 * Nat.pow 10 k)

/-- The decimal nearest to `n / 10 ^ scale` with a given number of decimals, or with fewer of them
where the digits have more than 96 bits otherwise. -/
def nearest? (negative : Bool) (n scale : Nat) : Nat → Option Decimal
  | 0 => ofParts? (signed negative (roundHalfUp n scale)) 0
  | decimals + 1 =>
    (ofParts? (signed negative (roundHalfUp n (scale - (decimals + 1)))) (decimals + 1)).or
      (nearest? negative n scale decimals)

/-- The decimal `n / 10 ^ scale` with a sign, rounded where it has too many digits. -/
def rounded? (negative : Bool) (n scale : Nat) : Option Decimal :=
  nearest? negative n scale (min scale maxScale)

/-! ## Without an exponent -/

/-- The number that the characters write if they are digits, and at least one. -/
def natural? (digits : List Char) : Option Nat :=
  if digits ≠ [] ∧ digits.all Char.isDigit = true then some (Text.digitsValue digits) else none

/-- The decimal that digits with a point among them or without one write. -/
def parseUnsigned? (negative : Bool) (cs : List Char) : Option Decimal :=
  let whole := cs.takeWhile (· ≠ '.')
  let decimals := (cs.dropWhile (· ≠ '.')).tail
  (natural? (whole ++ decimals)).bind fun n => rounded? negative n decimals.length

/-- The decimal that the characters write without an exponent. -/
def parse? : List Char → Option Decimal
  | '-' :: cs => parseUnsigned? true cs
  | '+' :: cs => parseUnsigned? false cs
  | cs => parseUnsigned? false cs

/-! ## With an exponent -/

/-- The decimal times `10 ^ e`. It loses decimals, and it gets digits when there are no decimals
left. -/
def scaleUp? (d : Decimal) (e : Nat) : Option Decimal :=
  if e ≤ d.scale then ofParts? d.mantissa (d.scale - e)
  else if e ≤ maxScale then ofParts? (d.mantissa * (Nat.pow 10 (e - d.scale) : Nat)) 0
  else none

/-- The decimal divided by `10 ^ e`. It gets decimals, and it is rounded when it has too many. -/
def scaleDown? (d : Decimal) (e : Nat) : Option Decimal :=
  if maxScale < e then none
  else if d.scale + e ≤ maxScale then ofParts? d.mantissa (d.scale + e)
  else
    let rounded := roundHalfUp d.mantissa.natAbs (d.scale + e - maxScale)
    ofParts? (signed d.isNegative rounded) maxScale

/-- The decimal with the exponent that the characters write, after a sign if there is one. -/
def withExponent? (d : Decimal) : List Char → Option Decimal
  | '-' :: digits => (natural? digits).bind d.scaleDown?
  | '+' :: digits => (natural? digits).bind d.scaleUp?
  | digits => (natural? digits).bind d.scaleUp?

/-- The character stands before an exponent. -/
def isExponentMark (c : Char) : Bool := c = 'e' || c = 'E'

/-- The decimal that the characters write with an exponent. -/
def parseScientific? (cs : List Char) : Option Decimal :=
  match cs.dropWhile (!isExponentMark ·) with
  | [] => none
  | _ :: exponent =>
    (parse? (cs.takeWhile (!isExponentMark ·))).bind fun d => d.withExponent? exponent

end PigLatin.Decimal
