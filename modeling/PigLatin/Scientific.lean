import PigLatin.Text.Digits

/-!
# Decimal significands

Decimal numbers given by their significant digits and a power of ten, and how they are written.

Such a number is written out in full when its first digit is neither far before nor far behind the
point, and with an exponent otherwise.
-/

namespace PigLatin

/-- The decimal number `coefficient * 10 ^ exponent`. -/
structure Scientific where
  /-- The significant digits. -/
  coefficient : Nat
  /-- The weight of the last digit. -/
  exponent : Int
  deriving DecidableEq, Repr

namespace Scientific

/-- The weight of the first digit. -/
def leadingExponent (s : Scientific) : Int :=
  s.exponent + (Text.digits s.coefficient).length - 1

/-- The number is written out in full. -/
def isPositional (s : Scientific) : Bool :=
  -5 ≤ s.leadingExponent && s.leadingExponent ≤ 15

/-! ## Written form -/

/-- All the digits, with the zeros up to the point and a point. -/
def positional (s : Scientific) : List Char :=
  match s.exponent with
  | .ofNat zeros => Text.fixedPoint (s.coefficient * Nat.pow 10 zeros) 0
  | .negSucc n => Text.fixedPoint s.coefficient (n + 1)

/-- The digits with a point after the first of several, and the weight of the first digit with its
sign after the letter `e`. -/
def exponential (s : Scientific) : List Char :=
  let significand :=
    match Text.digits s.coefficient with
    | first :: second :: rest => first :: '.' :: second :: rest
    | single => single
  let sign := if s.leadingExponent < 0 then '-' else '+'
  significand ++ 'e' :: sign :: Text.digits s.leadingExponent.natAbs

/-- The number as it is written. -/
def chars (s : Scientific) : List Char :=
  if s.isPositional then s.positional else s.exponential

end Scientific

end PigLatin
