import PigLatin.Text.Digits

/-!
# Decimals

Exact decimal fractions with a bounded number of digits. Two decimals of different scale may have
the same value and still be written differently: the scale says how many decimals are written.
-/

namespace PigLatin

/-- A natural number with a sign. -/
def signed (negative : Bool) (n : Nat) : Int := if negative then -n else n

/-- The largest number of 96 bits, which bounds the digits of a decimal. -/
abbrev Decimal.maxMantissa : Nat := 79228162514264337593543950335

/-- The most decimals that a decimal can have. -/
abbrev Decimal.maxScale : Nat := 28

/-- A decimal fraction, `mantissa / 10 ^ scale`. -/
structure Decimal where
  /-- All the digits, with the sign. -/
  mantissa : Int
  /-- How many of the digits are decimals. -/
  scale : Nat
  /-- The digits fit in 96 bits. -/
  mantissa_le : mantissa.natAbs ≤ Decimal.maxMantissa
  /-- There are not too many decimals. -/
  scale_le : scale ≤ Decimal.maxScale
  deriving DecidableEq

namespace Decimal

/-- The decimal with a given mantissa and scale, if they are within bounds. -/
def ofParts? (mantissa : Int) (scale : Nat) : Option Decimal :=
  if h : mantissa.natAbs ≤ maxMantissa ∧ scale ≤ maxScale then some ⟨mantissa, scale, h.1, h.2⟩
  else none

/-- Both decimals are the same number. -/
def SameValue (a b : Decimal) : Prop :=
  a.mantissa * Nat.pow 10 b.scale = b.mantissa * Nat.pow 10 a.scale

instance (a b : Decimal) : Decidable (SameValue a b) :=
  inferInstanceAs (Decidable (_ = _))

/-- The decimal is below zero. -/
def isNegative (d : Decimal) : Bool := d.mantissa < 0

/-- The digits of the decimal, always with a point, after a minus sign if it is negative. -/
def chars (d : Decimal) : List Char :=
  let unsigned := Text.fixedPoint d.mantissa.natAbs d.scale
  if d.isNegative then '-' :: unsigned else unsigned

end Decimal

end PigLatin
