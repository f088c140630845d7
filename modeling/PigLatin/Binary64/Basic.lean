/-!
# Numbers of double precision

The magnitudes of finite numbers of double precision, with exact arithmetic on their parts: the
result of an operation is the true result, rounded once to the nearest magnitude.
-/

namespace PigLatin

/-- The magnitude of a finite number of double precision, `significand * 2 ^ exponent`. The
significand has at most 53 bits, and fewer than that only at the least exponent. -/
structure Binary64 where
  /-- The bits of the number. -/
  significand : Nat
  /-- The weight of the last bit. -/
  exponent : Int
  deriving DecidableEq, Repr

namespace Binary64

/-- The value of the first of the 53 bits of a significand. -/
def leadingBit : Nat := 4503599627370496

/-- The exponent of the least magnitude above zero. -/
def minExponent : Int := -1074

/-- The exponent of the largest magnitudes. -/
def maxExponent : Int := 971

/-- A power of a base as a fraction of natural numbers. -/
def powerRatio (base : Nat) : Int → Nat × Nat
  | .ofNat n => (Nat.pow base n, 1)
  | .negSucc n => (1, Nat.pow base (n + 1))

/-- The fraction `num / den` rounded to a natural number; a half goes to the even neighbour. -/
def roundToEven (num den : Nat) : Nat :=
  let quotient := num / den
  let twice := 2 * (num % den)
  if twice < den ∨ twice = den ∧ quotient % 2 = 0 then quotient else quotient + 1

/-- The exponent of the last of the 53 bits that the fraction `num / den` is rounded to. -/
def lastExponent (num den : Nat) : Int :=
  let estimate : Int := Nat.log2 num - Nat.log2 den
  let (up, down) := powerRatio 2 estimate
  let leading := if num * down < den * up then estimate - 1 else estimate
  if num = 0 then minExponent else max (leading - 52) minExponent

/-- The magnitude nearest to the fraction `num / den`, unless that is too large. -/
def nearest? (num den : Nat) : Option Binary64 :=
  let last := lastExponent num den
  let (up, down) := powerRatio 2 last
  let bits := roundToEven (num * down) (den * up)
  let rounded : Binary64 := if bits = 2 * leadingBit then ⟨leadingBit, last + 1⟩ else ⟨bits, last⟩
  if rounded.exponent ≤ maxExponent then some rounded else none

/-- Zero. -/
def zero : Binary64 := ⟨0, minExponent⟩

/-- The magnitude nearest to a natural number. -/
def ofNat? (n : Nat) : Option Binary64 := nearest? n 1

/-- The product, unless it is too large. -/
def mul? (x y : Binary64) : Option Binary64 :=
  let (up, down) := powerRatio 2 (x.exponent + y.exponent)
  nearest? (x.significand * y.significand * up) down

/-- The quotient, unless it is too large. -/
def div? (x y : Binary64) : Option Binary64 :=
  let (up, down) := powerRatio 2 (x.exponent - y.exponent)
  nearest? (x.significand * up) (y.significand * down)

/-- The largest power of ten that is a magnitude. -/
def maxPowerOfTen : Nat := 308

/-- The magnitude reached from `n` by one multiplication with `10 ^ e`, or by a division where `e`
is negative. Powers beyond the largest one are divided out in turn; of a number of 64 bits, two
divisions leave nothing. -/
def scaled? (n : Nat) (e : Int) : Option Binary64 := do
  let x ← ofNat? n
  if 0 ≤ e then
    if e.toNat ≤ maxPowerOfTen then x.mul? (← ofNat? (Nat.pow 10 e.toNat))
    else if n = 0 then some zero
    else none
  else
    let down := (-e).toNat
    if down ≤ maxPowerOfTen then x.div? (← ofNat? (Nat.pow 10 down))
    else if down ≤ 2 * maxPowerOfTen then
      let largest ← ofNat? (Nat.pow 10 maxPowerOfTen)
      let x ← x.div? largest
      x.div? (← ofNat? (Nat.pow 10 (down - maxPowerOfTen)))
    else some zero

end Binary64

end PigLatin
