import PigLatin.Binary64.Basic
import PigLatin.Scientific

/-!
# Shortest decimals

The decimal with the fewest digits that is nearer to a magnitude of double precision than to any
other; of several such decimals the nearest, and of two equally near ones the even one. Decimals of
a given number of digits are the points of a grid, and a grid has a point close enough exactly when
one of the two points around the magnitude is.
-/

namespace PigLatin.Binary64

/-- The weight of the first decimal digit of the fraction `num / den`. -/
def leadingTen (num den : Nat) : Int :=
  if den ≤ num then (Text.digits (num / den)).length - 1
  else -((Text.digits ((den - 1) / num)).length : Int)

/-- The point of the grid of multiples of `10 ^ k` that reads as the magnitude, if there is one: the
nearer of the two points around it, and the even one of two equally near. Everything is measured in
quarters of the last bit, so that the middles between the magnitude and its neighbours are whole. -/
def gridPoint? (x : Binary64) (k : Int) : Option Nat :=
  let (ten, tenth) := powerRatio 10 k
  let (two, half) := powerRatio 2 (x.exponent - 2)
  let step := ten * half
  let quarter := two * tenth
  let value := 4 * x.significand * quarter
  let upper := value + 2 * quarter
  let isPower := x.significand = leadingBit ∧ minExponent < x.exponent
  let lower := value - (if isPower then 1 else 2) * quarter
  let reads (n : Nat) : Bool :=
    if x.significand % 2 = 0 then lower ≤ n * step && n * step ≤ upper
    else lower < n * step && n * step < upper
  let below := value / step
  let above := below + 1
  match reads below, reads above with
  | false, false => none
  | true, false => some below
  | false, true => some above
  | true, true =>
    let fromBelow := value - below * step
    let fromAbove := above * step - value
    if fromBelow < fromAbove ∨ fromBelow = fromAbove ∧ below % 2 = 0 then some below
    else some above

/-- The most digits that are ever needed. -/
def maxDigits : Nat := 17

/-- The shortest decimal that reads as the magnitude. -/
def shortest (x : Binary64) : Scientific :=
  if x.significand = 0 then ⟨0, 0⟩
  else
    let (up, down) := powerRatio 2 x.exponent
    let leading := leadingTen (x.significand * up) down
    let found := (List.range maxDigits).findSome? fun (n : Nat) =>
      let weight := leading - (n : Int)
      (x.gridPoint? weight).map fun point =>
        if point = Nat.pow 10 (n + 1) then ⟨1, leading + 1⟩ else ⟨point, weight⟩
    found.getD ⟨0, 0⟩

end PigLatin.Binary64
