/-!
# Decimal digits

Numbers as decimal digits, and decimal digits as numbers. What is written reads back.
-/

namespace PigLatin.Text

/-- The decimal digits of a number, without leading zeros. -/
def digits (n : Nat) : List Char := Nat.toDigits 10 n

/-- The lowest decimal digits of a number, as many as are asked for. -/
def lowDigits : Nat → Nat → List Char
  | 0, _ => []
  | width + 1, n => lowDigits width (n / 10) ++ [Nat.digitChar (n % 10)]

/-- The value of a decimal digit. -/
def digitValue (c : Char) : Nat := c.toNat - '0'.toNat

/-- The number that decimal digits write. -/
def digitsValue (cs : List Char) : Nat := Nat.ofDigitChars 10 cs 0

/-- A whole number in decimal digits, with a minus sign if it is negative. -/
def integer (n : Int) : List Char :=
  if n < 0 then '-' :: digits n.natAbs else digits n.natAbs

/-- The digits of `n / 10 ^ scale`, always with a point: where there are no decimals to be written,
a single zero stands after the point. -/
def fixedPoint (n scale : Nat) : List Char :=
  if scale = 0 then digits n ++ ['.', '0']
  else digits (n / Nat.pow 10 scale) ++ '.' :: lowDigits scale n

/-! ## Reading back -/

theorem digits_ne_nil (n : Nat) : digits n ≠ [] := Nat.toDigits_ne_nil

theorem isDigit_of_mem_digits {n : Nat} {c : Char} (h : c ∈ digits n) : c.isDigit = true :=
  Nat.isDigit_of_mem_toDigits (by decide) (by decide) h

theorem digitsValue_digits (n : Nat) : digitsValue (digits n) = n :=
  Nat.ofDigitChars_toDigits (by decide) (by decide)

@[simp] theorem length_lowDigits (width n : Nat) : (lowDigits width n).length = width := by
  induction width generalizing n with
  | zero => rfl
  | succ width ih => simp [lowDigits, ih]

theorem isDigit_of_mem_lowDigits {width n : Nat} {c : Char} (h : c ∈ lowDigits width n) :
    c.isDigit = true := by
  induction width generalizing n with
  | zero => simp [lowDigits] at h
  | succ width ih =>
    rcases List.mem_append.1 h with h | h
    · exact ih h
    · have hc : c = Nat.digitChar (n % 10) := by simpa using h
      have hlt : n % 10 < 10 := Nat.mod_lt n (by decide)
      rw [hc]
      exact isDigit_of_mem_digits (n := n % 10) (by simp [digits, Nat.toDigits_of_lt_base hlt])

/-- The lowest digits write what is left of the number when the higher ones are taken away. -/
theorem digitsValue_lowDigits (width n : Nat) :
    digitsValue (lowDigits width n) = n % Nat.pow 10 width := by
  induction width generalizing n with
  | zero => simp [lowDigits, digitsValue, Nat.mod_one]
  | succ width ih =>
    have hlt : n % 10 < 10 := Nat.mod_lt n (by decide)
    have hdigit : Nat.ofDigitChars 10 [Nat.digitChar (n % 10)] =
        fun value => 10 * value + n % 10 := by
      funext value
      simp [Nat.ofDigitChars, Nat.toNat_digitChar_of_lt_ten hlt]
    have hsplit : n % Nat.pow 10 (width + 1) = 10 * (n / 10 % Nat.pow 10 width) + n % 10 := by
      rw [Nat.pow_eq, Nat.pow_eq, Nat.pow_succ', Nat.mod_mul]
      omega
    rw [hsplit, ← ih (n / 10)]
    simp only [lowDigits, digitsValue, Nat.ofDigitChars_append, hdigit]

end PigLatin.Text
