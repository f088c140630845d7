import PigLatin.Proofs.Literal

/-!
# Reading constants back

A reader of written constants. It finds the type of a constant and its value, and of a decimal the
decimals that were written. A decimal without decimals is written with a single zero after the
point, which the reader keeps if the decimal has room for it.
-/

namespace PigLatin

/-! ## Normal forms -/

/-- The decimal with the decimals that are written: a zero where there are none, if there is room
for it. -/
def Decimal.normalForm (d : Decimal) : Decimal :=
  if d.scale = 0 then (Decimal.ofParts? (d.mantissa * 10) 1).getD d else d

/-- The constant with the decimals that are written. -/
def Literal.normalForm : Literal → Literal
  | .float value => .float value.normalForm
  | .double value => .double value.normalForm
  | l => l

namespace Decimal

/-- `Text.fixedPoint` writes the zero after the point for a decimal with a zero as its only decimal
and for the same decimal without it. -/
theorem written_of_sameValue {d d' : Decimal} (hscale : d.scale = 0) (hscale' : d'.scale = 1)
    (h : d.SameValue d') : d'.isNegative = d.isNegative ∧
      Text.fixedPoint d'.mantissa.natAbs d'.scale = Text.fixedPoint d.mantissa.natAbs d.scale := by
  have hmantissa : d.mantissa * 10 = d'.mantissa := by
    rw [SameValue, hscale, hscale'] at h
    simpa using h
  have hnatAbs : d'.mantissa.natAbs = d.mantissa.natAbs * 10 := by
    rw [← hmantissa]
    exact Int.natAbs_mul _ _
  have hdiv : d.mantissa.natAbs * 10 / Nat.pow 10 1 = d.mantissa.natAbs :=
    Nat.mul_div_cancel _ (by decide)
  constructor
  · simp only [isNegative, decide_eq_decide]
    omega
  · simp [Text.fixedPoint, hscale, hscale', hnatAbs, hdiv, Text.lowDigits]

/-- `Decimal.normalForm` is the decimal itself, or it has one decimal more. -/
theorem normalForm_cases (d : Decimal) : d.normalForm = d ∨
    d.scale = 0 ∧ d.normalForm.scale = 1 ∧ d.SameValue d.normalForm := by
  unfold normalForm
  split
  · next hscale =>
    unfold ofParts?
    split
    · exact .inr ⟨hscale, rfl, by simp [SameValue, hscale]⟩
    · exact .inl rfl
  · exact .inl rfl

theorem written_normalForm (d : Decimal) : d.normalForm.isNegative = d.isNegative ∧
    Text.fixedPoint d.normalForm.mantissa.natAbs d.normalForm.scale =
      Text.fixedPoint d.mantissa.natAbs d.scale := by
  rcases d.normalForm_cases with heq | ⟨hscale, hscale', h⟩
  · rw [heq]
    exact ⟨rfl, rfl⟩
  · exact written_of_sameValue hscale hscale' h

end Decimal

namespace Literal

/-- A constant and its `normalForm` are written alike. -/
theorem unsigned_normalForm (l : Literal) :
    l.normalForm.isNegative = l.isNegative ∧ l.normalForm.unsigned = l.unsigned := by
  cases l with
  | float value =>
    obtain ⟨hnegative, hfixed⟩ := value.written_normalForm
    exact ⟨hnegative, congrArg (· ++ ['F']) hfixed⟩
  | double value => exact value.written_normalForm
  | int | long | chararray => exact ⟨rfl, rfl⟩

theorem chars_normalForm (l : Literal) : l.normalForm.chars = l.chars := by
  obtain ⟨hnegative, hunsigned⟩ := l.unsigned_normalForm
  rw [chars_eq, chars_eq l, hnegative, hunsigned]

end Literal

/-! ## The reader -/

/-- A number without a sign, as it is written: its type, its digits and how many of them are
decimals. -/
inductive Numeral where
  | int (digits : Nat)
  | long (digits : Nat)
  | float (digits scale : Nat)
  | double (digits scale : Nat)
  deriving DecidableEq, Repr

namespace Numeral

/-- What the characters after the decimals make of a number. -/
def ofDecimal? (digits scale : Nat) : List Char → Option Numeral
  | [] => some (.double digits scale)
  | ['F'] => some (.float digits scale)
  | _ => none

/-- What the characters after the digits before the point make of a number. -/
def ofWhole? (whole : List Char) : List Char → Option Numeral
  | [] => some (.int (Text.digitsValue whole))
  | ['L'] => some (.long (Text.digitsValue whole))
  | '.' :: cs =>
    let decimals := cs.takeWhile Char.isDigit
    if decimals = [] then none
    else
      ofDecimal? (Text.digitsValue (whole ++ decimals)) decimals.length (cs.dropWhile Char.isDigit)
  | _ => none

/-- The number that the characters write. -/
def ofChars? (cs : List Char) : Option Numeral :=
  let whole := cs.takeWhile Char.isDigit
  if whole = [] then none else ofWhole? whole (cs.dropWhile Char.isDigit)

end Numeral

theorem signed_natAbs (n : Int) : signed (n < 0) n.natAbs = n := by
  unfold signed
  split
  · next h =>
    have hneg : n < 0 := of_decide_eq_true h
    omega
  · next h =>
    have hnonneg : ¬n < 0 := fun hneg => h (decide_eq_true hneg)
    omega

/-- The decimal that digits write. A last zero may be dropped if it is the only decimal. -/
def Decimal.ofDigits? (mantissa : Int) (scale : Nat) : Option Decimal :=
  match Decimal.ofParts? mantissa scale with
  | some d => some d
  | none => if scale = 1 ∧ mantissa % 10 = 0 then Decimal.ofParts? (mantissa / 10) 0 else none

namespace Literal

/-- The `int` of a value, if there is one. -/
def int? (n : Int) : Option Literal :=
  if Int32.minValue.toInt ≤ n ∧ n ≤ Int32.maxValue.toInt then some (.int (Int32.ofInt n)) else none

/-- The `long` of a value, if there is one. -/
def long? (n : Int) : Option Literal :=
  if Int64.minValue.toInt ≤ n ∧ n ≤ Int64.maxValue.toInt then some (.long (Int64.ofInt n)) else none

/-- The constant that a number is with a given sign, if it is within the bounds of its type. -/
def ofNumeral? (negative : Bool) : Numeral → Option Literal
  | .int digits => int? (signed negative digits)
  | .long digits => long? (signed negative digits)
  | .float digits scale => (Decimal.ofDigits? (signed negative digits) scale).map .float
  | .double digits scale => (Decimal.ofDigits? (signed negative digits) scale).map .double

/-- The constant that the characters write. -/
def read : List Char → Option Literal
  | '-' :: cs => (Numeral.ofChars? cs).bind (ofNumeral? true)
  | '\'' :: cs =>
    match Chararray.unquote? ('\'' :: cs) with
    | some (text, []) => some (.chararray (String.ofList text))
    | _ => none
  | cs => (Numeral.ofChars? cs).bind (ofNumeral? false)

end Literal

/-! ## Digits -/

namespace Numeral

theorem takeWhile_isDigit_append {digits rest : List Char}
    (hdigits : ∀ c ∈ digits, c.isDigit = true) (hrest : ∀ c ∈ rest.head?, c.isDigit = false) :
    (digits ++ rest).takeWhile Char.isDigit = digits ∧
      (digits ++ rest).dropWhile Char.isDigit = rest := by
  rw [List.takeWhile_append_of_pos hdigits, List.dropWhile_append_of_pos hdigits]
  cases rest with
  | nil => simp
  | cons c cs =>
    have hc := hrest c rfl
    simp [hc]

theorem ofChars?_digits_append (n : Nat) (rest : List Char)
    (hrest : ∀ c ∈ rest.head?, c.isDigit = false) :
    ofChars? (Text.digits n ++ rest) = ofWhole? (Text.digits n) rest := by
  have hdigits : ∀ c ∈ Text.digits n, c.isDigit = true := fun _ => Text.isDigit_of_mem_digits
  obtain ⟨htake, hdrop⟩ := takeWhile_isDigit_append hdigits hrest
  simp only [ofChars?, htake, hdrop, if_neg (Text.digits_ne_nil n)]

theorem ofChars?_point_append (n : Nat) {decimals rest : List Char} (hne : decimals ≠ [])
    (hdecimals : ∀ c ∈ decimals, c.isDigit = true) (hrest : ∀ c ∈ rest.head?, c.isDigit = false) :
    ofChars? (Text.digits n ++ '.' :: (decimals ++ rest)) =
      ofDecimal? (Text.digitsValue (Text.digits n ++ decimals)) decimals.length rest := by
  obtain ⟨htake, hdrop⟩ := takeWhile_isDigit_append hdecimals hrest
  rw [ofChars?_digits_append n _ (by rintro c ⟨⟩; rfl)]
  simp only [ofWhole?, htake, hdrop, if_neg hne]

/-- The digits before the point and those of `Text.lowDigits` after it, with no point between them,
count the number in units of its last decimal. -/
theorem digitsValue_append_lowDigits (n scale : Nat) :
    Text.digitsValue (Text.digits (n / Nat.pow 10 scale) ++ Text.lowDigits scale n) = n := by
  have hsplit := Nat.div_add_mod n (Nat.pow 10 scale)
  rw [Text.digitsValue, Nat.ofDigitChars_append, ← Text.digitsValue, Text.digitsValue_digits,
    Nat.ofDigitChars_eq_ofDigitChars_zero, Text.length_lowDigits, ← Text.digitsValue,
    Text.digitsValue_lowDigits]
  exact hsplit

theorem ofChars?_fixedPoint_append (n scale : Nat) (rest : List Char)
    (hrest : ∀ c ∈ rest.head?, c.isDigit = false) :
    ofChars? (Text.fixedPoint n scale ++ rest) =
      ofDecimal? (if scale = 0 then n * 10 else n) (max scale 1) rest := by
  unfold Text.fixedPoint
  split
  · next hscale =>
    have hvalue : Text.digitsValue (Text.digits n ++ ['0']) = n * 10 := by
      have hzero := digitsValue_append_lowDigits (n * 10) 1
      have hdiv : n * 10 / Nat.pow 10 1 = n := Nat.mul_div_cancel n (by decide)
      have hlow : Text.lowDigits 1 (n * 10) = ['0'] := by simp [Text.lowDigits]
      rwa [hdiv, hlow] at hzero
    have hne : ['0'] ≠ [] := List.cons_ne_nil _ _
    have hdigit : ∀ c ∈ ['0'], c.isDigit = true := List.forall_mem_singleton.2 rfl
    have hread := ofChars?_point_append n hne hdigit hrest
    simpa [hvalue, hscale] using hread
  · next hscale =>
    have hne : Text.lowDigits scale n ≠ [] := by
      intro h
      have hlength := Text.length_lowDigits scale n
      rw [h] at hlength
      exact hscale hlength.symm
    have hmax : max scale 1 = scale := by omega
    have hread := ofChars?_point_append (n / Nat.pow 10 scale) hne
      (fun _ => Text.isDigit_of_mem_lowDigits) hrest
    rw [digitsValue_append_lowDigits, Text.length_lowDigits] at hread
    rw [hmax, List.append_assoc, List.cons_append, hread]

end Numeral

/-! ## Reading back -/

theorem Decimal.ofParts?_self (d : Decimal) : Decimal.ofParts? d.mantissa d.scale = some d := by
  simp [Decimal.ofParts?, d.mantissa_le, d.scale_le]

theorem Decimal.ofDigits?_eq_normalForm (d : Decimal) :
    Decimal.ofDigits? (signed d.isNegative
      (if d.scale = 0 then d.mantissa.natAbs * 10 else d.mantissa.natAbs)) (max d.scale 1) =
        some d.normalForm := by
  have hsigned : signed d.isNegative d.mantissa.natAbs = d.mantissa := signed_natAbs d.mantissa
  unfold Decimal.normalForm Decimal.ofDigits?
  by_cases hscale : d.scale = 0
  · have hmantissa : signed d.isNegative (d.mantissa.natAbs * 10) = d.mantissa * 10 := by
      unfold signed at hsigned ⊢
      split at hsigned <;> simp_all
      omega
    have hself : Decimal.ofParts? (d.mantissa * 10 / 10) 0 = some d := by
      rw [Int.mul_ediv_cancel _ (by decide), ← hscale, d.ofParts?_self]
    have hdvd : d.mantissa * 10 % 10 = 0 := Int.mul_emod_left _ _
    simp only [hscale, if_true, Nat.zero_max, hmantissa]
    cases Decimal.ofParts? (d.mantissa * 10) 1 with
    | some e => rfl
    | none => simp only [hdvd, and_self, if_true, hself, Option.getD_none]
  · have hmax : max d.scale 1 = d.scale := by omega
    simp only [hscale, if_false, hmax, hsigned, d.ofParts?_self]

namespace Literal

/-- `Numeral.ofChars?` reads the digits of a number as one numeral, from which `ofNumeral?` makes
the number again. -/
theorem exists_numeral {l : Literal} (h : ∀ s, l ≠ .chararray s) :
    ∃ numeral, Numeral.ofChars? l.unsigned = some numeral ∧
      ofNumeral? l.isNegative numeral = some l.normalForm := by
  cases l with
  | int value =>
    have hread := Numeral.ofChars?_digits_append value.toInt.natAbs [] (by simp)
    rw [List.append_nil, Numeral.ofWhole?, Text.digitsValue_digits] at hread
    refine ⟨_, hread, ?_⟩
    simp only [isNegative, ofNumeral?, signed_natAbs, int?, value.minValue_le_toInt,
      value.toInt_le, and_self, if_true, Int32.ofInt_toInt, normalForm]
  | long value =>
    have hread := Numeral.ofChars?_digits_append value.toInt.natAbs ['L'] (by rintro c ⟨⟩; rfl)
    rw [Numeral.ofWhole?, Text.digitsValue_digits] at hread
    refine ⟨_, hread, ?_⟩
    simp only [isNegative, ofNumeral?, signed_natAbs, long?, value.minValue_le_toInt,
      value.toInt_le, and_self, if_true, Int64.ofInt_toInt, normalForm]
  | float value =>
    have hread := Numeral.ofChars?_fixedPoint_append value.mantissa.natAbs value.scale ['F']
      (by rintro c ⟨⟩; rfl)
    refine ⟨_, hread, ?_⟩
    simp only [isNegative, ofNumeral?, value.ofDigits?_eq_normalForm, Option.map_some, normalForm]
  | double value =>
    have hread := Numeral.ofChars?_fixedPoint_append value.mantissa.natAbs value.scale []
      (by simp)
    rw [List.append_nil] at hread
    refine ⟨_, hread, ?_⟩
    simp only [isNegative, ofNumeral?, value.ofDigits?_eq_normalForm, Option.map_some, normalForm]
  | chararray text => exact absurd rfl (h text)

/-- `read` takes only what starts with a digit, a sign or a quote. -/
theorem read_eq_none {c : Char} {cs : List Char} (hdigit : c.isDigit = false)
    (hpunctuation : c ∉ punctuation) : read (c :: cs) = none := by
  have hminus : c ≠ '-' := fun h => hpunctuation (h ▸ by decide)
  have hquote : c ≠ '\'' := fun h => hpunctuation (h ▸ by decide)
  simp [read, hminus, hquote, Numeral.ofChars?, hdigit]

/-- `read` undoes `chars` up to `normalForm`. -/
theorem read_chars (l : Literal) : read l.chars = some l.normalForm := by
  rcases l.unsigned_cases with ⟨s, rfl⟩ | ⟨-, c, cs, heq, hc⟩
  · have hread := Chararray.unquote?_quote_append s.toList []
    simp only [List.append_nil, Chararray.quote, List.cons_append] at hread
    simp [chars, Chararray.quote, read, hread, normalForm]
  · have hnumber : ∀ s, l ≠ .chararray s := by
      rintro s rfl
      cases heq
      cases hc
    obtain ⟨numeral, hread, hnumeral⟩ := exists_numeral hnumber
    rw [chars_eq]
    cases hnegative : l.isNegative with
    | true =>
      rw [hnegative] at hnumeral
      simp [read, hread, hnumeral]
    | false =>
      have hminus : c ≠ '-' := by rintro rfl; cases hc
      have hquote : c ≠ '\'' := by rintro rfl; cases hc
      rw [hnegative] at hnumeral
      rw [heq] at hread
      simp [heq, read, hminus, hquote, hread, hnumeral]

/-- Constants are written alike exactly if they have the same `normalForm`. -/
theorem chars_eq_iff_normalForm_eq {l m : Literal} :
    l.chars = m.chars ↔ l.normalForm = m.normalForm := by
  constructor
  · intro h
    have hread := l.read_chars
    rw [h, m.read_chars] at hread
    exact (Option.some.inj hread).symm
  · intro h
    rw [← l.chars_normalForm, h, m.chars_normalForm]

end Literal

end PigLatin
