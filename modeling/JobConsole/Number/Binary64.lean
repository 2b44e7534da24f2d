/-!
# Binary numbers of 64 bits

The finite binary64 numbers, kept as a sign, a significand and a power of two,
with exact arithmetic on natural numbers behind every operation.  A result is
the nearest representable number, and of two equally near ones the one with an
even significand.

A decimal number is read in two steps, each of them rounded: its significand,
which fits in 64 bits, and then the product or quotient with a power of ten.
Powers below ten to the minus 308 are reached by dividing more than once.
-/

namespace JobConsole.Number

/-- A finite binary64 number: `significand * 2 ^ exponent`, negated when
`negative` holds.  Zero has exponent zero and keeps its sign. -/
structure Binary64 where
  negative : Bool
  significand : Nat
  exponent : Int
deriving DecidableEq

namespace Binary64

/-- The quotient of two numbers, rounded to the nearest integer, and to the
even one of two equally near integers. -/
def roundedQuotient (numerator denominator : Nat) : Nat :=
  let quotient := numerator / denominator
  let rest := numerator % denominator
  if denominator < 2 * rest || (2 * rest == denominator && quotient % 2 == 1) then
    quotient + 1
  else
    quotient

/-- Numerator and denominator of a ratio divided by a power of two. -/
def unscaled (numerator denominator : Nat) (exponent : Int) : Nat × Nat :=
  if exponent < 0 then
    (numerator * Nat.pow 2 exponent.natAbs, denominator)
  else
    (numerator, denominator * Nat.pow 2 exponent.natAbs)

/-- The least significand of 53 bits, two to the 52. -/
def leastFull : Nat := 4503599627370496

/-- The power of two that belongs to the last place of a positive ratio: the
significand has 53 bits, or fewer at the least exponent. -/
def lastPlace (numerator denominator : Nat) : Int :=
  let estimate : Int := (numerator.log2 : Int) - denominator.log2 - 52
  let (a, b) := unscaled numerator denominator estimate
  let fitted := if a < b * leastFull then estimate - 1 else estimate
  max fitted (-1074)

/-- The number nearest to a ratio, or nothing when the ratio is too large. -/
def ofRatio? (numerator denominator : Nat) : Option Binary64 :=
  if numerator = 0 then
    some ⟨false, 0, 0⟩
  else
    let exponent := lastPlace numerator denominator
    let (a, b) := unscaled numerator denominator exponent
    let rounded := roundedQuotient a b
    let (significand, exponent) :=
      if rounded = 2 * leastFull then (leastFull, exponent + 1) else (rounded, exponent)
    if significand = 0 then some ⟨false, 0, 0⟩
    else if 971 < exponent then none
    else some ⟨false, significand, exponent⟩

/-- The zero without a sign. -/
def zero : Binary64 :=
  ⟨false, 0, 0⟩

/-- The number with its sign changed. -/
def neg (x : Binary64) : Binary64 :=
  { x with negative := !x.negative }

/-- The number nearest to a natural number below 2 to the 64. -/
def ofNat (n : Nat) : Binary64 :=
  (ofRatio? n 1).getD zero

/-- The number nearest to an integer. -/
def ofInt (i : Int) : Binary64 :=
  if i < 0 then (ofNat i.natAbs).neg else ofNat i.natAbs

/-- The product of two magnitudes, or nothing when it is too large. -/
def mul? (x y : Binary64) : Option Binary64 :=
  let exponent := x.exponent + y.exponent
  let product := x.significand * y.significand
  if exponent < 0 then
    ofRatio? product (Nat.pow 2 exponent.natAbs)
  else
    ofRatio? (product * Nat.pow 2 exponent.natAbs) 1

/-- The quotient of two magnitudes, the second of them not zero. -/
def div? (x y : Binary64) : Option Binary64 :=
  let exponent := x.exponent - y.exponent
  if exponent < 0 then
    ofRatio? x.significand (y.significand * Nat.pow 2 exponent.natAbs)
  else
    ofRatio? (x.significand * Nat.pow 2 exponent.natAbs) y.significand

/-- The greatest power of ten that is used as a factor. -/
def greatestPower : Nat := 308

/-- The number nearest to a power of ten. -/
def powerOfTen (power : Nat) : Binary64 :=
  ofNat (Nat.pow 10 power)

/-- A magnitude divided by a power of ten, in as many divisions as it takes.
Three divisions by the greatest power leave zero. -/
def divPowerOfTen? : Nat → Binary64 → Nat → Option Binary64
  | 0, _, _ => some zero
  | steps + 1, x, power =>
      if power ≤ greatestPower then
        x.div? (powerOfTen power)
      else if x.significand = 0 then
        some zero
      else do
        let next ← x.div? (powerOfTen greatestPower)
        divPowerOfTen? steps next (power - greatestPower)

/-- The magnitude that a significand below 2 to the 64 and a power of ten stand
for, or nothing when it is too large. -/
def ofDecimal? (significand : Nat) (exponent : Int) : Option Binary64 :=
  let whole := ofNat significand
  if exponent < 0 then
    divPowerOfTen? 4 whole exponent.natAbs
  else if exponent.natAbs ≤ greatestPower then
    whole.mul? (powerOfTen exponent.natAbs)
  else if significand = 0 then
    some zero
  else
    none

/-- The integer part of a number. -/
def truncate (x : Binary64) : Int :=
  let magnitude :=
    if x.exponent < 0 then
      x.significand / Nat.pow 2 x.exponent.natAbs
    else
      x.significand * Nat.pow 2 x.exponent.natAbs
  if x.negative then -(magnitude : Int) else magnitude

/-- Nothing is added to an exact quotient. -/
theorem roundedQuotient_mul {n d : Nat} (positive : 0 < d) : roundedQuotient (n * d) d = n := by
  have nonzero : ¬ 0 = d := by omega
  simp [roundedQuotient, Nat.mul_div_cancel n positive, nonzero]

@[simp]
theorem neg_neg (x : Binary64) : x.neg.neg = x := by
  cases x
  simp [neg]

end Binary64

end JobConsole.Number
