import JobConsole.Number.Binary64
import JobConsole.Text.Decimal

/-!
# Shortest decimal texts

A number is written with the fewest digits that still identify it.  The
decimal numbers that round to a binary number form an interval around it; the
text shows a point of the coarsest decimal grid that has a point in this
interval, and of two such points the nearer one.

Magnitudes from `1e-5` up to `1e16` are written in positions, with a point and
at least one digit after it; all others have an exponent with its sign.
-/

namespace JobConsole.Number

open JobConsole.Text

/-- A ratio of natural numbers. -/
structure Ratio where
  numerator : Nat
  denominator : Nat

namespace Ratio

/-- The ratio `n * 2 ^ exponent`. -/
def scaled (n : Nat) (exponent : Int) : Ratio :=
  if exponent < 0 then ⟨n, Nat.pow 2 exponent.natAbs⟩ else ⟨n * Nat.pow 2 exponent.natAbs, 1⟩

/-- The ratio in units of a power of ten. -/
def inUnits (r : Ratio) (power : Int) : Ratio :=
  if power < 0 then
    ⟨r.numerator * Nat.pow 10 power.natAbs, r.denominator⟩
  else
    ⟨r.numerator, r.denominator * Nat.pow 10 power.natAbs⟩

/-- The comparison with a natural number: whether the number is greater. -/
def lessThan (r : Ratio) (n : Nat) : Bool :=
  r.numerator < n * r.denominator

/-- Whether a natural number is below the ratio. -/
def greaterThan (r : Ratio) (n : Nat) : Bool :=
  n * r.denominator < r.numerator

end Ratio

/-- The decimal numbers that round to a binary number: those between two ends,
the ends included or not. -/
structure RoundingInterval where
  low : Ratio
  high : Ratio
  closed : Bool

namespace RoundingInterval

/-- The interval around a positive number.  The lower half is narrower at a
power of two, because the numbers below it lie closer. -/
def around (x : Binary64) : RoundingInterval where
  low :=
    if x.significand = Binary64.leastFull ∧ -1074 < x.exponent then
      Ratio.scaled (4 * x.significand - 1) (x.exponent - 2)
    else
      Ratio.scaled (4 * x.significand - 2) (x.exponent - 2)
  high := Ratio.scaled (4 * x.significand + 2) (x.exponent - 2)
  closed := x.significand % 2 == 0

/-- Whether a multiple of a power of ten lies in the interval. -/
def contains (interval : RoundingInterval) (multiple : Nat) (power : Int) : Bool :=
  let low := interval.low.inUnits power
  let high := interval.high.inUnits power
  if interval.closed then
    !low.greaterThan multiple && !high.lessThan multiple
  else
    low.lessThan multiple && high.greaterThan multiple

end RoundingInterval

/-- A decimal number `digits * 10 ^ exponent`. -/
structure DecimalForm where
  digits : Nat
  exponent : Int

namespace Binary64

/-- The point of the grid of a power of ten that stands for a positive number:
one of the two neighbours of the number, if it lies in the interval, and of two
the nearer one; a tie goes to the even multiple. -/
def gridPoint? (x : Binary64) (power : Int) : Option Nat :=
  let interval := RoundingInterval.around x
  let value := (Ratio.scaled x.significand x.exponent).inUnits power
  let below := value.numerator / value.denominator
  let rest := value.numerator % value.denominator
  let belowFits := interval.contains below power
  let aboveFits := interval.contains (below + 1) power
  let nearBelow :=
    2 * rest < value.denominator || (2 * rest == value.denominator && below % 2 == 0)
  if belowFits && (nearBelow || !aboveFits) then some below
  else if aboveFits then some (below + 1)
  else none

/-- The first grid with a point for the number, from a power of ten downwards
through a number of finer grids. -/
def shortestFrom (x : Binary64) (power : Int) : Nat → DecimalForm
  | 0 => ⟨0, power⟩
  | grids + 1 =>
      match x.gridPoint? power with
      | some multiple => ⟨multiple, power⟩
      | none => shortestFrom x (power - 1) grids

/-- A power of ten above a positive number, close to it. -/
def powerAbove (x : Binary64) : Int :=
  ((x.significand.log2 : Int) + x.exponent + 1) * 30103 / 100000 + 2

/-- The shortest decimal number that rounds to a positive number.  Twenty-four
grids reach from above the number to its seventeenth digit. -/
def shortest (x : Binary64) : DecimalForm :=
  x.shortestFrom x.powerAbove 24

/-- The digits of a decimal number with a point before the last digits, of
which there are as many as the second number says. -/
def pointed (digits : List Char) (places : Nat) : List Char :=
  digits.take (digits.length - places) ++ '.' :: digits.drop (digits.length - places)

/-- The sign and the digits of an exponent. -/
def exponentText (exponent : Int) : List Char :=
  (if exponent < 0 then '-' else '+') :: digits exponent.natAbs

/-- The text of a decimal number that is not zero.  Its magnitude is at least
ten to the power `point - 1`. -/
def decimalText (form : DecimalForm) : List Char :=
  let shown := digits form.digits
  let point : Int := shown.length + form.exponent
  if 0 ≤ form.exponent ∧ point ≤ 16 then
    shown ++ List.replicate form.exponent.natAbs '0' ++ ['.', '0']
  else if 0 < point ∧ point ≤ 16 then
    pointed shown form.exponent.natAbs
  else if -5 < point ∧ point ≤ 0 then
    ['0', '.'] ++ List.replicate point.natAbs '0' ++ shown
  else if shown.length = 1 then
    shown ++ 'e' :: exponentText (point - 1)
  else
    pointed shown (shown.length - 1) ++ 'e' :: exponentText (point - 1)

/-- The text of a number. -/
def text (x : Binary64) : List Char :=
  (if x.negative then ['-'] else []) ++
    (if x.significand = 0 then ['0', '.', '0'] else decimalText x.shortest)

end Binary64

end JobConsole.Number
