import ClientModel.Decimal.Double

/-! The decimal with the fewest digits that reads back as a given number. -/

namespace ClientModel.Decimal

/-- Which of two equally near decimals is taken. -/
inductive TieRule
  | upward
  | toEven
  deriving DecidableEq

/-- A positive decimal: its digits, as a whole number, times a power of ten. -/
structure Digits where
  digits : Nat
  exponent : Int
  deriving DecidableEq

/-- The reals that round to a number, with the number itself, all over one denominator. -/
structure Interval where
  lower : Nat
  value : Nat
  upper : Nat
  denominator : Nat
  closed : Bool

/--
The reals that round to a positive finite number.

The half-way points belong to the neighbour with the even significand. Below a power of two the
numbers lie twice as close, so the lower half-way point is nearer there.
-/
def Interval.of (x : Double) : Interval :=
  let significand := x.significand
  let unit := Nat.pow 2 x.scale
  let below := if x.fractionField == 0 && 1 < x.exponentField then 1 else 2
  { lower := (4 * significand - below) * unit
    value := 4 * significand * unit
    upper := (4 * significand + 2) * unit
    denominator := 4 * Nat.pow 2 1074
    closed := significand % 2 == 0 }

/-- A quotient over the interval's denominator lies in the interval. -/
def Interval.has (interval : Interval) (numerator scale : Nat) : Bool :=
  let lower := interval.lower * scale
  let upper := interval.upper * scale
  if interval.closed then lower ≤ numerator && numerator ≤ upper
  else lower < numerator && numerator < upper

/--
The point of a decimal grid that lies in the interval and nearest to its value.

The grid's points are the multiples of `10 ^ step`. Only the two neighbours of the value need a
look: when the interval holds any point of the grid, it holds one of these.
-/
def Interval.onGrid (interval : Interval) (tie : TieRule) (step : Int) : Option Nat :=
  -- Point `k` of the grid is `k * up / down`.
  let up := Nat.pow 10 step.toNat
  let down := Nat.pow 10 (-step).toNat
  let cell := up * interval.denominator
  let scaled := interval.value * down
  let low := scaled / cell
  let holds (point : Nat) := interval.has (point * cell) down
  match holds low, holds (low + 1) with
  | false, false => none
  | true, false => some low
  | false, true => some (low + 1)
  | true, true =>
    let toLow := scaled - low * cell
    let toHigh := (low + 1) * cell - scaled
    if toLow < toHigh then some low
    else if toHigh < toLow then some (low + 1)
    else
      match tie with
      | .upward => some (low + 1)
      | .toEven => some (low + low % 2)

/-- How many decimal digits a positive whole number has. -/
def digitCount (n : Nat) : Nat :=
  (Nat.toDigits 10 n).length

/--
The exponent of the leading decimal digit of a positive quotient.

Below one, the first power of ten that lifts the quotient to one or more shows the leading digit; it
is the first to exceed the whole part of `(denominator - 1) / numerator`.
-/
def leadingExponent (numerator denominator : Nat) : Int :=
  if denominator ≤ numerator then (digitCount (numerator / denominator) : Int) - 1
  else -(digitCount ((denominator - 1) / numerator) : Int)

/-- Tries ever finer grids, the first with `taken + 1` digits, until none remain to be tried. -/
def Interval.search (interval : Interval) (tie : TieRule) (leading : Int) (taken : Nat) :
    Nat → Option Digits
  | 0 => none
  | remaining + 1 =>
    let step := leading - taken
    match interval.onGrid tie step with
    | some digits => some ⟨digits, step⟩
    | none => interval.search tie leading (taken + 1) remaining

/-- Moves trailing zeros from the digits into the exponent. -/
def Digits.stripped : Nat → Digits → Digits
  | 0, decimal => decimal
  | fuel + 1, decimal =>
    if decimal.digits != 0 && decimal.digits % 10 == 0 then
      Digits.stripped fuel ⟨decimal.digits / 10, decimal.exponent + 1⟩
    else decimal

/--
The shortest decimal that reads back as the size of a finite number that is not zero.

Seventeen digits always suffice, so the search tries one digit, then two, up to seventeen.
-/
def shortest (tie : TieRule) (x : Double) : Digits :=
  let interval := Interval.of x
  let leading := leadingExponent interval.value interval.denominator
  ((interval.search tie leading 0 17).getD ⟨0, 0⟩).stripped 20

end ClientModel.Decimal
