/-! Numbers of 64-bit binary floating point, held as their words and read in exact arithmetic. -/

namespace ClientModel.Decimal

/-- A binary64 number, by its word: sign, eleven bits of exponent, fifty-two of fraction. -/
structure Double where
  word : UInt64
  deriving DecidableEq

namespace Double

/-- The sign bit is set. -/
def isNegative (x : Double) : Bool :=
  Nat.pow 2 63 ≤ x.word.toNat

/-- The eleven bits of the exponent field. -/
def exponentField (x : Double) : Nat :=
  x.word.toNat / Nat.pow 2 52 % Nat.pow 2 11

/-- The fifty-two bits of the fraction field. -/
def fractionField (x : Double) : Nat :=
  x.word.toNat % Nat.pow 2 52

/-- The number is neither infinite nor a NaN. -/
def isFinite (x : Double) : Bool :=
  x.exponentField != 2047

/-- The word stands for no number at all. -/
def isNaN (x : Double) : Bool :=
  x.exponentField == 2047 && x.fractionField != 0

/-- The whole number that is scaled by a power of two; a normal number implies its leading bit. -/
def significand (x : Double) : Nat :=
  if x.exponentField == 0 then x.fractionField else Nat.pow 2 52 + x.fractionField

/-- The exponent of the power of two, raised by 1074 so that it is never negative. -/
def scale (x : Double) : Nat :=
  x.exponentField - 1

/-- The size of a finite number is `significand * 2 ^ scale / 2 ^ 1074`. -/
def units (x : Double) : Nat :=
  x.significand * Nat.pow 2 x.scale

/-- A finite number without a fractional part. -/
def isIntegral (x : Double) : Bool :=
  x.isFinite && x.units % Nat.pow 2 1074 == 0

/-- The number with the given sign and fields. -/
def ofFields (negative : Bool) (exponentField fractionField : Nat) : Double :=
  let sign := if negative then Nat.pow 2 63 else 0
  ⟨UInt64.ofNat (sign + exponentField * Nat.pow 2 52 + fractionField)⟩

/-- The quotient rounded to the nearest whole number, and to the even one of two equally near. -/
def roundToEven (numerator denominator : Nat) : Nat :=
  let quotient := numerator / denominator
  let twice := 2 * (numerator % denominator)
  if twice < denominator then quotient
  else if denominator < twice then quotient + 1
  else quotient + quotient % 2

/--
The number nearest to a quotient of whole numbers, and the even one of two equally near.

The quotient is measured in units of `2 ^ -1074`. Dropping `shift` bits leaves at most fifty-three,
so a single rounding decides all of them; a carry out of the fraction moves into the exponent by
itself because the two fields adjoin.
-/
def nearest (negative : Bool) (numerator denominator : Nat) : Double :=
  let whole := numerator * Nat.pow 2 1074 / denominator
  let shift := (whole.log2 + 1) - 53
  let rounded := roundToEven (numerator * Nat.pow 2 1074) (denominator * Nat.pow 2 shift)
  -- A subnormal significand stands for itself; a normal one adds its implied bit as exponent one.
  let magnitude := shift * Nat.pow 2 52 + rounded
  let largest := 2047 * Nat.pow 2 52
  ofFields negative 0 (if magnitude < largest then magnitude else largest)

/-- The number nearest to a decimal: digits times a power of ten. -/
def ofDecimal (negative : Bool) (digits : Nat) (exponent : Int) : Double :=
  if digits == 0 then ofFields negative 0 0
  -- Past these powers of ten the result is infinite or zero whatever the digits are.
  else if exponent > 400 then ofFields negative 2047 0
  else if 0 ≤ exponent then nearest negative (digits * Nat.pow 10 exponent.toNat) 1
  else nearest negative digits (Nat.pow 10 exponent.natAbs)

/-- The number nearest to a whole number. -/
def ofInt (value : Int) : Double :=
  nearest (value < 0) value.natAbs 1

end Double

end ClientModel.Decimal
