import ClientModel.Decimal.Shortest

/-! How a number is written: positionally without end, or with an exponent where it grows long. -/

namespace ClientModel.Decimal

/-- Zeros in a row. -/
def zeros (count : Nat) : String :=
  String.ofList (List.replicate count '0')

/-- The sign that is written before a number. -/
def signText (x : Double) : String :=
  if x.isNegative then "-" else ""

/-- A decimal written positionally; `whole` is what follows a number without a fraction. -/
def Digits.positional (decimal : Digits) (whole : String) : String :=
  let text := Nat.toDigits 10 decimal.digits
  -- The point stands after this many digits.
  let point : Int := text.length + decimal.exponent
  if 0 ≤ decimal.exponent then String.ofList text ++ zeros decimal.exponent.toNat ++ whole
  else if 0 < point then
    String.ofList (text.take point.toNat ++ '.' :: text.drop point.toNat)
  else "0." ++ zeros (-point).toNat ++ String.ofList text

/-- The exponent of a decimal's leading digit. -/
def Digits.leading (decimal : Digits) : Int :=
  decimal.exponent + digitCount decimal.digits - 1

/-- A decimal written with its point after the first digit and an exponent that bears a sign. -/
def Digits.scientific (decimal : Digits) : String :=
  let mantissa :=
    match Nat.toDigits 10 decimal.digits with
    | digit :: rest@(_ :: _) => digit :: '.' :: rest
    | digits => digits
  let exponent := decimal.leading
  String.ofList mantissa ++ "e" ++ (if exponent < 0 then "-" else "+") ++ toString exponent.natAbs

/--
A number as it is shown to a reader: positional whatever its size, whole numbers without a point.

Of two equally near decimals the larger is shown.
-/
def Double.display (x : Double) : String :=
  if x.isNaN then "NaN"
  else if !x.isFinite then signText x ++ "inf"
  else if x.units == 0 then signText x ++ "0"
  else signText x ++ (shortest .upward x).positional ""

/--
A finite number as it is written into a document: whole numbers keep a zero after the point, and
sizes below `1e-5` or from `1e16` on are written with an exponent.

Of two equally near decimals the one with the even last digit is written. Numbers that are not
finite have no written form.
-/
def Double.written (x : Double) : Option String :=
  if !x.isFinite then none
  else if x.units == 0 then some (signText x ++ "0.0")
  else
    let decimal := shortest .toEven x
    if -5 ≤ decimal.leading && decimal.leading < 16 then
      some (signText x ++ decimal.positional ".0")
    else some (signText x ++ decimal.scientific)

end ClientModel.Decimal
