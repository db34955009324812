/-! Decimal numbers as they are written: a sign, digits and a power of ten. Each one has a nearest
floating-point number, and the sign of a zero is kept. -/

namespace TypeGuard

/-- The number `± coefficient × 10 ^ exponent`. -/
structure Decimal where
  negative : Bool
  coefficient : Nat
  exponent : Int
  deriving DecidableEq

namespace Decimal

def digitsValue (digits : List Char) : Nat :=
  digits.foldl (fun value c => 10 * value + (c.toNat - '0'.toNat)) 0

def digits (n : Nat) : List Char :=
  Nat.toDigits 10 n

def intDigits (n : Int) : List Char :=
  (if n < 0 then ['-'] else []) ++ digits n.natAbs

/-- The nearest floating-point number without the sign. Far beyond both ends of the range the
answer is infinity or zero whatever the digits are, and the power of ten is not worked out. -/
def magnitude (d : Decimal) : Float :=
  if d.coefficient = 0 then 0
  else
    let places := (digits d.coefficient).length + d.exponent
    if places > 400 then Float.ofScientific 1 false 400
    else if places < -400 then 0
    else Float.ofScientific d.coefficient (decide (d.exponent < 0)) d.exponent.natAbs

def toFloat (d : Decimal) : Float :=
  if d.negative then -d.magnitude else d.magnitude

end Decimal

end TypeGuard
