import TypeGuard.Decimal.Reader

/-! Numbers of documents. A number without a point and a power of ten is whole if it fits in 64
bits; every other one is a floating-point number. Its digits are gathered only as long as they fit
in 64 bits, and what they make is then multiplied or divided by a power of ten in floating-point
arithmetic, so the result may be a neighbour of the nearest one. -/

namespace TypeGuard.Json

/-- Both kinds are finite as floating-point numbers. -/
inductive Number
  | whole (value : Int) (isFinite : (Float.ofInt value).isFinite = true)
  | fraction (value : Float) (isFinite : value.isFinite = true)
  deriving DecidableEq

namespace Number

/-- The floating-point number that a number stands for; a whole one is rounded to the nearest. -/
def toFloat : Number → Float
  | .whole value _ => Float.ofInt value
  | .fraction value _ => value

theorem isFinite_toFloat (n : Number) : n.toFloat.isFinite = true := by
  cases n <;> assumption

def ofInt? (value : Int) : Option Number :=
  if h : (Float.ofInt value).isFinite = true then some (.whole value h) else none

def ofFloat? (value : Float) : Option Number :=
  if h : value.isFinite = true then some (.fraction value h) else none

/-- The number of a sign and a size that fits in 64 bits. Negative zero is not whole, nor is a
negative number that does not fit in 64 bits with its sign. -/
def ofSize? (negative : Bool) (size : Nat) : Option Number :=
  if negative then
    if size = 0 ∨ Nat.pow 2 63 < size then ofFloat? (-Float.ofNat size) else ofInt? (-(size : Int))
  else ofInt? size

def gather? (gathered : Nat) (digit : Char) : Option Nat :=
  let more := 10 * gathered + (digit.toNat - '0'.toNat)
  if more < Nat.pow 2 64 then some more else none

/-- Gathers digits before a point. From the first one that does not fit they are only counted. -/
def gatherWhole (gathered : Nat) : List Char → Nat × Nat
  | [] => (gathered, 0)
  | digit :: rest =>
    match gather? gathered digit with
    | some more => gatherWhole more rest
    | none => (gathered, rest.length + 1)

/-- Gathers digits after a point, and counts those gathered. From the first one that does not fit
they are ignored. -/
def gatherFraction (gathered count : Nat) : List Char → Nat × Nat
  | [] => (gathered, count)
  | digit :: rest =>
    match gather? gathered digit with
    | some more => gatherFraction more (count + 1) rest
    | none => (gathered, count)

def largestPower : Nat := 308

def powerOfTen (power : Nat) : Float :=
  Float.ofScientific 1 false power

/-- Divided by a power of ten, and by the largest one first where that power is beyond range. -/
def reduce (x : Float) (power : Nat) : Float :=
  if largestPower < power then
    if x == 0 then x else reduce (x / powerOfTen largestPower) (power - largestPower)
  else x / powerOfTen power
termination_by power
decreasing_by simp only [largestPower] at *; omega

/-- Multiplied by a power of ten, unless that power alone is beyond range. Zero stays zero. -/
def scale? (x : Float) (power : Int) : Option Float :=
  if power < 0 then some (reduce x (-power).toNat)
  else if power ≤ largestPower then some (x * powerOfTen power.toNat)
  else if x == 0 then some x
  else none

structure Written where
  negative : Bool
  whole : List Char
  fraction : Option (List Char)
  exponent : Option Int

def ofWritten? (written : Written) : Option Number := do
  let (gathered, dropped) := gatherWhole 0 written.whole
  if written.fraction = none ∧ written.exponent = none ∧ dropped = 0 then
    ofSize? written.negative gathered
  else
    let (gathered, count) := gatherFraction gathered 0 (written.fraction.getD [])
    let size ← scale? (Float.ofNat gathered) (written.exponent.getD 0 + dropped - count)
    ofFloat? (if written.negative then -size else size)

end Number

/-- Reads the parts of a number: no plus sign, no leading zero, and a digit on either side of a
point. -/
def readWritten (text : List Char) : Option (Number.Written × List Char) := do
  let (negative, text) :=
    match text with
    | '-' :: rest => (true, rest)
    | text => (false, text)
  let (whole, rest) := Decimal.spanDigits text
  match whole with
  | [] => none
  | '0' :: _ :: _ => none
  | _ => pure ()
  let (fraction, rest) ←
    match rest with
    | '.' :: after =>
      match Decimal.spanDigits after with
      | ([], _) => none
      | (digits, rest) => some (some digits, rest)
    | rest => some (none, rest)
  let (exponent, rest) ← Decimal.readExponent rest
  some (⟨negative, whole, fraction, exponent⟩, rest)

end TypeGuard.Json
