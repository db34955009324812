import TypeGuard.Decimal.Basic

/-! The fewest decimal digits that read back to a given floating-point number, found by exact
arithmetic on its binary form. On each decimal grid, from coarse to fine, only the two neighbours
of the number can read back; the first grid with such a neighbour wins, and there the nearer
one. -/

namespace TypeGuard.Decimal

/-- The number `mantissa × 2 ^ exponent`. Below a power of two the neighbouring number is half as
far away as above it; `narrow` marks these. -/
structure Binary where
  mantissa : Nat
  exponent : Int
  narrow : Bool

/-- The exact value of a finite floating-point number without its sign. -/
def Binary.ofFloat (x : Float) : Binary :=
  let bits := x.toBits.toNat
  let field : Nat := bits / Nat.pow 2 52 % Nat.pow 2 11
  let fraction : Nat := bits % Nat.pow 2 52
  if field = 0 then ⟨fraction, -1074, false⟩
  else ⟨fraction + Nat.pow 2 52, (field : Int) - 1075, fraction == 0 && decide (1 < field)⟩

/-- The two sides of a comparison of `c × 10 ^ grid` with `quarters × 2 ^ (exponent - 2)`, cleared
of negative powers. -/
def Binary.sides (b : Binary) (grid : Int) (c quarters : Nat) : Nat × Nat :=
  let power := b.exponent - 2
  (c * Nat.pow 10 grid.toNat * Nat.pow 2 (-power).toNat,
    quarters * Nat.pow 2 power.toNat * Nat.pow 10 (-grid).toNat)

/-- Whether a decimal lies in the interval of reals that round to the number. The ends belong to
it exactly when the mantissa is even. -/
def Binary.readsBack (b : Binary) (grid : Int) (c : Nat) : Bool :=
  let (low, lowEnd) := b.sides grid c (4 * b.mantissa - if b.narrow then 1 else 2)
  let (high, highEnd) := b.sides grid c (4 * b.mantissa + 2)
  if b.mantissa % 2 = 0 then decide (lowEnd ≤ low ∧ high ≤ highEnd)
  else decide (lowEnd < low ∧ high < highEnd)

/-- The multiple of the grid just below the number. -/
def Binary.floorOn (b : Binary) (grid : Int) : Nat :=
  let (unit, value) := b.sides grid 1 (4 * b.mantissa)
  value / unit

/-- The neighbour on the grid that reads back; of two, the nearer, and of two equally near ones
the larger. -/
def Binary.onGrid (b : Binary) (grid : Int) : Option Nat :=
  let below := b.floorOn grid
  match b.readsBack grid below, b.readsBack grid (below + 1) with
  | false, false => none
  | true, false => some below
  | false, true => some (below + 1)
  | true, true =>
    let (middle, twice) := b.sides grid (2 * below + 1) (8 * b.mantissa)
    some (if twice < middle then below else below + 1)

/-- The power of ten of the leading digit of a positive number. -/
def Binary.leadingPlace (b : Binary) : Int :=
  let numerator := b.mantissa * Nat.pow 2 b.exponent.toNat
  let denominator := Nat.pow 2 (-b.exponent).toNat
  if denominator ≤ numerator then (digits (numerator / denominator)).length - 1
  else -((digits ((denominator - 1) / numerator)).length : Int)

/-- Every finite number has a finite decimal form, and this is it. -/
def Binary.exact (b : Binary) : Nat × Int :=
  if 0 ≤ b.exponent then (b.mantissa * Nat.pow 2 b.exponent.toNat, 0)
  else (b.mantissa * Nat.pow 5 (-b.exponent).toNat, b.exponent)

/-- Tries the given number of grids, each ten times finer than the one before. -/
def Binary.search (b : Binary) : Nat → Int → Nat × Int
  | 0, _ => b.exact
  | tries + 1, grid =>
    match b.onGrid grid with
    | some c => (c, grid)
    | none => b.search tries (grid - 1)

/-- Moves trailing zeros of the digits, at most the given number of them, into the power of
ten. -/
def trimZeros : Nat → Nat × Int → Nat × Int
  | 0, found => found
  | most + 1, (c, grid) =>
    if c % 10 = 0 then trimZeros most (c / 10, grid + 1) else (c, grid)

/-- Seventeen digits always suffice. -/
def shortest (x : Float) : Decimal :=
  let b := Binary.ofFloat x
  let negative := x.toBits.toNat / Nat.pow 2 63 == 1
  if b.mantissa = 0 then ⟨negative, 0, 0⟩
  else
    let (c, grid) := trimZeros 17 (b.search 17 b.leadingPlace)
    ⟨negative, c, grid⟩

end TypeGuard.Decimal
