import TypeGuard.Decimal.Shortest

/-! Numbers as plain text: the fewest digits that read back, each at its own place, without a
power of ten whatever the size. -/

namespace TypeGuard.Decimal

/-- The digits of a decimal without its sign, with zeros up to its point. -/
def positional (d : Decimal) : List Char :=
  let shown := digits d.coefficient
  if 0 ≤ d.exponent then
    if d.coefficient = 0 then shown else shown ++ List.replicate d.exponent.toNat '0'
  else
    let places := (-d.exponent).toNat
    if places < shown.length then
      shown.take (shown.length - places) ++ '.' :: shown.drop (shown.length - places)
    else '0' :: '.' :: List.replicate (places - shown.length) '0' ++ shown

/-- A zero keeps its sign; the number that is none has no sign. -/
def numberText (x : Float) : String :=
  if x.isNaN then "NaN"
  else
    let d := shortest x
    let sign := if d.negative then ['-'] else []
    String.ofList (sign ++ if x.isFinite then positional d else ['i', 'n', 'f'])

end TypeGuard.Decimal
