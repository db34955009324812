import TypeGuard.Decimal.Basic

/-! Reading decimal numbers in a free form: a plus sign is allowed, and a point at either end of the
digits, and the names of infinity and of the number that is none. The nearest floating-point number
is taken. -/

namespace TypeGuard.Decimal

def spanDigits (text : List Char) : List Char × List Char :=
  (text.takeWhile Char.isDigit, text.dropWhile Char.isDigit)

/-- A power of ten after `e`, if one is written. An `e` without digits is refused. -/
def readExponent : List Char → Option (Option Int × List Char)
  | [] => some (none, [])
  | c :: rest =>
    if c = 'e' ∨ c = 'E' then
      let (negative, rest) :=
        match rest with
        | '-' :: rest => (true, rest)
        | '+' :: rest => (false, rest)
        | rest => (false, rest)
      match spanDigits rest with
      | ([], _) => none
      | (digits, rest) =>
        let value : Int := digitsValue digits
        some (some (if negative then -value else value), rest)
    else some (none, c :: rest)

def readFraction : List Char → List Char × List Char
  | '.' :: rest => spanDigits rest
  | rest => ([], rest)

def assemble (negative : Bool) (whole fraction : List Char) (exponent : Int) : Decimal :=
  ⟨negative, digitsValue (whole ++ fraction), exponent - fraction.length⟩

/-- The free form without its sign. -/
def parseUnsigned? (negative : Bool) (text : List Char) : Option Float := do
  let signed (x : Float) : Float := if negative then -x else x
  let word := String.ofList (text.map Char.toLower)
  if word = "nan" then return signed (0 / 0)
  if word = "inf" ∨ word = "infinity" then return signed (1 / 0)
  let (whole, rest) := spanDigits text
  let (fraction, rest) := readFraction rest
  if whole = [] ∧ fraction = [] then none
  let (exponent, rest) ← readExponent rest
  if rest = [] then some (assemble negative whole fraction (exponent.getD 0)).toFloat else none

/-- The nearest floating-point number to a text in the free form. -/
def parse? (text : String) : Option Float :=
  match text.toList with
  | '-' :: rest => parseUnsigned? true rest
  | '+' :: rest => parseUnsigned? false rest
  | text => parseUnsigned? false text

end TypeGuard.Decimal
