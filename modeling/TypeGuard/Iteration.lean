import TypeGuard.Program

/-! Going through what a value produces. A sequence made on demand starts a pass first and is
asked for no more items than are needed. -/

namespace TypeGuard.Items

/-- At most so many further items of a pass, in front of them those taken before, last one
first. -/
def takeFrom (producer : GeneratorId) (taken : List Value) : Nat → Nat → Program (List Value)
  | 0, _ => pure taken.reverse
  | most + 1, place => do
    match ← Program.request (.nextItem producer place) with
    | none => pure taken.reverse
    | some value => takeFrom producer (value :: taken) most (place + 1)

def take (most : Nat) : Items → Program (List Value)
  | .listed values => pure (values.take most)
  | .generated producer => do
    Program.request (.startPass producer)
    takeFrom producer [] most 0

/-- Whether a test holds for all values of a list. The first one it fails for ends the search. -/
def allListed (test : Value → Program Bool) : List Value → Program Bool
  | [] => pure true
  | value :: rest => do
    if ← test value then allListed test rest else pure false

/-- Whether a test holds for the further items of a pass, of which so many are looked at. -/
def allFrom (test : Value → Program Bool) (producer : GeneratorId) : Nat → Nat → Program Bool
  | 0, _ => pure true
  | most + 1, place => do
    match ← Program.request (.nextItem producer place) with
    | none => pure true
    | some value => if ← test value then allFrom test producer most (place + 1) else pure false

/-- A search through a sequence without end gives up after this many items. -/
def searchLimit : Nat := 1000000000

def all (test : Value → Program Bool) : Items → Program Bool
  | .listed values => allListed test values
  | .generated producer => do
    Program.request (.startPass producer)
    allFrom test producer searchLimit 0

end TypeGuard.Items
