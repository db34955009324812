import TypeGuard.Json.Basic
import TypeGuard.Value

/-! Documents as values. Every number becomes a floating-point number. The keys of an object come
out in ascending order, and of a repeated name the last value stays. -/

namespace TypeGuard.Value

def sortMembers (members : List (String × Value)) : List (String × Value) :=
  members.mergeSort fun a b => decide (a.1 ≤ b.1)

mutual
def ofJson : Json → Value
  | .null => .null
  | .bool value => .boolean value
  | .number value => .number value.toFloat
  | .string text => .string text
  | .array items => .array (ofJsonItems items)
  | .object members => .object (sortMembers (Assoc.ofList (ofJsonMembers members)))
termination_by structural json => json
def ofJsonItems : List Json → List Value
  | [] => []
  | item :: items => ofJson item :: ofJsonItems items
termination_by structural items => items
def ofJsonMembers : List (String × Json) → List (String × Value)
  | [] => []
  | (name, value) :: members => (name, ofJson value) :: ofJsonMembers members
termination_by structural members => members
end

end TypeGuard.Value
