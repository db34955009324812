import TypeGuard.Value

/-! Equality of values. Arrays, sets and maps are compared place by place, objects without regard
to the order of their keys, and numbers as numbers, so that the number that is none differs from
itself. What carries a handle is equal only to itself. -/

namespace TypeGuard.Value

mutual
def same : Value → Value → Bool
  | .undefined, .undefined | .null, .null => true
  | .boolean a, .boolean b => a == b
  | .number a, .number b => a == b
  | .bigint a, .bigint b => a == b
  | .string a, .string b => a == b
  | .symbol a _, .symbol b _ => a == b
  | .array a, .array b | .set a, .set b => sameItems a b
  | .object a, .object b => a.length == b.length && sameMembers a b
  | .map a, .map b => sameEntries a b
  | .generator a, .generator b => a == b
  | .promise a, .promise b => a == b
  | .function a, .function b => a.same b
  | _, _ => false
termination_by structural a => a
def sameItems : List Value → List Value → Bool
  | [], [] => true
  | a :: as, b :: bs => same a b && sameItems as bs
  | _, _ => false
termination_by structural as => as
/-- Whether every member of the first list has an equal one of its key in the second. -/
def sameMembers : List (String × Value) → List (String × Value) → Bool
  | [], _ => true
  | (key, a) :: as, others =>
    (match Assoc.get? key others with
      | some b => same a b
      | none => false) && sameMembers as others
termination_by structural as => as
def sameEntries : List (Value × Value) → List (Value × Value) → Bool
  | [], [] => true
  | (k, a) :: as, (l, b) :: bs => same k l && same a b && sameEntries as bs
  | _, _ => false
termination_by structural as => as
end

/-- The values that are equal to none of those kept before them. -/
def distinctFrom (kept : List Value) : List Value → List Value
  | [] => []
  | value :: rest =>
    if kept.any fun earlier => earlier.same value then distinctFrom kept rest
    else value :: distinctFrom (kept ++ [value]) rest

/-- A set of the given values, each kept only if none kept earlier is equal to it. -/
def ofDistinct (values : List Value) : Value :=
  .set (distinctFrom [] values)

end TypeGuard.Value
