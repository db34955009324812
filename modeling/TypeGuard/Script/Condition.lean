import TypeGuard.Decimal.Shortest
import TypeGuard.Iteration
import TypeGuard.Procedures
import TypeGuard.Value.Equality

/-! Checks as data. A rule has clauses; the first clause whose condition holds decides what the
check answers. Conditions may look at the value, consult registries, and even register further
checks. -/

namespace TypeGuard.Script

structure Registration where
  registry : RegistryId
  root : BuiltinType
  tag : CustomType
  check : CheckId

def Registration.perform (registration : Registration) : Program Unit :=
  Program.request
    (.register registration.registry registration.root registration.tag registration.check)

inductive Condition
  | always
  | never
  | isString
  | even
  | settled
  | has (key : String)
  | hasText (key : String)
  | contains (text : String)
  | lessThan (limit : Float)
  | greaterThan (limit : Float)
  | counts (items : Nat)
  | named (name : String)
  | equals (other : Value)
  | not (condition : Condition)
  | all (conditions : List Condition)
  | any (conditions : List Condition)
  /-- A property whose classification is one of the tags. -/
  | property (registry : RegistryId) (key : String) (tags : List Tag)
  /-- An iterable value whose items all have one of the tags. -/
  | items (registry : RegistryId) (tags : List Tag)
  /-- Registers a check, and never holds. -/
  | registering (registration : Registration)

/-- Whether a number is a multiple of two, worked out on its exact binary form. -/
def isEven (x : Float) : Bool :=
  let b := Decimal.Binary.ofFloat x
  x.isFinite &&
    if b.mantissa = 0 then true
    else if 0 < b.exponent then true
    else decide (b.mantissa % Nat.pow 2 ((-b.exponent).toNat + 1) = 0)

def occursIn (part : List Char) : List Char → Bool
  | [] => part.isEmpty
  | c :: rest => part.isPrefixOf (c :: rest) || occursIn part rest

mutual
def Condition.holds : Condition → Value → Program Bool
  | .always, _ => pure true
  | .never, _ => pure false
  | .isString, value => pure value.isString
  | .even, value => pure (value.number?.any isEven)
  | .settled, .promise id => do return (← Program.request (.peek id)).isSome
  | .settled, _ => pure false
  | .has key, value => pure (value.get? key).isSome
  | .hasText key, value => pure ((value.get? key).any Value.isString)
  | .contains part, value => pure (value.text?.any fun text => occursIn part.toList text.toList)
  | .lessThan limit, value => pure (value.number?.any fun x => decide (x < limit))
  | .greaterThan limit, value => pure (value.number?.any fun x => decide (limit < x))
  | .counts items, value =>
    match value.items? with
    | none => pure false
    | some produced => do return (← produced.take (items + 1)).length == items
  | .named name, value => pure (value.callable?.any fun callable => callable.name == name)
  | .equals other, value => pure (value.same other)
  | .not condition, value => do return !(← condition.holds value)
  | .all conditions, value => allHold conditions value
  | .any conditions, value => anyHolds conditions value
  | .property registry key tags, value =>
    match value.get? key with
    | none => pure false
    | some property => Program.hasSomeTag registry property tags
  | .items registry tags, value =>
    match value.items? with
    | none => pure false
    | some produced => produced.all fun item => Program.hasSomeTag registry item tags
  | .registering registration, _ => do
    registration.perform
    return false
termination_by structural condition => condition
/-- The first condition that fails ends the search. -/
def allHold : List Condition → Value → Program Bool
  | [], _ => pure true
  | condition :: rest, value => do
    if ← condition.holds value then allHold rest value else pure false
termination_by structural conditions => conditions
/-- The first condition that holds ends the search. -/
def anyHolds : List Condition → Value → Program Bool
  | [], _ => pure false
  | condition :: rest, value => do
    if ← condition.holds value then pure true else anyHolds rest value
termination_by structural conditions => conditions
end

/-- A check with a label, under which the journal shows that it was called. -/
structure Rule where
  label : String
  clauses : List (Condition × CustomType)

def Rule.firstClause (value : Value) :
    List (Condition × CustomType) → Program (Option CustomType)
  | [] => pure none
  | (condition, answer) :: rest => do
    if ← condition.holds value then return some answer else firstClause value rest

def Rule.check (rule : Rule) (value : Value) : Program (Option CustomType) := do
  Program.request (.note ("check " ++ rule.label))
  firstClause value rule.clauses

end TypeGuard.Script
