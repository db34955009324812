import TypeGuard.Assoc
import TypeGuard.Callable

/-! Dynamic values. Symbols, generators, promises and functions carry a handle that tells them
apart; all other values are plain data. Every value has exactly one built-in type. -/

namespace TypeGuard

inductive Value
  | undefined
  | null
  | boolean (value : Bool)
  | number (value : Float)
  | bigint (value : Int)
  | string (text : String)
  | symbol (identity : Identity) (description : String)
  | array (items : List Value)
  | object (members : List (String × Value))
  | set (items : List Value)
  | map (entries : List (Value × Value))
  | generator (producer : GeneratorId)
  | promise (promise : PromiseId)
  | function (callable : Callable)
  deriving Inhabited

/-- The values that a value produces one after the other: all there already, or made on demand. -/
inductive Items
  | listed (values : List Value)
  | generated (producer : GeneratorId)

namespace Value

def builtinType : Value → BuiltinType
  | .undefined => .undefined
  | .null => .null
  | .boolean _ => .boolean
  | .number _ => .number
  | .bigint _ => .bigint
  | .string _ => .string
  | .symbol _ _ => .symbol
  | .array _ => .array
  | .object _ => .object
  | .set _ | .map _ | .generator _ => .iterable
  | .promise _ => .promise
  | .function callable =>
    match callable.kind with
    | .sync => .function
    | .async => .asyncFunction

/-- An object of the given members. A repeated key keeps its first place and its last value. -/
def ofMembers (members : List (String × Value)) : Value :=
  .object (Assoc.ofList members)

def ofOption : Option Value → Value
  | some value => value
  | none => .null

def get? (key : String) : Value → Option Value
  | .object members => Assoc.get? key members
  | _ => none

def text? : Value → Option String
  | .string text => some text
  | _ => none

def number? : Value → Option Float
  | .number value => some value
  | _ => none

def callable? : Value → Option Callable
  | .function callable => some callable
  | _ => none

def isString (value : Value) : Bool :=
  value.text?.isSome

/-- What arrays and iterables produce. An entry of a map is a pair of its key and its value. -/
def items? : Value → Option Items
  | .array items | .set items => some (.listed items)
  | .map entries => some (.listed (entries.map fun (key, value) => .array [key, value]))
  | .generator producer => some (.generated producer)
  | _ => none

end Value

end TypeGuard
