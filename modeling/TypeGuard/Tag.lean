import TypeGuard.Text.Quoted

/-! Names for what a value is. Thirteen built-in types are fixed; custom types are open-ended
names. A tag is one of either, and two tags are the same when their names are. -/

namespace TypeGuard

inductive BuiltinType
  | object
  | array
  | null
  | string
  | number
  | bigint
  | boolean
  | symbol
  | undefined
  | function
  | asyncFunction
  | promise
  | iterable
  deriving DecidableEq, Inhabited

namespace BuiltinType

def all : List BuiltinType :=
  [.object, .array, .null, .string, .number, .bigint, .boolean, .symbol, .undefined, .function,
    .asyncFunction, .promise, .iterable]

def name : BuiltinType → String
  | .object => "object"
  | .array => "array"
  | .null => "null"
  | .string => "string"
  | .number => "number"
  | .bigint => "bigint"
  | .boolean => "boolean"
  | .symbol => "symbol"
  | .undefined => "undefined"
  | .function => "function"
  | .asyncFunction => "asyncfunction"
  | .promise => "promise"
  | .iterable => "iterable"

def debug : BuiltinType → String
  | .object => "Object"
  | .array => "Array"
  | .null => "Null"
  | .string => "String"
  | .number => "Number"
  | .bigint => "BigInt"
  | .boolean => "Boolean"
  | .symbol => "Symbol"
  | .undefined => "Undefined"
  | .function => "Function"
  | .asyncFunction => "AsyncFunction"
  | .promise => "Promise"
  | .iterable => "Iterable"

def ofName? (name : String) : Option BuiltinType :=
  all.find? fun type => type.name == name

def index (type : BuiltinType) : Nat :=
  type.ctorIdx

instance : Ord BuiltinType := ⟨fun a b => compare a.index b.index⟩

theorem mem_all (type : BuiltinType) : type ∈ all := by
  cases type <;> decide

@[simp] theorem ofName?_name (type : BuiltinType) : ofName? type.name = some type := by
  cases type <;> decide

theorem ofName?_eq_some_iff {text : String} {type : BuiltinType} :
    ofName? text = some type ↔ text = type.name := by
  constructor
  · intro found
    unfold ofName? at found
    have same := List.find?_some found
    exact (eq_of_beq same).symm
  · rintro rfl
    exact ofName?_name type

end BuiltinType

/-- A text that was read as a built-in type and names none. -/
structure UnknownType where
  name : String
  deriving DecidableEq

def UnknownType.message (unknown : UnknownType) : String :=
  "unknown built-in type '" ++ unknown.name ++ "'"

def BuiltinType.parse (text : String) : Except UnknownType BuiltinType :=
  match BuiltinType.ofName? text with
  | some type => .ok type
  | none => .error ⟨text⟩

structure CustomType where
  name : String
  deriving DecidableEq, Inhabited

namespace CustomType

def debug (type : CustomType) : String :=
  "CustomType(" ++ Text.quote type.name ++ ")"

/-- Names are ordered by the numbers of their characters. -/
instance : Ord CustomType := ⟨fun a b => compare a.name b.name⟩

end CustomType

inductive Tag
  | builtin (type : BuiltinType)
  | custom (type : CustomType)
  deriving DecidableEq, Inhabited

namespace Tag

def name : Tag → String
  | .builtin type => type.name
  | .custom type => type.name

def builtin? : Tag → Option BuiltinType
  | .builtin type => some type
  | .custom _ => none

def ofName (name : String) : Tag :=
  match BuiltinType.ofName? name with
  | some type => .builtin type
  | none => .custom ⟨name⟩

/-- A custom type named like a built-in one is the same tag as that one. -/
def same (a b : Tag) : Bool :=
  a.name == b.name

/-- Tags that are the same have the same hash. -/
instance : Hashable Tag := ⟨fun tag => hash tag.name⟩

def debug : Tag → String
  | .builtin type => "Primitive(" ++ type.debug ++ ")"
  | .custom type => "Custom(" ++ type.debug ++ ")"

/-- The names of some tags, each once, in the order of names. -/
def distinctNames (tags : List Tag) : List String :=
  (tags.map name).eraseDups.mergeSort fun a b => (compare a b).isLE

@[simp] theorem name_ofName (text : String) : (ofName text).name = text := by
  unfold ofName
  split
  · next found => exact (BuiltinType.ofName?_eq_some_iff.1 found).symm
  · rfl

@[simp] theorem same_iff {a b : Tag} : a.same b = true ↔ a.name = b.name := by
  simp [same]

end Tag

end TypeGuard
