import TypeGuard.Spec
import TypeGuard.Json.Reader
import TypeGuard.Json.Writer

/-! Tags and specifications as documents. A tag is a string; a specification is a string or a list
of strings, and the shape says which kind it is. -/

namespace TypeGuard

def BuiltinType.toJson (type : BuiltinType) : Json :=
  .string type.name

/-- A built-in type is its name, or a lone member of that name without a value. -/
def BuiltinType.ofJson? : Json → Option BuiltinType
  | .string text => ofName? text
  | .object [(name, .null)] => ofName? name
  | _ => none

def Tag.toJson (tag : Tag) : Json :=
  .string tag.name

def Tag.ofJson? : Json → Option Tag
  | .string text => some (ofName text)
  | _ => none

namespace Spec

def toJson : Spec → Json
  | .single tag => tag.toJson
  | .choice tags => .array (tags.map Tag.toJson)

def ofJson? : Json → Option Spec
  | .string text => some (.single (.ofName text))
  | .array items => (items.mapM Tag.ofJson?).map .choice
  | _ => none

def parse? (text : String) : Option Spec := do
  ofJson? (← Json.parse? text)

def parseList? (text : String) : Option (List Spec) := do
  match ← Json.parse? text with
  | .array items => items.mapM ofJson?
  | _ => none

end Spec

end TypeGuard
