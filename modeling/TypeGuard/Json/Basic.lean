import TypeGuard.Json.Number

/-! Documents of names, lists and plain values. Members keep the order in which they were written,
and a repeated name stays twice. -/

namespace TypeGuard

inductive Json
  | null
  | bool (value : Bool)
  | number (value : Json.Number)
  | string (text : String)
  | array (items : List Json)
  | object (members : List (String × Json))
  deriving Inhabited

namespace Json

/-- The member of that name written last. -/
def member? (name : String) : Json → Option Json
  | .object members => members.reverse.lookup name
  | _ => none

end Json

end TypeGuard
