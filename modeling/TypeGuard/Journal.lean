import TypeGuard.Callable

/-! The journal of a run: what registries and guards report, and what code of the host notes, in
the order in which it happens. -/

namespace TypeGuard

inductive Event
  | note (text : String)
  /-- A custom type is new under a built-in type. -/
  | registered (registry : RegistryId) (root : BuiltinType) (tag : CustomType) (check : CheckId)
  /-- A custom type that stands there already has a new check. -/
  | replaced (registry : RegistryId) (root : BuiltinType) (tag : CustomType) (check : CheckId)
  /-- Custom types are switched on or off, and were not before. -/
  | switched (registry : RegistryId) (enabled : Bool)
  | guarding (kind : CallKind) (name : String) (signature : Signature)
  deriving DecidableEq, Inhabited

def Event.text : Event → String
  | .note text => text
  | .registered _ root tag _ =>
    "DEBUG: registered custom type '" ++ tag.name ++ "' under '" ++ root.name ++ "'"
  | .replaced _ root tag _ =>
    "DEBUG: replaced check for custom type '" ++ tag.name ++ "' under '" ++ root.name ++ "'"
  | .switched _ true => "DEBUG: custom types enabled"
  | .switched _ false => "DEBUG: custom types disabled"
  | .guarding kind name signature =>
    "TRACE: guarding " ++ kind.text ++ " function '" ++ name ++ "' with " ++ signature.debug

end TypeGuard
