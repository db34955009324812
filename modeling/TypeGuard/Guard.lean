import TypeGuard.Callable

/-! A guard joins a callable with the way its arguments are checked and the registry that they are
checked against. It keeps no answer of any check. -/

namespace TypeGuard

structure Guard where
  signature : Signature
  registry : RegistryId
  target : Callable
  deriving DecidableEq

namespace Guard

def name (guard : Guard) : String :=
  guard.target.name

def isAsync (guard : Guard) : Bool :=
  guard.target.kind == .async

/-- The name with the parameters that the guard accepts. -/
def text (guard : Guard) : String :=
  guard.name ++ "(" ++ guard.signature.text ++ ")"

def debug (guard : Guard) : String :=
  "GuardedFunction \x7b name: " ++ Text.quote guard.name ++ ", mode: " ++ guard.signature.debug ++
    ", async: " ++ (if guard.isAsync then "true" else "false") ++ " \x7d"

end Guard

end TypeGuard
