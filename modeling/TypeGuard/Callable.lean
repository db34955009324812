import TypeGuard.Handle
import TypeGuard.Signature

/-! Functions as values. A callable is a function of the host, or a guard around another callable;
the kind and the name of a guard are those of what it guards. -/

namespace TypeGuard

inductive CallKind
  | sync
  | async
  deriving DecidableEq, Inhabited

def CallKind.text : CallKind → String
  | .sync => "sync"
  | .async => "async"

inductive Callable
  | host (kind : CallKind) (name : String) (function : FunctionId)
  | guarded (identity : Identity) (signature : Signature) (registry : RegistryId)
      (target : Callable)
  deriving DecidableEq, Inhabited

namespace Callable

def kind : Callable → CallKind
  | .host kind _ _ => kind
  | .guarded _ _ _ target => target.kind

def name : Callable → String
  | .host _ name _ => name
  | .guarded _ _ _ target => target.name

/-- Whether two callables are the very same one. -/
def same (a b : Callable) : Bool :=
  a.kind == b.kind &&
    match a, b with
    | .host _ _ f, .host _ _ g => f == g
    | .guarded i _ _ _, .guarded j _ _ _ => i == j
    | _, _ => false

def debug (callable : Callable) : String :=
  match callable.kind with
  | .sync => "[Function: " ++ callable.name ++ "]"
  | .async => "[AsyncFunction: " ++ callable.name ++ "]"

end Callable

end TypeGuard
