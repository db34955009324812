import TypeGuard.Spec

/-! The parameters that a guard accepts: a specification for each position, or one for arguments
of any number. -/

namespace TypeGuard

/-- How arguments are checked: each by the specification at its position, or all by the same
one. -/
inductive Signature
  | positional (specs : List Spec)
  | uniform (spec : Spec)
  deriving DecidableEq, Inhabited

namespace Signature

def isPositional : Signature → Bool
  | .positional _ => true
  | .uniform _ => false

def isUniform (signature : Signature) : Bool :=
  !signature.isPositional

/-- The parameter list that a guard shows. -/
def text : Signature → String
  | .positional specs => ", ".intercalate (specs.map Spec.text)
  | .uniform spec => "..." ++ spec.text

def debug : Signature → String
  | .positional specs => "Strong([" ++ ", ".intercalate (specs.map Spec.debug) ++ "])"
  | .uniform spec => "Weak(" ++ spec.debug ++ ")"

/-- Whether two lists of specifications are the same at each position. -/
def sameSpecs : List Spec → List Spec → Bool
  | [], [] => true
  | a :: as, b :: bs => a.same b && sameSpecs as bs
  | _, _ => false

def same : Signature → Signature → Bool
  | .positional a, .positional b => sameSpecs a b
  | .uniform a, .uniform b => a.same b
  | _, _ => false

end Signature

end TypeGuard
