import TypeGuard.Decimal.Basic
import TypeGuard.Value

/-! How things go wrong. A refusal is a guard's own answer to a target or to arguments that do not
fit. A failure is what a function reports: a message, perhaps with messages added around it, or a
refusal that came up inside. A guarded call ends in either, and tells the two apart. -/

namespace TypeGuard

inductive Refusal
  | notCallable (actual : Tag)
  | outOfBounds (position : Nat)
  | mismatch (position : Nat) (expected : Spec) (actual : Tag)
  deriving DecidableEq

namespace Refusal

private def positionText (position : Nat) : String :=
  String.ofList (Decimal.digits position)

def text : Refusal → String
  | .notCallable actual =>
    "Argument fn is required and must be a function, got " ++ actual.name ++ "."
  | .outOfBounds position =>
    "Argument at position " ++ positionText position ++
      " is out of bounds and cannot be type-checked."
  | .mismatch position expected _ =>
    "Argument at position " ++ positionText position ++ " is not of type " ++ expected.text ++ "."

def debug : Refusal → String
  | .notCallable actual => "NotCallable \x7b actual: " ++ actual.debug ++ " \x7d"
  | .outOfBounds position =>
    "ArgumentOutOfBounds \x7b position: " ++ positionText position ++ " \x7d"
  | .mismatch position expected actual =>
    "ArgumentTypeMismatch \x7b position: " ++ positionText position ++ ", expected: " ++
      expected.debug ++ ", actual: " ++ actual.debug ++ " \x7d"

/-- The argument that was refused, if it was an argument. -/
def position? : Refusal → Option Nat
  | .notCallable _ => none
  | .outOfBounds position => some position
  | .mismatch position _ _ => some position

end Refusal

inductive Failure
  | message (text : String)
  | context (text : String) (cause : Failure)
  | refused (refusal : Refusal)
  deriving DecidableEq

namespace Failure

def chain : Failure → List String
  | .message text => [text]
  | .context text cause => text :: cause.chain
  | .refused refusal => [refusal.text]

def text : Failure → String
  | .message text => text
  | .context text _ => text
  | .refused refusal => refusal.text

def causes (failure : Failure) : List String :=
  failure.chain.tail

/-- The refusal at the bottom of a failure, if there is one. -/
def refusal? : Failure → Option Refusal
  | .message _ => none
  | .context _ cause => cause.refusal?
  | .refused refusal => some refusal

/-- Adds each further message around the failure so far. -/
def ofMessages (first : String) (added : List String) : Failure :=
  added.foldl (fun failure text => .context text failure) (.message first)

end Failure

abbrev Outcome : Type := Except Failure Value

inductive CallError
  | refused (refusal : Refusal)
  | failed (failure : Failure)
  deriving DecidableEq

namespace CallError

/-- A failed call shows the message of its failure and adds none. -/
def text : CallError → String
  | .refused refusal => refusal.text
  | .failed failure => failure.text

def position? : CallError → Option Nat
  | .refused refusal => refusal.position?
  | .failed _ => none

def isRefusal : CallError → Bool
  | .refused _ => true
  | .failed _ => false

/-- The form in which a guarded function reports its error to whoever called it as a function. -/
def toFailure : CallError → Failure
  | .refused refusal => .refused refusal
  | .failed failure => failure

end CallError

/-- A failure on its way through a guard is wrapped and unwrapped again. -/
theorem mapError_toFailure (outcome : Outcome) :
    (outcome.mapError CallError.failed).mapError CallError.toFailure = outcome := by
  cases outcome <;> rfl

end TypeGuard
