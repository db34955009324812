import TypeGuard.Classification

/-! Checking a list of arguments, from left to right and up to the first that is refused. -/

namespace TypeGuard

variable (dispatch : Dispatch) (registry : RegistryId)

def checkArgument (spec : Spec) (position : Nat) (value : Value) : Action (Option Refusal) := do
  let actual ← classify dispatch registry value
  if spec.allows actual then return none
  else return some (.mismatch position spec actual)

/-- Checks arguments by the specifications at their positions, as far as both go. -/
def checkEach (position : Nat) : List Spec → List Value → Action (Option Refusal)
  | spec :: specs, value :: values => do
    match ← checkArgument dispatch registry spec position value with
    | some refusal => return some refusal
    | none => checkEach (position + 1) specs values
  | _, _ => return none

/-- More arguments than specifications are refused before any check. -/
def checkPositions (specs : List Spec) (args : List Value) : Action (Option Refusal) :=
  if specs.length < args.length then return some (.outOfBounds specs.length)
  else checkEach dispatch registry 0 specs args

def checkRest (spec : Spec) (position : Nat) : List Value → Action (Option Refusal)
  | [] => return none
  | value :: values => do
    match ← checkArgument dispatch registry spec position value with
    | some refusal => return some refusal
    | none => checkRest spec (position + 1) values

def checkUniform (spec : Spec) (args : List Value) : Action (Option Refusal) :=
  checkRest dispatch registry spec 0 args

def checkArguments (signature : Signature) (args : List Value) : Action (Option Refusal) :=
  match signature with
  | .positional specs => checkPositions dispatch registry specs args
  | .uniform spec => checkUniform dispatch registry spec args

end TypeGuard
