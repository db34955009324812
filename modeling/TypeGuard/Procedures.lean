import TypeGuard.Program

/-! What takes more than one request: asking whether a value has one of several tags, registering
a list of custom types, and waiting for a promise or for the result of a launched call. -/

namespace TypeGuard.Program

/-- Whether the classification of a value is one of the tags. -/
def hasSomeTag (registry : RegistryId) (value : Value) (tags : List Tag) : Program Bool := do
  return (← request (.classify registry value)).satisfies tags

def fits (registry : RegistryId) (value : Value) (spec : Spec) : Program Bool :=
  hasSomeTag registry value spec.tags

/-- Registers custom types under a built-in type, in their order. -/
def registerAll (registry : RegistryId) (root : BuiltinType) : Refinements → Program Unit
  | [] => pure ()
  | (tag, check) :: rest => do
    request (.register registry root tag check)
    registerAll registry root rest

/-- Polls until there is an outcome, at most so many times. -/
def awaitOutcome (promise : PromiseId) : Nat → Program (Option Outcome)
  | 0 => pure none
  | most + 1 => do
    match ← request (.poll promise) with
    | .settled outcome => pure (some outcome)
    | .pending => awaitOutcome promise most

/-- Runs a callable to its outcome: at once, or by polling what it gives at most so many times. -/
def runToOutcome (callable : Callable) (args : List Value) (most : Nat) :
    Program (Option Outcome) := do
  match callable.kind, ← request (.invoke callable args) with
  | .async, .ok (.promise promise) => awaitOutcome promise most
  | _, outcome => pure (some outcome)

/-- One look at a launched call, which advances it unless its result is there already. A promise that
is rejected makes the call fail. -/
def pollLaunched : Launched → Program (Option (Except CallError Value))
  | .completed result => pure (some result)
  | .pending promise => do
    match ← request (.poll promise) with
    | .settled outcome => pure (some (outcome.mapError .failed))
    | .pending => pure none

/-- Looks until there is a result, at most so many times. -/
def awaitLaunched (launched : Launched) : Nat → Program (Option (Except CallError Value))
  | 0 => pure none
  | most + 1 => do
    match ← pollLaunched launched with
    | some result => pure (some result)
    | none => awaitLaunched launched most

end TypeGuard.Program
