import TypeGuard.Arguments

/-! Calling functions and guards. A synchronous function runs at once. An asynchronous one gives a
promise and runs when that is polled; around it, a guard in function form checks only then,
while a guard that is called as a guard checks at once. -/

namespace TypeGuard

variable (dispatch : Dispatch)

def callWith (registry : RegistryId) (signature : Signature)
    (target : List Value → Action Outcome) (args : List Value) :
    Action (Except CallError Value) := do
  match ← checkArguments dispatch registry signature args with
  | some refusal => return .error (.refused refusal)
  | none => return (← target args).mapError .failed

/-- Runs a callable at once. A guard hands on its error in the form of a failure. -/
def runSync : Callable → List Value → Action Outcome
  | .host _ _ function, args => dispatch.body function args
  | .guarded _ signature registry target, args => do
    let result ← callWith dispatch registry signature (runSync target) args
    return result.mapError CallError.toFailure

/-- The routine of a callable: the checks of its guards from the outermost inwards, then its
body. As in `runSync`, each guard makes the failure of its target an error of its own and hands
its error on in the form of a failure. -/
def beginRoutine : Callable → List Value → Routine
  | .host _ _ function, args => dispatch.routine function args
  | .guarded _ signature registry target, args =>
    .ask (.checkArguments registry signature args) fun
      | some refusal => .finish ((Except.error (.refused refusal) : Except CallError Value).mapError CallError.toFailure)
      | none => (beginRoutine target args).mapOutcome fun outcome =>
        (outcome.mapError CallError.failed).mapError CallError.toFailure

variable {dispatch} in
/-- Nothing of the conversions is left in what the routine of a guard comes to. -/
theorem beginRoutine_guarded (identity : Identity) (signature : Signature) (registry : RegistryId) (target : Callable)
    (args : List Value) :
    beginRoutine dispatch (.guarded identity signature registry target) args =
      .ask (.checkArguments registry signature args) fun
        | some refusal => .finish (.error (.refused refusal))
        | none => beginRoutine dispatch target args := by
  rw [beginRoutine]
  congr 1
  funext refused
  cases refused with
  | some refusal => rfl
  | none => simp only [mapError_toFailure, Routine.mapOutcome_id]

def invoke (callable : Callable) (args : List Value) : Action Outcome :=
  match callable.kind with
  | .sync => runSync dispatch callable args
  | .async => do
    let promise ← Action.defer (beginRoutine dispatch callable args)
    return .ok (.promise promise)

variable {dispatch} in
theorem invoke_sync {callable : Callable} (sync : callable.kind = .sync) (args : List Value) :
    invoke dispatch callable args = runSync dispatch callable args := by
  rw [invoke, sync]

variable {dispatch} in
theorem invoke_async {callable : Callable} (async : callable.kind = .async) (args : List Value) (world : World) :
    invoke dispatch callable args world =
      some (.ok (.promise world.nextPromise), world.addCell (.unstarted (beginRoutine dispatch callable args))) := by
  rw [invoke, async]
  rfl

namespace Guard

/-- Builds a guard. A target that is no function is classified for the refusal. -/
def build (registry : RegistryId) (signature : Signature) (target : Value) :
    Action (Except Refusal Guard) := do
  match target.callable? with
  | some target => do
    Action.change (·.record (.guarding target.kind target.name signature))
    return .ok ⟨signature, registry, target⟩
  | none => do
    let actual ← classify dispatch registry target
    return .error (.notCallable actual)

def check (guard : Guard) (args : List Value) : Action (Option Refusal) :=
  checkArguments dispatch guard.registry guard.signature args

def call (guard : Guard) (args : List Value) : Action (Except CallError Value) :=
  callWith dispatch guard.registry guard.signature (invoke dispatch guard.target) args

/-- The checks, and a synchronous target, run before the answer is there. -/
def launch (guard : Guard) (args : List Value) : Action Launched := do
  match ← guard.check dispatch args with
  | some refusal => return .completed (.error (.refused refusal))
  | none =>
    match guard.target.kind with
    | .sync => return .completed ((← runSync dispatch guard.target args).mapError .failed)
    | .async => return .pending (← Action.defer (beginRoutine dispatch guard.target args))

/-- A callable of the kind of the target, unequal to all others. -/
def toFunction (guard : Guard) : Action Callable := do
  return .guarded (← Action.freshIdentity) guard.signature guard.registry guard.target

end Guard

end TypeGuard
