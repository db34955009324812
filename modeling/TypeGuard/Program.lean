import TypeGuard.Failure
import TypeGuard.Guard
import TypeGuard.Registry

/-! Code of the host as data. A program asks the library one request after another and goes on
with each answer; it is all that a check, a function or a sequence producer can do. A routine is
the body of an asynchronous function: it may also pause, and wait for other promises. -/

namespace TypeGuard

/-- What a guarded call of unknown kind gives at once: a result, or a promise of its own. -/
inductive Launched
  | completed (result : Except CallError Value)
  | pending (promise : PromiseId)

inductive Poll
  | pending
  | settled (outcome : Outcome)

/-- Everything that can be asked of the library. -/
inductive Request
  | note (text : String)
  | openRegistry (settings : Registry.Settings)
  | setEnabled (registry : RegistryId) (enabled : Bool)
  | isEnabled (registry : RegistryId)
  | register (registry : RegistryId) (root : BuiltinType) (tag : CustomType) (check : CheckId)
  /-- A copy of what is placed under a built-in type. -/
  | refinements (registry : RegistryId) (root : BuiltinType)
  /-- The answer of one check, whatever it is. -/
  | consult (check : CheckId) (value : Value)
  | classify (registry : RegistryId) (value : Value)
  | checkArguments (registry : RegistryId) (signature : Signature) (args : List Value)
  | guard (registry : RegistryId) (signature : Signature) (target : Value)
  | call (guard : Guard) (args : List Value)
  | launch (guard : Guard) (args : List Value)
  | toFunction (guard : Guard)
  | invoke (callable : Callable) (args : List Value)
  /-- A promise whose outcome is known from the start. -/
  | defer (outcome : Outcome)
  | poll (promise : PromiseId)
  /-- Looks at a promise without advancing it. -/
  | peek (promise : PromiseId)
  | startPass (producer : GeneratorId)
  /-- The item at a place of a pass, or nothing at its end. -/
  | nextItem (producer : GeneratorId) (place : Nat)
  | symbol (description : String)
  | recall (key : Nat)
  | remember (key : Nat) (value : Value)

def Request.Answer : Request → Type
  | .note _ => Unit
  | .openRegistry _ => RegistryId
  | .setEnabled _ _ => Unit
  | .isEnabled _ => Bool
  | .register _ _ _ _ => Unit
  | .refinements _ _ => Refinements
  | .consult _ _ => Option CustomType
  | .classify _ _ => Tag
  | .checkArguments _ _ _ => Option Refusal
  | .guard _ _ _ => Except Refusal Guard
  | .call _ _ => Except CallError Value
  | .launch _ _ => Launched
  | .toFunction _ => Callable
  | .invoke _ _ => Outcome
  | .defer _ => PromiseId
  | .poll _ => Poll
  | .peek _ => Option Outcome
  | .startPass _ => Unit
  | .nextItem _ _ => Option Value
  | .symbol _ => Value
  | .recall _ => Value
  | .remember _ _ => Unit

inductive Program (α : Type) : Type
  | done (result : α)
  | ask (request : Request) (next : request.Answer → Program α)

namespace Program

variable {α β : Type}

def bind (program : Program α) (next : α → Program β) : Program β :=
  match program with
  | .done result => next result
  | .ask request rest => .ask request fun answer => (rest answer).bind next

instance : Monad Program where
  pure := .done
  bind := bind

def request (request : Request) : Program request.Answer :=
  .ask request .done

end Program

inductive Routine
  | finish (outcome : Outcome)
  /-- Stays pending once. -/
  | pause (next : Routine)
  /-- Stays pending as long as the other promise does. -/
  | await (other : PromiseId) (next : Outcome → Routine)
  | ask (request : Request) (next : request.Answer → Routine)

def Routine.afterProgram {α : Type} (program : Program α) (next : α → Routine) : Routine :=
  match program with
  | .done result => next result
  | .ask request rest => .ask request fun answer => afterProgram (rest answer) next

/-- Comes to something else than before, at the same point and by the same requests. -/
def Routine.mapOutcome (convert : Outcome → Outcome) : Routine → Routine
  | .finish outcome => .finish (convert outcome)
  | .pause next => .pause (next.mapOutcome convert)
  | .await other next => .await other fun outcome => (next outcome).mapOutcome convert
  | .ask request next => .ask request fun answer => (next answer).mapOutcome convert

theorem Routine.mapOutcome_id (routine : Routine) : routine.mapOutcome (fun outcome => outcome) = routine := by
  induction routine with
  | finish outcome => rfl
  | pause next ih => rw [mapOutcome, ih]
  | await other next ih =>
    rw [mapOutcome]
    congr 1
    funext outcome
    exact ih outcome
  | ask request next ih =>
    rw [mapOutcome]
    congr 1
    funext answer
    exact ih answer

/-- Stays pending the given number of times first. -/
def Routine.pauses (count : Nat) (next : Routine) : Routine :=
  match count with
  | 0 => next
  | count + 1 => pauses count (.pause next)

/-- The code behind the handles. -/
structure Host where
  check : CheckId → Value → Program (Option CustomType)
  body : FunctionId → List Value → Program Outcome
  routine : FunctionId → List Value → Routine
  startPass : GeneratorId → Program Unit
  nextItem : GeneratorId → Nat → Program (Option Value)

end TypeGuard
