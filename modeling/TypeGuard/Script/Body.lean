import TypeGuard.Script.Condition
import TypeGuard.Value.Text

/-! Functions and sequences as data. A definition has a body and, if it is asynchronous, a number
of polls for which it stays pending before the body runs. -/

namespace TypeGuard.Script

inductive Body
  | count
  | echo
  | first
  | concat
  | sum
  /-- How many times this body has run, kept in memory under a key. -/
  | tick (key : Nat)
  | const (value : Value)
  | get (key : String)
  | fail (failure : Failure)
  /-- The name of the classification of the first argument. -/
  | typeOf (registry : RegistryId)
  | call (callable : Callable)
  | invokeFirst
  | register (registration : Registration)
  /-- Waits for the first argument, if it is a promise and waiting is possible. -/
  | settleFirst

def firstOf (args : List Value) : Value :=
  args.headD .undefined

/-- One more than a number, or one if there is none yet. -/
def nextCount (value : Value) : Value :=
  .number (value.number?.getD 0 + 1)

def Body.outcome (body : Body) (args : List Value) : Program Outcome :=
  match body with
  | .count => pure (.ok (.number (Float.ofNat args.length)))
  | .echo => pure (.ok (.array args))
  | .first | .settleFirst => pure (.ok (firstOf args))
  | .concat => pure (.ok (.string (String.join (args.map Value.plainText))))
  | .sum => pure (.ok (.number ((args.filterMap Value.number?).foldl (· + ·) 0)))
  | .tick key => do
    let count := nextCount (← Program.request (.recall key))
    Program.request (.remember key count)
    return .ok count
  | .const value => pure (.ok value)
  | .get key => pure (.ok (((firstOf args).get? key).getD .undefined))
  | .fail failure => pure (.error failure)
  | .typeOf registry => do
    let tag ← Program.request (.classify registry (firstOf args))
    return .ok (.string tag.name)
  | .call callable => Program.request (.invoke callable args)
  | .invokeFirst =>
    match args with
    | .function callable :: rest => Program.request (.invoke callable rest)
    | _ => pure (.error (.message "not a function"))
  | .register registration => do
    registration.perform
    return .ok .undefined

/-- What a body that waits for a promise makes of its outcome. -/
def settledOutcome : Outcome → Outcome
  | .ok value => .ok value
  | .error failure => .error (.message ("settled: " ++ failure.text))

def Body.routine (body : Body) (args : List Value) : Routine :=
  match body, args with
  | .settleFirst, .promise awaited :: _ =>
    .await awaited fun outcome => .finish (settledOutcome outcome)
  | body, args => .afterProgram (body.outcome args) .finish

structure Definition where
  name : String
  body : Body
  /-- How many polls pass before an asynchronous body runs. -/
  yields : Nat := 0
  /-- Whether the journal shows the start as well as the run of an asynchronous body. -/
  announced : Bool := true

namespace Definition

/-- A line of the journal on a call: what happens, the name, and the number of arguments. -/
def line (definition : Definition) (what : String) (args : List Value) : Request :=
  .note (what ++ " " ++ definition.name ++ "/" ++ String.ofList (Decimal.digits args.length))

def run (definition : Definition) (args : List Value) : Program Outcome := do
  let _ ← Program.request (definition.line "call" args)
  definition.body.outcome args

def routine (definition : Definition) (args : List Value) : Routine :=
  let running := Routine.pauses definition.yields
    (.ask (definition.line "run" args) fun _ => definition.body.routine args)
  if definition.announced then .ask (definition.line "start" args) fun _ => running else running

end Definition

inductive Source
  | listed (values : List Value)
  | naturals

namespace Source

def startPass : Source → Program Unit
  | _ => Program.request (.note "produce")

def nextItem (source : Source) (place : Nat) : Program (Option Value) :=
  match source with
  | .listed values => pure values[place]?
  | .naturals => do
    Program.request (.note ("item " ++ String.ofList (Decimal.digits place)))
    return some (.number (Float.ofNat place))

end Source

end TypeGuard.Script
