import TypeGuard.Invocation

/-! Answering requests, running programs and advancing promises. Code of the host may call the
library and be called by it in turn; how deep such calls may be nested is a number. -/

namespace TypeGuard

def Dispatch.answer (dispatch : Dispatch) : (request : Request) → Action request.Answer
  | .note text => Action.change (·.record (.note text))
  | .openRegistry settings => do
    let id ← Action.read fun world => (⟨world.opened⟩ : RegistryId)
    Action.change (·.openRegistry settings)
    return id
  | .setEnabled registry enabled => Action.change (·.setEnabled registry enabled)
  | .isEnabled registry => Action.read fun world => (world.registries registry).enabled
  | .register registry root tag check => Action.change (·.register registry root tag check)
  | .refinements registry root => Action.read fun world =>
    (world.registries registry).refinements root
  | .consult check value => dispatch.check check value
  | .classify registry value => classify dispatch registry value
  | .checkArguments registry signature args => checkArguments dispatch registry signature args
  | .guard registry signature target => Guard.build dispatch registry signature target
  | .call guard args => guard.call dispatch args
  | .launch guard args => guard.launch dispatch args
  | .toFunction guard => guard.toFunction
  | .invoke callable args => invoke dispatch callable args
  | .defer outcome => Action.defer (.finish outcome)
  | .poll promise => dispatch.poll promise
  | .peek promise => Action.read (·.outcome? promise)
  | .startPass producer => dispatch.startPass producer
  | .nextItem producer place => dispatch.nextItem producer place
  | .symbol description => do return .symbol (← Action.freshIdentity) description
  | .recall key => Action.read (·.memory key)
  | .remember key value => Action.change (·.remember key value)

def Program.run {α : Type} (dispatch : Dispatch) : Program α → Action α
  | .done result => pure result
  | .ask request next => do
    let answer ← dispatch.answer request
    (next answer).run dispatch

namespace Program

variable {α β : Type} (dispatch : Dispatch)

@[simp] theorem run_pure (result : α) : (pure result : Program α).run dispatch = pure result := rfl

@[simp] theorem run_request (request : Request) :
    (Program.request request).run dispatch = dispatch.answer request :=
  bind_pure (dispatch.answer request)

@[simp] theorem run_bind (program : Program α) (next : α → Program β) :
    (program >>= next).run dispatch = program.run dispatch >>= fun result => (next result).run dispatch := by
  change (program.bind next).run dispatch = _
  induction program with
  | done result => rw [bind, run, pure_bind]
  | ask request rest ih =>
    rw [bind, run, run, bind_assoc]
    congr 1
    funext answer
    exact ih answer

end Program

inductive Progress
  | finished (outcome : Outcome)
  | paused (rest : Routine)

/-- Advances a routine until it finishes or has to wait. -/
def Routine.advance (dispatch : Dispatch) : Routine → Action Progress
  | .finish outcome => pure (.finished outcome)
  | .pause next => pure (.paused next)
  | .await other next => do
    match ← dispatch.poll other with
    | .pending => return .paused (.await other next)
    | .settled outcome => (next outcome).advance dispatch
  | .ask request next => do
    let answer ← dispatch.answer request
    (next answer).advance dispatch

/-- Advances the routine of a promise and keeps where it stands. -/
def Dispatch.resume (dispatch : Dispatch) (id : PromiseId) (routine : Routine) : Action Poll := do
  Action.change (·.setCell id .running)
  match ← routine.advance dispatch with
  | .finished outcome => do
    Action.change (·.setCell id (.settled outcome))
    return .settled outcome
  | .paused rest => do
    Action.change (·.setCell id (.suspended rest))
    return .pending

/-- One poll. A settled result keeps its outcome, and one that is being advanced is pending. -/
def Dispatch.pollCell (dispatch : Dispatch) (id : PromiseId) : Action Poll := do
  match ← Action.read (·.cell? id) with
  | some (.settled outcome) => return .settled outcome
  | some (.unstarted routine) => dispatch.resume id routine
  | some (.suspended routine) => dispatch.resume id routine
  | some .running => return .pending
  | none => return .pending

/-- The ways into code of a host whose calls are nested at most to the given depth. -/
def Host.dispatch (host : Host) : Nat → Dispatch
  | 0 =>
    { check := fun _ _ => .exhausted
      body := fun _ _ => .exhausted
      routine := host.routine
      startPass := fun _ => .exhausted
      nextItem := fun _ _ => .exhausted
      poll := fun _ => .exhausted }
  | depth + 1 =>
    { check := fun check value => (host.check check value).run (host.dispatch depth)
      body := fun function args => (host.body function args).run (host.dispatch depth)
      routine := host.routine
      startPass := fun producer => (host.startPass producer).run (host.dispatch depth)
      nextItem := fun producer place => (host.nextItem producer place).run (host.dispatch depth)
      poll := fun promise => (host.dispatch depth).pollCell promise }

def Host.run {α : Type} (host : Host) (depth : Nat) (program : Program α) : Action α :=
  program.run (host.dispatch depth)

end TypeGuard
