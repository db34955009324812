import TypeGuard.Proofs.Changes

/-! Runs that are looked at on their way. Before each of its requests and at its end, code of the host is
stopped in a world that does not pass, however deep its call is nested. What outlasts every single change is
found wherever a run is looked at. -/

namespace TypeGuard.Proofs

variable {α : Type} {passes : World → Bool} {holds : World → Prop} {before : World}

def inspect (passes : World → Bool) : Action Unit := fun world =>
  if passes world then some ((), world) else none

def runInspected (passes : World → Bool) (dispatch : Dispatch) : Program α → Action α
  | .done result => do
    inspect passes
    return result
  | .ask request next => do
    inspect passes
    let answer ← dispatch.answer request
    runInspected passes dispatch (next answer)

/-- What a routine asks for until it finishes or has to wait. -/
def progress : Routine → Program Progress
  | .finish outcome => .done (.finished outcome)
  | .pause next => .done (.paused next)
  | .await other next => .ask (.poll other) fun
    | .pending => .done (.paused (.await other next))
    | .settled outcome => progress (next outcome)
  | .ask request next => .ask request fun answer => progress (next answer)

def resumeInspected (passes : World → Bool) (dispatch : Dispatch) (id : PromiseId) (routine : Routine) :
    Action Poll := do
  Action.change (·.setCell id .running)
  match ← runInspected passes dispatch (progress routine) with
  | .finished outcome => do
    Action.change (·.setCell id (.settled outcome))
    return .settled outcome
  | .paused rest => do
    Action.change (·.setCell id (.suspended rest))
    return .pending

def pollInspected (passes : World → Bool) (dispatch : Dispatch) (id : PromiseId) : Action Poll := do
  match ← Action.read (·.cell? id) with
  | some (.settled outcome) => return .settled outcome
  | some (.unstarted routine) => resumeInspected passes dispatch id routine
  | some (.suspended routine) => resumeInspected passes dispatch id routine
  | some .running => return .pending
  | none => return .pending

def inspected (host : Host) (passes : World → Bool) : Nat → Dispatch
  | 0 => host.dispatch 0
  | depth + 1 =>
    { check := fun check value => runInspected passes (inspected host passes depth) (host.check check value)
      body := fun function args => runInspected passes (inspected host passes depth) (host.body function args)
      routine := host.routine
      startPass := fun producer => runInspected passes (inspected host passes depth) (host.startPass producer)
      nextItem := fun producer place => runInspected passes (inspected host passes depth) (host.nextItem producer place)
      poll := pollInspected passes (inspected host passes depth) }

theorem run_progress (dispatch : Dispatch) (routine : Routine) :
    (progress routine).run dispatch = routine.advance dispatch := by
  induction routine with
  | finish outcome => rfl
  | pause next => rfl
  | await other next ih =>
    rw [progress, Program.run, Routine.advance]
    congr 1
    funext poll
    cases poll with
    | pending => rfl
    | settled outcome => exact ih outcome
  | ask request next ih =>
    rw [progress, Program.run, Routine.advance]
    congr 1
    funext answer
    exact ih answer

section Following
variable {first second : Dispatch} (kept : ∀ {before after}, Change (fun _ => false) before after → holds before → holds after)
  (sound : ∀ world, holds world → passes world = true)
include sound

private theorem inspect_follows {action action' : Action α} (follows : Follows (Same holds) action action') :
    Follows (Same holds) action (inspect passes >>= fun _ => action') := by
  intro before before' same value after ran
  obtain ⟨after', ran', kept⟩ := follows before before' same value after ran
  obtain ⟨rfl, held⟩ := same
  refine ⟨after', ?_, kept⟩
  rw [bind_run, inspect, if_pos (sound _ held)]
  exact ran'

include kept

private theorem runInspected_follows (follows : DispatchFollows (Same holds) first second) (program : Program α) :
    Follows (Same holds) (program.run first) (runInspected passes second program) := by
  induction program with
  | done result => exact inspect_follows sound (.pure result)
  | ask request next ih =>
    apply inspect_follows sound
    exact Follows.bind (answer_follows (same_alike kept) follows request fun registry _ => Same.enabled registry) ih

private theorem resumeInspected_follows (follows : DispatchFollows (Same holds) first second) (promise : PromiseId)
    (routine : Routine) :
    Follows (Same holds) (first.resume promise routine) (resumeInspected passes second promise routine) := by
  have like : Alike _ (Same holds) := same_alike kept
  apply Follows.bind (Follows.change fun _ _ same => like.setCell promise rfl .running same)
  intro _
  rw [← run_progress]
  apply Follows.bind (runInspected_follows kept sound follows (progress routine))
  intro progress
  cases progress with
  | finished outcome =>
    exact Follows.bind (Follows.change fun _ _ same => like.setCell promise rfl _ same) fun _ => .pure _
  | paused rest =>
    exact Follows.bind (Follows.change fun _ _ same => like.setCell promise rfl _ same) fun _ => .pure _

private theorem pollInspected_follows (follows : DispatchFollows (Same holds) first second) (promise : PromiseId) :
    Follows (Same holds) (first.pollCell promise) (pollInspected passes second promise) := by
  apply Follows.bind
  · exact Follows.read fun _ _ same => (same_alike kept).cell? promise rfl same
  · intro cell
    cases cell with
    | none => exact .pure _
    | some cell =>
      cases cell with
      | unstarted routine => exact resumeInspected_follows kept sound follows promise routine
      | suspended routine => exact resumeInspected_follows kept sound follows promise routine
      | running => exact .pure _
      | settled outcome => exact .pure _

private theorem inspected_follows (host : Host) (depth : Nat) :
    DispatchFollows (Same holds) (host.dispatch depth) (inspected host passes depth) := by
  induction depth with
  | zero => exact sparing_follows host (same_alike kept) Same.enabled 0
  | succ depth ih =>
    exact
      { check := fun check value => runInspected_follows kept sound ih (host.check check value)
        body := fun function args => runInspected_follows kept sound ih (host.body function args)
        routine := rfl
        startPass := fun producer => runInspected_follows kept sound ih (host.startPass producer)
        nextItem := fun producer place => runInspected_follows kept sound ih (host.nextItem producer place)
        poll := pollInspected_follows kept sound ih }

/-- A run is never stopped on account of something that outlasts every single change. -/
theorem inspected_run (host : Host) (depth : Nat) (program : Program α) (held : holds before) {result}
    (ran : host.run depth program before = some result) :
    runInspected passes (inspected host passes depth) program before = some result := by
  obtain ⟨value, after⟩ := result
  exact ((runInspected_follows kept sound (inspected_follows kept sound host depth) program).same held ran).1

end Following

end TypeGuard.Proofs
