import TypeGuard.Proofs.GuardStack
import TypeGuard.Proofs.PromiseCells
import TypeGuard.Script.Library

/-! Guards around guards around an asynchronous function. Called as a function, the stack gives a promise
and does nothing else; all checks wait for the first poll, and what they let through is the promise of
the bare function. -/

namespace TypeGuard.Proofs

variable {dispatch : Dispatch} {args : List Value} {promise : PromiseId} {before : World}

/-- What the promise of a stack over an asynchronous function holds until it is polled. -/
def deferred (host : Host) (levels : List Level) (name : String) (function : FunctionId) (args : List Value) : Routine :=
  beginRoutine (host.dispatch 0) (stack levels (.host .async name function)) args

/-- How the call of a guard comes out whose target is a stack over an asynchronous function: its own
check is made at once, and the rest is left to the promise. -/
inductive DeferredCall (dispatch : Dispatch) (args : List Value) (first : Level) (rest : Routine) (before : World) :
    Option (Except CallError Value × World) → Prop where
  | refused {refusal after} (refused : first.check dispatch args before = some (some refusal, after)) :
      DeferredCall dispatch args first rest before (some (.error (.refused refusal), after))
  | promised {middle} (admitted : first.Admits dispatch args before middle) :
      DeferredCall dispatch args first rest before
        (some (.ok (.promise middle.nextPromise), middle.addCell (.unstarted rest)))
  | nested (nested : first.check dispatch args before = none) : DeferredCall dispatch args first rest before none

/-- How the first poll of a stack comes out. The checks find the world as it is at the poll. -/
inductive FirstPolled (dispatch : Dispatch) (levels : List Level) (target : Routine) (args : List Value)
    (promise : PromiseId) (before : World) : Option (Poll × World) → Prop where
  | refused {refusal after}
      (refused : LevelsChecked dispatch args (before.setCell promise .running) levels (some (some refusal, after))) :
      FirstPolled dispatch levels target args promise before (some (.settled (.error (.refused refusal)),
        after.setCell promise (.settled (.error (.refused refusal)))))
  /-- Behind the last check the promise is that of the bare target, polled for the first time. -/
  | started {middle result}
      (admitted : InTurn (Level.Admits dispatch args) levels (before.setCell promise .running) middle)
      (polled : dispatch.pollCell promise (middle.setCell promise (.unstarted target)) = result) :
      FirstPolled dispatch levels target args promise before result
  | nested (nested : LevelsChecked dispatch args (before.setCell promise .running) levels none) :
      FirstPolled dispatch levels target args promise before none

private theorem invoke_async_stack (host : Host) (depth : Nat) (levels : List Level) (name : String)
    (function : FunctionId) (world : World) :
    invoke (host.dispatch depth) (stack levels (.host .async name function)) args world =
      some (.ok (.promise world.nextPromise), world.addCell (.unstarted (deferred host levels name function args))) := by
  have async : (stack levels (.host .async name function)).kind = .async := kind_stack levels _
  have same : (host.dispatch depth).routine = (host.dispatch 0).routine := dispatch_routine host depth
  rw [invoke_async async, beginRoutine_congr same]
  rfl

def refusing (refusal : Refusal) : Progress :=
  .finished (.error (.refused refusal))

theorem advance_guarded (origin : Dispatch) (level : Level) (target : Callable) :
    (beginRoutine origin (stack [level] target) args).advance dispatch =
      level.check dispatch args >>= beneath refusing ((beginRoutine origin target args).advance dispatch) := by
  change (beginRoutine origin (.guarded level.identity level.signature level.registry target) args).advance dispatch = _
  rw [beginRoutine_guarded, Routine.advance]
  congr 1
  funext refused
  cases refused <;> rfl

private theorem advance_deferred (host : Host) (levels : List Level) (name : String) (function : FunctionId) :
    (deferred host levels name function args).advance dispatch =
      levels.findSomeM? (Level.check dispatch args) >>= beneath refusing
        ((host.routine function args).advance dispatch) := by
  induction levels with
  | nil => rfl
  | cons level rest ih =>
    have outermost : (deferred host (level :: rest) name function args).advance dispatch =
        level.check dispatch args >>= beneath refusing ((deferred host rest name function args).advance dispatch) :=
      advance_guarded (host.dispatch 0) level (stack rest (.host .async name function))
    rw [outermost, ih, beneath_cons]

private def keep (promise : PromiseId) : Progress → Action Poll
  | .finished outcome => do
    Action.change (·.setCell promise (.settled outcome))
    return .settled outcome
  | .paused rest => do
    Action.change (·.setCell promise (.suspended rest))
    return .pending

private theorem pollCell_unstarted {routine : Routine} (held : before.cell? promise = some (.unstarted routine)) :
    dispatch.pollCell promise before =
      (routine.advance dispatch >>= keep promise) (before.setCell promise .running) := by
  rw [Dispatch.pollCell, bind_run, read_run, Option.bind_some, held]
  change dispatch.resume promise routine before = _
  rw [Dispatch.resume, bind_run, change_run, Option.bind_some, bind_run, bind_run]
  cases routine.advance dispatch (before.setCell promise .running) with
  | none => rfl
  | some result =>
    obtain ⟨progress, after⟩ := result
    cases progress <;> rfl

private theorem admitted_running {host : Host} {depth : Nat} {levels : List Level} {after : World}
    (admitted : InTurn (Level.Admits (host.dispatch depth) args) levels before after)
    (running : before.cell? promise = some .running) : after.cell? promise = some .running := by
  induction admitted with
  | nil => exact running
  | cons first _ ih => exact ih (checkArguments_running host depth _ _ args first running)

private theorem advance_started {target : Routine} (running : before.cell? promise = some .running) :
    (target.advance dispatch >>= keep promise) before =
      dispatch.pollCell promise (before.setCell promise (.unstarted target)) := by
  have inside : promise.index < before.cells.size := (Array.getElem?_eq_some_iff.mp running).1
  rw [pollCell_unstarted (World.cell?_setCell_self inside _), World.setCell_setCell, World.setCell_held running]

private theorem firstPolled_iff {host : Host} {depth : Nat} {levels : List Level} {name : String}
    {function : FunctionId} {result}
    (held : before.cell? promise = some (.unstarted (deferred host levels name function args))) :
    (host.dispatch depth).pollCell promise before = result ↔
      FirstPolled (host.dispatch depth) levels (host.routine function args) args promise before result := by
  have inside : promise.index < before.cells.size := (Array.getElem?_eq_some_iff.mp held).1
  have running : (before.setCell promise .running).cell? promise = some .running := World.cell?_setCell_self inside _
  rw [pollCell_unstarted held, advance_deferred, bind_run]
  constructor
  · rintro rfl
    generalize came : (levels.findSomeM? _ >>= beneath refusing _) _ = progress
    cases beneath_eq_iff.mp came with
    | refused refused => exact .refused (findSomeM?_eq_iff.mp refused)
    | nested nested => exact .nested (findSomeM?_eq_iff.mp nested)
    | called passed called =>
      have admitted := findSomeM?_passed_iff.mp passed
      refine .started admitted ?_
      rw [← advance_started (admitted_running admitted running), bind_run, called]
  · intro out
    cases out with
    | refused refused =>
      rw [beneath_eq_iff.mpr (.refused (findSomeM?_eq_iff.mpr refused))]
      rfl
    | nested nested =>
      rw [beneath_eq_iff.mpr (.nested (findSomeM?_eq_iff.mpr nested))]
      rfl
    | started admitted polled =>
      rw [beneath_eq_iff.mpr (.called (findSomeM?_passed_iff.mpr admitted) rfl), ← bind_run,
        advance_started (admitted_running admitted running)]
      exact polled

private theorem deferredCall_iff {host : Host} {depth : Nat} {first : Level} {rest : List Level} {name : String}
    {function : FunctionId} {result} :
    (first.guard (stack rest (.host .async name function))).call (host.dispatch depth) args before = result ↔
      DeferredCall (host.dispatch depth) args first (deferred host rest name function args) before result := by
  rw [Guard.call, callWith_eq_iff]
  change GuardedCall (invoke _ (stack rest (.host .async name function)) args) (first.check _ args before) result ↔ _
  constructor
  · intro out
    cases out with
    | refused refused => exact .refused refused
    | nestedCheck nested => exact .nested nested
    | returned accepted called =>
      rw [invoke_async_stack] at called
      cases called
      exact .promised accepted
    | failed accepted called | nestedCall accepted called =>
      rw [invoke_async_stack] at called
      cases called
  · intro out
    cases out with
    | refused refused => exact .refused refused
    | promised admitted => exact .returned admitted (invoke_async_stack host depth rest name function _)
    | nested nested => exact .nestedCheck nested

/-- A stack of guards over an asynchronous function, called as a function, gives a promise and leaves all
else as it was. What the promise would do makes no difference to any run that does not poll it. The first
poll makes the checks, from the outermost guard inwards and in the world as it then is; the first
refusal is what the promise comes to, and behind all checks it is the promise of the bare function. Only
the guard that is called as a guard makes its check at once. A stack is what comes of making guards
functions, one around the other. -/
theorem async_stack_call (host : Host) (first : Level) (rest : List Level) (name : String) (function : FunctionId)
    (args : List Value) :
    (∀ levels callable, Stacked (.host .async name function) levels callable ↔
      callable = stack levels (.host .async name function)) ∧
    (∀ depth before, ∃ promised,
      promised = before.addCell (.unstarted (deferred host (first :: rest) name function args)) ∧
      promised.cell? before.nextPromise = some (.unstarted (deferred host (first :: rest) name function args)) ∧
      invoke (host.dispatch depth) (stack (first :: rest) (.host .async name function)) args before =
        some (.ok (.promise before.nextPromise), promised)) ∧
    (∀ depth before result,
      (first.guard (stack rest (.host .async name function))).call (host.dispatch depth) args before = result ↔
        DeferredCall (host.dispatch depth) args first (deferred host rest name function args) before result) ∧
    (∀ (levels : List Level) (promise : PromiseId) (before : World) (depth : Nat),
      before.cell? promise = some (.unstarted (deferred host levels name function args)) →
        (∀ (α : Type) (program : Program α) (value : α) (after : World) (other : Routine),
          program.run (sparing host (fun id => id = promise) depth) before = some (value, after) →
            after.cell? promise = some (.unstarted (deferred host levels name function args)) ∧
            program.run (host.dispatch depth) before = some (value, after) ∧
            program.run (host.dispatch depth) (before.setCell promise (.unstarted other)) =
              some (value, after.setCell promise (.unstarted other))) ∧
        ∀ result, (host.dispatch depth).pollCell promise before = result ↔
          FirstPolled (host.dispatch depth) levels (host.routine function args) args promise before result) ∧
    ∀ refusal : Refusal,
      (Failure.refused refusal).refusal? = some refusal ∧ (Failure.refused refusal).chain = [refusal.text] := by
  refine ⟨fun levels callable => stacked_iff, ?_, ?_, ?_, fun refusal => ⟨rfl, rfl⟩⟩
  · intro depth before
    exact ⟨_, rfl, World.cell?_nextPromise before _, invoke_async_stack host depth (first :: rest) name function before⟩
  · exact fun depth before result => deferredCall_iff
  · intro levels promise before depth held
    refine ⟨?_, fun result => firstPolled_iff held⟩
    intro α program value after other ran
    exact unpolled_run host depth program other held ran

def lateChecks : Script.Library where
  rules := #[⟨"late", [(.always, ⟨"late"⟩)]⟩]

/-- The guard asks for a custom type that is registered only after the call. -/
theorem async_stack_call_registered_meanwhile :
    let host := lateChecks.host
    let level : Level := ⟨⟨0⟩, .positional [.single (.custom ⟨"late"⟩)], .shared⟩
    let routine := deferred host [level] "f" ⟨0⟩ [.string "x"]
    let promised := World.start.addCell (.unstarted routine)
    let registered := promised.register .shared .string ⟨"late"⟩ ⟨0⟩
    let register : Program Unit := .ask (.register .shared .string ⟨"late"⟩ ⟨0⟩) .done
    let settled : Outcome := .ok .undefined
    promised.cell? ⟨0⟩ = some (.unstarted routine) ∧
      level.check (host.dispatch 1) [.string "x"] promised =
        some (some (.mismatch 0 (.single (.custom ⟨"late"⟩)) (.builtin .string)), promised) ∧
      register.run (sparing host (fun id => id = ⟨0⟩) 1) promised = some ((), registered) ∧
      registered.cell? ⟨0⟩ = some (.unstarted routine) ∧
      (host.dispatch 1).pollCell ⟨0⟩ registered =
        some (.settled settled, (registered.record (.note "check late")).setCell ⟨0⟩ (.settled settled)) := by
  intro host level routine promised registered register settled
  obtain ⟨-, -, -, waiting, -⟩ := async_stack_call host level [] "f" ⟨0⟩ [.string "x"]
  have held : promised.cell? ⟨0⟩ = some (.unstarted routine) := rfl
  have ran : register.run (sparing host (fun id => id = ⟨0⟩) 1) promised = some ((), registered) := rfl
  have kept : registered.cell? ⟨0⟩ = some (.unstarted routine) :=
    ((waiting [level] ⟨0⟩ promised 1 held).1 Unit register () registered routine ran).1
  refine ⟨held, rfl, ran, kept, ((waiting [level] ⟨0⟩ registered 1 kept).2 _).mpr ?_⟩
  exact .started (.cons rfl .nil) rfl

end TypeGuard.Proofs
