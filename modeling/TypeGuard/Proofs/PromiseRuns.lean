import TypeGuard.Proofs.GuardLaunch
import TypeGuard.Proofs.PromiseHistory
import TypeGuard.Script.Library

/-! What programs make and see of promises. Each call of an asynchronous function makes a promise of its own; a
promise is started at most once, whoever polls it, and from its outcome on all see that one outcome. -/

namespace TypeGuard.Proofs

section Polls
variable {host : Host} {depth : Nat} {promise : PromiseId} {before after : World}

theorem run_poll (host : Host) (depth : Nat) (promise : PromiseId) (before : World) :
    host.run (depth + 1) (.request (.poll promise)) before = (host.dispatch depth).pollCell promise before := by
  rw [Host.run, Program.run_request]
  rfl

private theorem resume_shown {routine : Routine} {answer : Poll}
    (held : before.cell? promise = some (.unstarted routine) ∨ before.cell? promise = some (.suspended routine))
    (resumed : (host.dispatch depth).resume promise routine before = some (answer, after)) :
    answer = (after.outcome? promise).elim .pending .settled := by
  have inside := resumable_inside held
  rw [Dispatch.resume, bind_run, change_run, Option.bind_some, bind_run, ← run_progress] at resumed
  obtain ⟨⟨reached, middle⟩, advanced, ended⟩ := Option.bind_eq_some_iff.mp resumed
  have running := run_running host depth (progress routine) advanced (World.cell?_setCell_self inside .running)
  have inside := (Array.getElem?_eq_some_iff.mp running).1
  cases reached with
  | finished outcome =>
    cases ended
    rw [World.outcome?, World.cell?_setCell_self inside]
    rfl
  | paused rest =>
    cases ended
    rw [World.outcome?, World.cell?_setCell_self inside]
    rfl

private theorem poll_shown {answer : Poll} (polled : host.run depth (.request (.poll promise)) before = some (answer, after)) :
    answer = (after.outcome? promise).elim .pending .settled := by
  cases depth with
  | zero => cases polled
  | succ depth =>
    rw [run_poll, pollCell_run] at polled
    cases held : before.cell? promise with
    | none =>
      rw [held] at polled
      cases polled
      rw [World.outcome?, held]
      rfl
    | some cell =>
      rw [held] at polled
      cases cell with
      | unstarted routine => exact resume_shown (.inl held) polled
      | suspended routine => exact resume_shown (.inr held) polled
      | running | settled =>
        cases polled
        rw [World.outcome?, held]
        rfl

private theorem poll_settled {outcome : Outcome} (settled : before.outcome? promise = some outcome) :
    host.run (depth + 1) (.request (.poll promise)) before = some (.settled outcome, before) := by
  rw [run_poll, pollCell_run, outcome?_eq_some.mp settled]
  rfl

private theorem poll_finished {outcome : Outcome} (held : before.cell? promise = some (.unstarted (.finish outcome))) :
    host.run (depth + 1) (.request (.poll promise)) before =
      some (.settled outcome, before.setCell promise (.settled outcome)) := by
  rw [run_poll, pollCell_run, held, ← World.setCell_setCell before promise (.settled outcome) .running]
  rfl

private theorem await_next (most : Nat) :
    host.run depth (Program.awaitOutcome promise (most + 1)) =
      host.run depth (.request (.poll promise)) >>= fun
        | .settled outcome => pure (some outcome)
        | .pending => host.run depth (Program.awaitOutcome promise most) := by
  rw [Host.run, Host.run, Program.awaitOutcome, Program.run_bind]
  congr 1
  funext answer
  cases answer <;> rfl

private theorem await_shown {most : Nat} {outcome : Outcome}
    (awaited : host.run depth (Program.awaitOutcome promise most) before = some (some outcome, after)) :
    after.outcome? promise = some outcome := by
  induction most generalizing before with
  | zero => cases awaited
  | succ most ih =>
    rw [await_next, bind_run] at awaited
    obtain ⟨⟨answer, middle⟩, polled, rest⟩ := Option.bind_eq_some_iff.mp awaited
    cases answer with
    | pending => exact ih rest
    | settled found =>
      cases rest
      have shown := poll_shown polled
      cases seen : middle.outcome? promise with
      | none =>
        rw [seen] at shown
        cases shown
      | some found =>
        rw [seen] at shown
        cases shown
        rfl

private theorem await_settled {outcome : Outcome} (settled : before.outcome? promise = some outcome) (most : Nat) :
    host.run (depth + 1) (Program.awaitOutcome promise (most + 1)) before = some (some outcome, before) := by
  rw [await_next, bind_run, poll_settled settled]
  rfl

private theorem checks_missing {registry : RegistryId} {signature : Signature} {args : List Value} {refused}
    (checked : checkArguments (host.dispatch depth) registry signature args before = some (refused, after))
    (missing : after.cell? promise = none) : before.cell? promise = none := by
  have ran : host.run depth (.request (.checkArguments registry signature args)) before = some (refused, after) := by
    rw [Host.run, Program.run_request]
    exact checked
  obtain ⟨steps, rfl⟩ := run_steps host depth _ ran
  exact cell?_taken_none missing

/-- A guard over an asynchronous function promises what nothing before has promised. -/
private theorem guard_fresh {guard : Guard} {args : List Value} (async : guard.target.kind = .async)
    (gives : guard.call (host.dispatch depth) args before = some (.ok (.promise promise), after) ∨
      guard.launch (host.dispatch depth) args before = some (.pending promise, after)) :
    before.cell? promise = none ∧
      after.cell? promise = some (.unstarted (beginRoutine (host.dispatch depth) guard.target args)) := by
  generalize called : guard.call (host.dispatch depth) args before = call at gives
  generalize launched : guard.launch (host.dispatch depth) args before = launch at gives
  cases calledAndLaunched_iff.mp ⟨called, launched⟩ with
  | refused => obtain gives | gives := gives <;> cases gives
  | ran _ sync =>
    rw [async] at sync
    cases sync
  | @promised middle accepted _ =>
    have fresh := checks_missing accepted (cell?_next middle)
    obtain gives | gives := gives
    · cases gives
      exact ⟨fresh, World.cell?_nextPromise ..⟩
    · cases gives
      exact ⟨fresh, World.cell?_nextPromise ..⟩
  | nestedCheck => obtain gives | gives := gives <;> cases gives
  | nestedTarget => obtain gives | gives := gives <;> cases gives

end Polls

/-- What programs make and see of promises. -/
structure PromiseUses (host : Host) (depth : Nat) : Prop where
  invoked : ∀ callable args before, callable.kind = .async → before.cell? before.nextPromise = none ∧
    host.run depth (.request (.invoke callable args)) before = some (.ok (.promise before.nextPromise),
      taken before [.defer (beginRoutine (host.dispatch depth) callable args)])
  guarded : ∀ guard args before promise after, guard.target.kind = .async →
    (host.run depth (.request (.call guard args)) before = some (.ok (.promise promise), after) ∨
      host.run depth (.request (.launch guard args)) before = some (.pending promise, after)) →
    before.cell? promise = none ∧
      after.cell? promise = some (.unstarted (beginRoutine (host.dispatch depth) guard.target args))
  /-- A promise whose outcome is known from the start shows it only once it has been polled. -/
  known : ∀ outcome before, before.cell? before.nextPromise = none ∧
    host.run depth (.request (.defer outcome)) before =
      some (before.nextPromise, taken before [.defer (.finish outcome)]) ∧
    ∀ promise, (promise, .finish outcome) ∈ waiting before → before.outcome? promise = none ∧
      host.run (depth + 1) (.request (.poll promise)) before =
        some (.settled outcome, before.setCell promise (.settled outcome))
  peeked : ∀ promise before,
    host.run depth (.request (.peek promise)) before = some (before.outcome? promise, before)
  polled : ∀ promise before answer after,
    host.run depth (.request (.poll promise)) before = some (answer, after) →
      answer = (after.outcome? promise).elim .pending .settled
  awaited : ∀ promise most before outcome after,
    host.run depth (Program.awaitOutcome promise most) before = some (some outcome, after) →
      after.outcome? promise = some outcome
  again : ∀ promise outcome before, before.outcome? promise = some outcome →
    host.run (depth + 1) (.request (.poll promise)) before = some (.settled outcome, before) ∧
    ∀ most, host.run (depth + 1) (Program.awaitOutcome promise (most + 1)) before = some (some outcome, before)

private theorem promise_uses (host : Host) (depth : Nat) : PromiseUses host depth where
  invoked callable args before async := by
    refine ⟨cell?_next before, ?_⟩
    rw [Host.run, Program.run_request]
    exact invoke_async async args before
  guarded guard args before promise after async gives := by
    simp only [Host.run, Program.run_request] at gives
    exact guard_fresh async gives
  known outcome before := by
    refine ⟨cell?_next before, ?_, fun promise waits => ?_⟩
    · rw [Host.run, Program.run_request]
      rfl
    · have held := mem_waiting.mp waits
      exact ⟨by rw [World.outcome?, held], poll_finished held⟩
  peeked promise before := by
    rw [Host.run, Program.run_request]
    rfl
  polled _ _ _ _ := poll_shown
  awaited _ _ _ _ _ := await_shown
  again _ _ _ settled := ⟨poll_settled settled, await_settled settled⟩

/-- Promises are started at most once, and agree with all that is ever seen of them. That holds of all orderly
steps, and every run is told by such: under inspection it goes through the worlds that they lead to, and
the marks that it makes where it starts a promise are those of the starts among them. A promise that is not
polled, not even by what waits for it, is not touched. -/
theorem promises_start_once (host : Host) (depth : Nat) :
    (∀ before steps, Orderly before steps → PromisesKept before steps) ∧
    (∀ (α : Type) (program : Program α) before value after, host.run depth program before = some (value, after) →
      HasHistory host depth (fun _ => false) program before value after) ∧
    (∀ (α : Type) (program : Program α) spared before value after,
      program.run (sparing host spared depth) before = some (value, after) →
        host.run depth program before = some (value, after) ∧
        HasHistory host depth spared program before value after) ∧
    PromiseUses host depth := by
  refine ⟨fun before steps => promises_kept, ?_, ?_, ?_⟩
  · intro α program before value after ran
    rw [Host.run, ← sparing_none] at ran
    exact sparing_history host depth program ran
  · intro α program spared before value after ran
    exact ⟨(sparing_run host depth program ran).1, sparing_history host depth program ran⟩
  · exact promise_uses host depth

def slowFunctions : Script.Library where
  definitions := #[{ name := "slow", body := .const (.string "done"), yields := 2 }]

def awaitFirst : Program (Option Outcome × Option Outcome × Option Outcome) := do
  let slow := Callable.host .async "slow" ⟨0⟩
  let _ ← Program.request (.invoke slow [])
  let _ ← Program.request (.invoke slow [])
  let early ← Program.request (.peek ⟨0⟩)
  let awaited ← Program.awaitOutcome ⟨0⟩ 3
  let late ← Program.request (.peek ⟨0⟩)
  return (early, awaited, late)

def startMark (promise : PromiseId) : Event :=
  .switched ⟨promise.index⟩ true

private theorem startMark_injective : Function.Injective startMark := by
  rintro ⟨index⟩ ⟨other⟩ same
  cases same
  rfl

/-- The second promise is never polled and never started; the first is polled three times and started once. -/
theorem promises_start_once_slow :
    ∃ after steps, awaitFirst.run (sparing slowFunctions.host (fun id => id = ⟨1⟩) 1) World.start =
        some ((none, some (.ok (.string "done")), some (.ok (.string "done"))), after) ∧
      Orderly World.start steps ∧ taken World.start steps = after ∧ PromisesKept World.start steps ∧
      startLog World.start steps = [⟨0⟩] ∧ ∀ cell, .setCell ⟨1⟩ cell ∉ steps := by
  obtain ⟨after, ran, noted⟩ : ∃ after,
      awaitFirst.run (sparing slowFunctions.host (fun id => id = ⟨1⟩) 1) World.start =
        some ((none, some (.ok (.string "done")), some (.ok (.string "done"))), after) ∧
      after.journal = #[.note "start slow/0", .note "run slow/0"] := ⟨_, rfl, rfl⟩
  obtain ⟨watched, ran', noted'⟩ : ∃ watched,
      runInspected (fun _ => true) (marking slowFunctions.host startMark (fun _ => true) 1) awaitFirst World.start =
        some ((none, some (.ok (.string "done")), some (.ok (.string "done"))), watched) ∧
      watched.journal = #[startMark ⟨0⟩] ++ #[.note "start slow/0", .note "run slow/0"] := ⟨_, rfl, rfl⟩
  obtain ⟨kept, -, spared, -⟩ := promises_start_once slowFunctions.host 1
  obtain ⟨-, history⟩ := spared _ awaitFirst _ _ _ _ ran
  obtain ⟨steps, orderly, spares, reached, seen⟩ := history startMark fun _ => true
  have same := Option.some.inj ((seen fun _ _ => rfl).symm.trans ran')
  have journals : ((startLog World.start steps).map startMark).toArray ++ after.journal = watched.journal :=
    congrArg (fun result => result.2.journal) same
  rw [noted, noted', Array.append_left_inj] at journals
  have log : startLog World.start steps = [⟨0⟩] := startMark_injective.list_map (List.toArray_inj journals)
  refine ⟨after, steps, ran, orderly, reached, kept _ steps orderly, log, ?_⟩
  intro cell member
  cases spares ⟨1⟩ cell member

end TypeGuard.Proofs
