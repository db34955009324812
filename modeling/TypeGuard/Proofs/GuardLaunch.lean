import TypeGuard.Execution
import TypeGuard.Procedures
import TypeGuard.Proofs.PositionalGuard

/-! A guard may be called or launched. Either way its check is made at once, and so is a synchronous target
run; an asynchronous target is left to a promise, and a launched call comes to what that promise comes to. -/

namespace TypeGuard.Proofs

variable {dispatch : Dispatch} {guard : Guard} {args : List Value} {before : World}

/-- How a call and a launch of one guard come out, both started in the same world. They share the world that
the check leaves, and the one that a synchronous target leaves. -/
inductive CalledAndLaunched (dispatch : Dispatch) (guard : Guard) (args : List Value) (before : World) :
    Option (Except CallError Value × World) → Option (Launched × World) → Prop where
  | refused {refusal after} (refused : guard.check dispatch args before = some (some refusal, after)) :
      CalledAndLaunched dispatch guard args before (some (.error (.refused refusal), after))
        (some (.completed (.error (.refused refusal)), after))
  | ran {middle outcome after} (accepted : guard.check dispatch args before = some (none, middle))
      (sync : guard.target.kind = .sync) (ran : runSync dispatch guard.target args middle = some (outcome, after)) :
      CalledAndLaunched dispatch guard args before (some (outcome.mapError .failed, after))
        (some (.completed (outcome.mapError .failed), after))
  | promised {middle} (accepted : guard.check dispatch args before = some (none, middle))
      (async : guard.target.kind = .async) :
      CalledAndLaunched dispatch guard args before
        (some (.ok (.promise middle.nextPromise), middle.addCell (.unstarted (beginRoutine dispatch guard.target args))))
        (some (.pending middle.nextPromise, middle.addCell (.unstarted (beginRoutine dispatch guard.target args))))
  | nestedCheck (nested : guard.check dispatch args before = none) :
      CalledAndLaunched dispatch guard args before none none
  | nestedTarget {middle} (accepted : guard.check dispatch args before = some (none, middle))
      (sync : guard.target.kind = .sync) (nested : runSync dispatch guard.target args middle = none) :
      CalledAndLaunched dispatch guard args before none none

private theorem launch_run : guard.launch dispatch args before =
    (guard.check dispatch args before).bind fun checked => match checked.1 with
      | some refusal => some (.completed (.error (.refused refusal)), checked.2)
      | none => match guard.target.kind with
        | .sync => (runSync dispatch guard.target args checked.2).map fun ran =>
          (.completed (ran.1.mapError .failed), ran.2)
        | .async => some (.pending checked.2.nextPromise,
          checked.2.addCell (.unstarted (beginRoutine dispatch guard.target args))) := by
  rw [Guard.launch, bind_run]
  congr 1
  funext ⟨refused, middle⟩
  cases refused with
  | some refusal => rfl
  | none =>
    cases guard.target.kind with
    | async => rfl
    | sync =>
      change (runSync dispatch guard.target args >>= _) middle = (runSync dispatch guard.target args middle).map _
      rw [bind_run]
      cases runSync dispatch guard.target args middle <;> rfl

private theorem CalledAndLaunched.both {called launched} (out : CalledAndLaunched dispatch guard args before called launched) :
    guard.call dispatch args before = called ∧ guard.launch dispatch args before = launched := by
  rw [Guard.call, callWith_eq_iff, launch_run]
  cases out with
  | refused refused => exact ⟨.refused refused, by rw [refused]; rfl⟩
  | @ran middle outcome after accepted sync ran =>
    have called : invoke dispatch guard.target args middle = some (outcome, after) := by rwa [invoke_sync sync]
    constructor
    · cases outcome with
      | ok value => exact .returned accepted called
      | error failure => exact .failed accepted called
    · rw [accepted]
      simp only [Option.bind_some, sync, ran, Option.map_some]
  | promised accepted async =>
    refine ⟨.returned accepted (invoke_async async args _), ?_⟩
    rw [accepted]
    simp only [Option.bind_some, async]
  | nestedCheck nested => exact ⟨.nestedCheck nested, by rw [nested]; rfl⟩
  | nestedTarget accepted sync nested =>
    refine ⟨.nestedCall accepted (by rwa [invoke_sync sync]), ?_⟩
    rw [accepted]
    simp only [Option.bind_some, sync, nested, Option.map_none]

private theorem exists_calledAndLaunched (dispatch : Dispatch) (guard : Guard) (args : List Value) (before : World) :
    ∃ called launched, CalledAndLaunched dispatch guard args before called launched := by
  cases checked : guard.check dispatch args before with
  | none => exact ⟨_, _, .nestedCheck checked⟩
  | some result =>
    obtain ⟨refused, middle⟩ := result
    cases refused with
    | some refusal => exact ⟨_, _, .refused checked⟩
    | none =>
      cases kind : guard.target.kind with
      | async => exact ⟨_, _, .promised checked kind⟩
      | sync =>
        cases ran : runSync dispatch guard.target args middle with
        | none => exact ⟨_, _, .nestedTarget checked kind ran⟩
        | some result => exact ⟨_, _, .ran checked kind ran⟩

theorem calledAndLaunched_iff {called launched} :
    guard.call dispatch args before = called ∧ guard.launch dispatch args before = launched ↔
      CalledAndLaunched dispatch guard args before called launched := by
  refine ⟨?_, CalledAndLaunched.both⟩
  rintro ⟨rfl, rfl⟩
  obtain ⟨called, launched, out⟩ := exists_calledAndLaunched dispatch guard args before
  obtain ⟨same, same'⟩ := out.both
  rwa [same, same']

theorem call_launch_congr {other : Guard} (target : guard.target = other.target)
    (checks : guard.check dispatch args = other.check dispatch args) :
    guard.call dispatch args = other.call dispatch args ∧ guard.launch dispatch args = other.launch dispatch args := by
  constructor
  · change guard.check dispatch args >>= _ = other.check dispatch args >>= _
    rw [checks, target]
  · rw [Guard.launch, Guard.launch, checks, target]

theorem call_refused_iff {refusal after} :
    guard.call dispatch args before = some (.error (.refused refusal), after) ↔
      guard.check dispatch args before = some (some refusal, after) := by
  rw [Guard.call, callWith_eq_iff]
  constructor
  · rintro ⟨refused⟩
    exact refused
  · exact .refused

private theorem mapError_ok (value : Value) : (Except.ok value : Outcome).mapError CallError.failed = .ok value := rfl

private theorem mapError_error (failure : Failure) :
    (Except.error failure : Outcome).mapError CallError.failed = .error (.failed failure) := rfl

/-- The error of a target is a failure, never a refusal of the guard itself. -/
theorem launch_refused_iff {refusal after} :
    guard.launch dispatch args before = some (.completed (.error (.refused refusal)), after) ↔
      guard.check dispatch args before = some (some refusal, after) := by
  have apart (outcome : Outcome) : outcome.mapError CallError.failed ≠ .error (.refused refusal) := by
    cases outcome <;> simp [mapError_ok, mapError_error]
  rw [launch_run]
  cases guard.check dispatch args before with
  | none => simp
  | some checked =>
    obtain ⟨refused, middle⟩ := checked
    cases refused with
    | some refused => simp
    | none => cases guard.target.kind <;> simp [apart]

end TypeGuard.Proofs
