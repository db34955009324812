import TypeGuard.Proofs.PositionalGuard

/-! Guards around guards. A call goes through the checks of a stack from the outermost guard inwards and
stops at the first that refuses; on the way back no guard adds anything to an error. -/

namespace TypeGuard.Proofs

variable {dispatch : Dispatch} {args : List Value} {before : World}

/-- A guard without its target, and what tells it apart once it is a function of its own. -/
structure Level where
  identity : Identity
  signature : Signature
  registry : RegistryId

def Level.guard (level : Level) (target : Callable) : Guard :=
  ⟨level.signature, level.registry, target⟩

def Level.check (dispatch : Dispatch) (args : List Value) (level : Level) : Action (Option Refusal) :=
  checkArguments dispatch level.registry level.signature args

/-- The target behind all the guards, the outermost first. -/
def stack (levels : List Level) (target : Callable) : Callable :=
  levels.foldr (fun level inner => .guarded level.identity level.signature level.registry inner) target

theorem kind_stack (levels : List Level) (target : Callable) : (stack levels target).kind = target.kind := by
  induction levels with
  | nil => rfl
  | cons level rest ih => exact ih

private theorem toFunction_stack (level : Level) (levels : List Level) (target : Callable) (world : World) :
    (level.guard (stack levels target)).toFunction world =
      some (stack ({ level with identity := ⟨world.identities⟩ } :: levels) target,
        { world with identities := world.identities + 1 }) := rfl

/-- Guards around guards as they come about: each guard is made a function of its own, in whatever world
that is, before the next one is put around it. -/
inductive Stacked (target : Callable) : List Level → Callable → Prop where
  | bare : Stacked target [] target
  | around {level rest inner outer before after} (beneath : Stacked target rest inner)
      (named : level.identity = ⟨before.identities⟩)
      (made : (level.guard inner).toFunction before = some (outer, after)) : Stacked target (level :: rest) outer

theorem stacked_iff {levels : List Level} {target function : Callable} :
    Stacked target levels function ↔ function = stack levels target := by
  constructor
  · intro stacked
    induction stacked with
    | bare => rfl
    | @around level rest inner outer before after _ named made ih =>
      rw [ih, toFunction_stack, ← named] at made
      cases made
      rfl
  · rintro rfl
    induction levels with
    | nil => exact .bare
    | cons level rest ih =>
      exact .around ih rfl (toFunction_stack level rest target { World.start with identities := level.identity.index })

abbrev Level.Admits (dispatch : Dispatch) (args : List Value) (level : Level) : World → World → Prop :=
  Passes (Level.check dispatch args) level

def beneath {α : Type} (report : Refusal → α) (target : Action α) : Option Refusal → Action α
  | some refusal => pure (report refusal)
  | none => target

inductive Beneath {α : Type} (report : Refusal → α) (target : Action α) (checked : Option (Option Refusal × World)) :
    Option (α × World) → Prop where
  | refused {refusal after} (refused : checked = some (some refusal, after)) :
      Beneath report target checked (some (report refusal, after))
  | called {middle result} (passed : checked = some (none, middle)) (called : target middle = result) :
      Beneath report target checked result
  | nested (nested : checked = none) : Beneath report target checked none

theorem beneath_eq_iff {α : Type} {report : Refusal → α} {checks : Action (Option Refusal)} {target : Action α} {result} :
    (checks >>= beneath report target) before = result ↔ Beneath report target (checks before) result := by
  rw [bind_run]
  constructor
  · rintro rfl
    cases checked : checks before with
    | none => exact .nested rfl
    | some result =>
      obtain ⟨refused, middle⟩ := result
      cases refused with
      | none => exact .called rfl rfl
      | some refusal => exact .refused rfl
  · intro out
    cases out with
    | refused refused => rw [refused]; rfl
    | called passed called => rw [passed]; exact called
    | nested nested => rw [nested]; rfl

theorem beneath_cons {α : Type} (report : Refusal → α) (target : Action α) (level : Level) (rest : List Level) :
    (level :: rest).findSomeM? (Level.check dispatch args) >>= beneath report target =
      level.check dispatch args >>= beneath report
        (rest.findSomeM? (Level.check dispatch args) >>= beneath report target) := by
  rw [List.findSomeM?_cons, bind_assoc]
  congr 1
  funext refused
  cases refused <;> rfl

def reported (refusal : Refusal) : Outcome :=
  .error (.refused refusal)

theorem runSync_guarded (level : Level) (target : Callable) :
    runSync dispatch (stack [level] target) args =
      level.check dispatch args >>= beneath reported (runSync dispatch target args) := by
  funext world
  change (callWith dispatch level.registry level.signature (runSync dispatch target) args >>= fun result =>
    pure (result.mapError CallError.toFailure)) world = _
  rw [bind_run, bind_run, callWith, bind_run, Level.check]
  cases checkArguments dispatch level.registry level.signature args world with
  | none => rfl
  | some result =>
    obtain ⟨refused, middle⟩ := result
    cases refused with
    | some refusal => rfl
    | none =>
      simp only [Option.bind_some, bind_run, beneath]
      cases runSync dispatch target args middle with
      | none => rfl
      | some result => simp only [Option.bind_some, pure_run, mapError_toFailure]

private theorem runSync_stack (levels : List Level) (target : Callable) :
    runSync dispatch (stack levels target) args =
      levels.findSomeM? (Level.check dispatch args) >>= beneath reported (runSync dispatch target args) := by
  induction levels with
  | nil => rfl
  | cons level rest ih =>
    have outermost : runSync dispatch (stack (level :: rest) target) args =
        level.check dispatch args >>= beneath reported (runSync dispatch (stack rest target) args) :=
      runSync_guarded level (stack rest target)
    rw [outermost, ih, beneath_cons]

abbrev LevelsChecked (dispatch : Dispatch) (args : List Value) (before : World) (levels : List Level) :
    Option (Option Refusal × World) → Prop :=
  Searched (Level.check dispatch args) before levels

inductive StackCalled (dispatch : Dispatch) (function : FunctionId) (args : List Value) (first : Level)
    (rest : List Level) (before : World) : Option (Except CallError Value × World) → Prop where
  | outermost {refusal after} (refused : first.check dispatch args before = some (some refusal, after)) :
      StackCalled dispatch function args first rest before (some (.error (.refused refusal), after))
  /-- The refusal of a guard further in comes back as a failed call, whatever its depth. -/
  | inner {middle refusal after} (admitted : first.Admits dispatch args before middle)
      (refused : LevelsChecked dispatch args middle rest (some (some refusal, after))) :
      StackCalled dispatch function args first rest before (some (.error (.failed (.refused refusal)), after))
  | returned {middle value after} (admitted : InTurn (Level.Admits dispatch args) (first :: rest) before middle)
      (ran : dispatch.body function args middle = some (.ok value, after)) :
      StackCalled dispatch function args first rest before (some (.ok value, after))
  | failed {middle failure after} (admitted : InTurn (Level.Admits dispatch args) (first :: rest) before middle)
      (ran : dispatch.body function args middle = some (.error failure, after)) :
      StackCalled dispatch function args first rest before (some (.error (.failed failure), after))
  | nestedCheck (nested : LevelsChecked dispatch args before (first :: rest) none) :
      StackCalled dispatch function args first rest before none
  | nestedTarget {middle} (admitted : InTurn (Level.Admits dispatch args) (first :: rest) before middle)
      (nested : dispatch.body function args middle = none) : StackCalled dispatch function args first rest before none

private theorem invoke_sync_stack (levels : List Level) (name : String) (function : FunctionId) :
    invoke dispatch (stack levels (.host .sync name function)) args =
      levels.findSomeM? (Level.check dispatch args) >>= beneath reported (dispatch.body function args) := by
  have sync : (stack levels (.host .sync name function)).kind = .sync := kind_stack levels _
  rw [invoke_sync sync]
  exact runSync_stack levels _

private theorem first_checked {first : Level} {rest : List Level} :
    (first :: rest).findSomeM? (Level.check dispatch args) before = none ↔
      first.check dispatch args before = none ∨ ∃ middle, first.Admits dispatch args before middle ∧
        rest.findSomeM? (Level.check dispatch args) middle = none := by
  rw [List.findSomeM?_cons, bind_run]
  constructor
  · intro nested
    cases checked : first.check dispatch args before with
    | none => exact .inl rfl
    | some result =>
      obtain ⟨refused, middle⟩ := result
      rw [checked] at nested
      cases refused with
      | none => exact .inr ⟨middle, checked, nested⟩
      | some refusal => cases nested
  · rintro (nested | ⟨middle, admitted, nested⟩)
    · rw [nested, Option.bind_none]
    · rw [admitted]
      exact nested

private theorem stackCalled_iff {first : Level} {rest : List Level} {function : FunctionId} {result} :
    GuardedCall (rest.findSomeM? (Level.check dispatch args) >>= beneath reported (dispatch.body function args))
        (first.check dispatch args before) result ↔
      StackCalled dispatch function args first rest before result := by
  constructor
  · intro out
    cases out with
    | refused refused => exact .outermost refused
    | nestedCheck nested => exact .nestedCheck (findSomeM?_eq_iff.mp (first_checked.mpr (.inl nested)))
    | returned accepted called =>
      cases beneath_eq_iff.mp called with
      | called passed ran => exact .returned (.cons accepted (findSomeM?_passed_iff.mp passed)) ran
    | failed accepted called =>
      cases beneath_eq_iff.mp called with
      | refused refused => exact .inner accepted (findSomeM?_eq_iff.mp refused)
      | called passed ran => exact .failed (.cons accepted (findSomeM?_passed_iff.mp passed)) ran
    | nestedCall accepted nested =>
      cases beneath_eq_iff.mp nested with
      | nested nested => exact .nestedCheck (findSomeM?_eq_iff.mp (first_checked.mpr (.inr ⟨_, accepted, nested⟩)))
      | called passed ran => exact .nestedTarget (.cons accepted (findSomeM?_passed_iff.mp passed)) ran
  · intro out
    cases out with
    | outermost refused => exact .refused refused
    | inner admitted refused => exact .failed admitted (beneath_eq_iff.mpr (.refused (findSomeM?_eq_iff.mpr refused)))
    | returned admitted ran =>
      obtain ⟨⟩ | ⟨accepted, admitted⟩ := admitted
      exact .returned accepted (beneath_eq_iff.mpr (.called (findSomeM?_passed_iff.mpr admitted) ran))
    | failed admitted ran =>
      obtain ⟨⟩ | ⟨accepted, admitted⟩ := admitted
      exact .failed accepted (beneath_eq_iff.mpr (.called (findSomeM?_passed_iff.mpr admitted) ran))
    | nestedCheck nested =>
      rcases first_checked.mp (findSomeM?_eq_iff.mpr nested) with nested | ⟨middle, admitted, nested⟩
      · exact .nestedCheck nested
      · exact .nestedCall admitted (beneath_eq_iff.mpr (.nested nested))
    | nestedTarget admitted nested =>
      obtain ⟨⟩ | ⟨accepted, admitted⟩ := admitted
      exact .nestedCall accepted (beneath_eq_iff.mpr (.called (findSomeM?_passed_iff.mpr admitted) nested))

/-- A call of a stack of guards over a synchronous function goes through the checks from the outermost
guard inwards and runs the function only behind all of them. The refusal of the guard that is called
is its own error; a refusal further in, and an error of the function, come back as they are from
any depth. A stack is what comes of making guards functions, one around the other. -/
theorem sync_stack_call (dispatch : Dispatch) (first : Level) (rest : List Level) (name : String)
    (function : FunctionId) (args : List Value) :
    (∀ inner, Stacked (.host .sync name function) rest inner ↔ inner = stack rest (.host .sync name function)) ∧
    (∀ before result, (first.guard (stack rest (.host .sync name function))).call dispatch args before = result ↔
      StackCalled dispatch function args first rest before result) ∧
    (∀ (level : Level) (before after : World) (refusal : Refusal),
      level.check dispatch args before = some (some refusal, after) →
        (CallError.refused refusal).isRefusal = true ∧ (CallError.refused refusal).position?.isSome = true ∧
        (CallError.failed (.refused refusal)).text = (CallError.refused refusal).text ∧
        (Failure.refused refusal).refusal? = some refusal ∧ (Failure.refused refusal).chain = [refusal.text]) ∧
    ∀ failure : Failure, (CallError.failed failure).text = failure.text ∧
      (CallError.failed failure).isRefusal = false ∧ (CallError.failed failure).position? = none := by
  refine ⟨fun inner => stacked_iff, fun before result => ?_, ?_, fun failure => ⟨rfl, rfl, rfl⟩⟩
  · rw [Guard.call, callWith_eq_iff]
    change GuardedCall (invoke dispatch (stack rest (.host .sync name function)) args) _ result ↔ _
    rw [invoke_sync_stack]
    exact stackCalled_iff
  · intro level before after refusal refused
    exact ⟨rfl, checkArguments_position refused, rfl, rfl, rfl⟩

/-- The inner of two guards asks for a number and is given a text. -/
theorem sync_stack_call_inner_refusal :
    let dispatch := ({} : Script.Library).host.dispatch 1
    let outer : Level := ⟨⟨0⟩, .uniform (.single (.builtin .string)), .shared⟩
    let inner : Level := ⟨⟨0⟩, .positional [.single (.builtin .number)], .shared⟩
    let refusal : Refusal := .mismatch 0 (.single (.builtin .number)) (.builtin .string)
    inner.check dispatch [.string "x"] .start = some (some refusal, .start) ∧
      refusal.position?.isSome = true ∧ (Failure.refused refusal).refusal? = some refusal ∧
      (outer.guard (stack [inner] (.host .sync "f" ⟨0⟩))).call dispatch [.string "x"] .start =
        some (.error (.failed (.refused refusal)), .start) := by
  intro dispatch outer inner refusal
  have refused : inner.check dispatch [.string "x"] .start = some (some refusal, .start) := rfl
  obtain ⟨-, called, reported, -⟩ := sync_stack_call dispatch outer [inner] "f" ⟨0⟩ [.string "x"]
  obtain ⟨-, position, -, found, -⟩ := reported inner .start .start refusal refused
  refine ⟨refused, position, found, (called _ _).mpr (.inner rfl ?_)⟩
  exact .stopped .nil refused (by simp)

end TypeGuard.Proofs
