import TypeGuard.Execution
import TypeGuard.Proofs.ArgumentChecks
import TypeGuard.Script.Library

/-! A guard with a specification for each position, from the arguments to the target. -/

namespace TypeGuard.Proofs

variable {dispatch : Dispatch} {registry : RegistryId} {args : List Value} {before : World}

/-- How a guarded call comes out, given how its checks do: their refusal is its error, and only when
there is none the target is called, once and in the world that the checks left. -/
inductive GuardedCall (target : Action Outcome) (checked : Option (Option Refusal × World)) :
    Option (Except CallError Value × World) → Prop where
  | refused {refusal after} (refused : checked = some (some refusal, after)) :
      GuardedCall target checked (some (.error (.refused refusal), after))
  | returned {middle value after} (accepted : checked = some (none, middle))
      (called : target middle = some (.ok value, after)) : GuardedCall target checked (some (.ok value, after))
  | failed {middle failure after} (accepted : checked = some (none, middle))
      (called : target middle = some (.error failure, after)) :
      GuardedCall target checked (some (.error (.failed failure), after))
  | nestedCheck (nested : checked = none) : GuardedCall target checked none
  | nestedCall {middle} (accepted : checked = some (none, middle)) (nested : target middle = none) :
      GuardedCall target checked none

theorem callWith_eq_iff (signature : Signature) {target : List Value → Action Outcome} {result} :
    callWith dispatch registry signature target args before = result ↔
      GuardedCall (target args) (checkArguments dispatch registry signature args before) result := by
  rw [callWith, bind_run]
  constructor
  · rintro rfl
    cases checked : checkArguments dispatch registry signature args before with
    | none => exact .nestedCheck rfl
    | some result =>
      obtain ⟨refused, middle⟩ := result
      cases refused with
      | some refusal => exact .refused rfl
      | none =>
        simp only [Option.bind_some, bind_run]
        cases called : target args middle with
        | none => exact .nestedCall rfl called
        | some result =>
          obtain ⟨outcome, after⟩ := result
          cases outcome with
          | ok value => exact .returned rfl called
          | error failure => exact .failed rfl called
  · intro out
    cases out with
    | refused refused => rw [refused]; rfl
    | returned accepted called | failed accepted called | nestedCall accepted called =>
      simp only [accepted, Option.bind_some, bind_run, called]
      rfl
    | nestedCheck nested => rw [nested]; rfl

inductive PositionsChecked (dispatch : Dispatch) (registry : RegistryId) (specs : List Spec) (args : List Value)
    (before : World) : Option (Option Refusal × World) → Prop where
  | surplus (more : specs.length < args.length) :
      PositionsChecked dispatch registry specs args before (some (some (.outOfBounds specs.length), before))
  | accepted {after} (fits : args.length ≤ specs.length)
      (all : InTurn (Accepts dispatch registry) (specs.zip args) before after) :
      PositionsChecked dispatch registry specs args before (some (none, after))
  /-- The first argument that does not fit ends the checks; it is classified, and no later one is. -/
  | mismatch {position spec value middle tag after} (fits : args.length ≤ specs.length)
      (expected : specs[position]? = some spec) (given : args[position]? = some value)
      (earlier : InTurn (Accepts dispatch registry) ((specs.zip args).take position) before middle)
      (classified : classify dispatch registry value middle = some (tag, after)) (unfit : spec.allows tag = false) :
      PositionsChecked dispatch registry specs args before (some (some (.mismatch position spec tag), after))
  | exhausted {position spec value middle} (fits : args.length ≤ specs.length)
      (expected : specs[position]? = some spec) (given : args[position]? = some value)
      (earlier : InTurn (Accepts dispatch registry) ((specs.zip args).take position) before middle)
      (nested : classify dispatch registry value middle = none) :
      PositionsChecked dispatch registry specs args before none

theorem checkPositions_eq_iff {specs : List Spec} {result} :
    checkPositions dispatch registry specs args before = result ↔
      PositionsChecked dispatch registry specs args before result := by
  rw [checkPositions]
  split
  next more =>
    constructor
    · rintro rfl
      exact .surplus more
    · intro checked
      cases checked with
      | surplus => rfl
      | accepted fits | mismatch fits | exhausted fits => omega
  next few =>
    have fits : args.length ≤ specs.length := Nat.le_of_not_lt few
    rw [checkEach_eq, checkPairs_eq_iff]
    constructor
    · intro checked
      cases checked with
      | accepted all => exact .accepted fits all
      | mismatch found earlier classified unfit =>
        obtain ⟨expected, given⟩ := List.getElem?_zip_eq_some.mp found
        rw [Nat.zero_add]
        exact .mismatch fits expected given earlier classified unfit
      | exhausted found earlier nested =>
        obtain ⟨expected, given⟩ := List.getElem?_zip_eq_some.mp found
        exact .exhausted fits expected given earlier nested
    · intro checked
      cases checked with
      | surplus more => exact absurd more few
      | accepted _ all => exact .accepted all
      | mismatch _ expected given earlier classified unfit =>
        have checked : PairsChecked dispatch registry 0 (specs.zip args) before _ :=
          .mismatch (List.getElem?_zip_eq_some.mpr ⟨expected, given⟩) earlier classified unfit
        rwa [Nat.zero_add] at checked
      | exhausted _ expected given earlier nested =>
        exact .exhausted (List.getElem?_zip_eq_some.mpr ⟨expected, given⟩) earlier nested

theorem checkPositions_congr {specs others : List Spec} (enough : args.length ≤ specs.length)
    (also : args.length ≤ others.length) (same : others.take args.length = specs.take args.length) :
    checkPositions dispatch registry others args = checkPositions dispatch registry specs args := by
  have cut (declared : List Spec) (enough : args.length ≤ declared.length) :
      declared.zip args = (declared.take args.length).zip args := by
    rw [List.zip_eq_zip_take_min, Nat.min_eq_right enough, List.take_length]
  rw [checkPositions, checkPositions, if_neg (Nat.not_lt_of_le enough), if_neg (Nat.not_lt_of_le also), checkEach_eq,
    checkEach_eq, cut others also, cut specs enough, same]

end TypeGuard.Proofs
