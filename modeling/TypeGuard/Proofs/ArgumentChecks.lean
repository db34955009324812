import TypeGuard.Proofs.Actions
import TypeGuard.Arguments

/-! How a list of arguments is checked. Checking by position and checking by one specification are the
same search through pairs of a specification and a value. -/

namespace TypeGuard.Proofs

variable {dispatch : Dispatch} {registry : RegistryId} {before : World}

def Accepts (dispatch : Dispatch) (registry : RegistryId) (pair : Spec × Value) (before after : World) : Prop :=
  ∃ tag, classify dispatch registry pair.2 before = some (tag, after) ∧ pair.1.allows tag = true

def checkPair (dispatch : Dispatch) (registry : RegistryId) (item : (Spec × Value) × Nat) : Action (Option Refusal) :=
  checkArgument dispatch registry item.1.1 item.2 item.1.2

/-- Checks each value by the specification beside it. The first pair stands at the given position. -/
def checkPairs (dispatch : Dispatch) (registry : RegistryId) (start : Nat) (pairs : List (Spec × Value)) :
    Action (Option Refusal) :=
  (pairs.zipIdx start).findSomeM? (checkPair dispatch registry)

theorem checkPairs_cons (start : Nat) (spec : Spec) (value : Value) (rest : List (Spec × Value)) :
    checkPairs dispatch registry start ((spec, value) :: rest) =
      checkArgument dispatch registry spec start value >>= fun
        | some refusal => pure (some refusal)
        | none => checkPairs dispatch registry (start + 1) rest := by
  rw [checkPairs, List.zipIdx_cons, List.findSomeM?_cons]
  congr 1
  funext refused
  cases refused <;> rfl

theorem checkEach_eq (start : Nat) (specs : List Spec) (args : List Value) :
    checkEach dispatch registry start specs args = checkPairs dispatch registry start (specs.zip args) := by
  induction specs generalizing start args with
  | nil => rfl
  | cons spec specs ih =>
    cases args with
    | nil => rfl
    | cons value values =>
      rw [checkEach, List.zip_cons_cons, checkPairs_cons]
      congr 1
      funext refused
      cases refused with
      | none => exact ih (start + 1) values
      | some refusal => rfl

theorem checkRest_eq (spec : Spec) (start : Nat) (args : List Value) :
    checkRest dispatch registry spec start args = checkPairs dispatch registry start (args.map (spec, ·)) := by
  induction args generalizing start with
  | nil => rfl
  | cons value values ih =>
    rw [checkRest, List.map_cons, checkPairs_cons]
    congr 1
    funext refused
    cases refused with
    | none => exact ih (start + 1)
    | some refusal => rfl

/-- The position at which arguments go beyond the specifications, if they do. -/
def surplus? : Signature → List Value → Option Nat
  | .positional specs, args => if specs.length < args.length then some specs.length else none
  | .uniform _, _ => none

/-- Each argument beside the specification that it is checked by. -/
def paired : Signature → List Value → List (Spec × Value)
  | .positional specs, args => specs.zip args
  | .uniform spec, args => args.map (spec, ·)

theorem paired_args {signature : Signature} {args : List Value} (within : surplus? signature args = none) :
    (paired signature args).map Prod.snd = args := by
  cases signature with
  | positional specs =>
    refine List.map_snd_zip (Nat.le_of_not_lt fun more => ?_)
    rw [surplus?, if_pos more] at within
    cases within
  | uniform spec => exact (List.map_map ..).trans (List.map_id _)

def declared : Signature → List Spec
  | .positional specs => specs
  | .uniform spec => [spec]

theorem declared_of_paired {signature : Signature} {args : List Value} {pair : Spec × Value}
    (member : pair ∈ paired signature args) : pair.1 ∈ declared signature := by
  cases signature with
  | positional specs => exact (List.of_mem_zip member).1
  | uniform spec =>
    obtain ⟨value, -, rfl⟩ := List.mem_map.mp member
    exact List.mem_singleton_self spec

theorem checkArguments_eq (signature : Signature) (args : List Value) :
    checkArguments dispatch registry signature args = match surplus? signature args with
      | some position => pure (some (.outOfBounds position))
      | none => checkPairs dispatch registry 0 (paired signature args) := by
  cases signature with
  | uniform spec => exact checkRest_eq spec 0 args
  | positional specs =>
    rw [checkArguments, checkPositions, checkEach_eq, surplus?]
    split <;> rfl

/-- How the checks of some pairs come out: all values are accepted, or the search ends at the first that
is not, all before it having been accepted in turn. -/
inductive PairsChecked (dispatch : Dispatch) (registry : RegistryId) (start : Nat) (pairs : List (Spec × Value))
    (before : World) : Option (Option Refusal × World) → Prop where
  | accepted {after} (all : InTurn (Accepts dispatch registry) pairs before after) :
      PairsChecked dispatch registry start pairs before (some (none, after))
  | mismatch {index spec value middle tag after} (found : pairs[index]? = some (spec, value))
      (earlier : InTurn (Accepts dispatch registry) (pairs.take index) before middle)
      (classified : classify dispatch registry value middle = some (tag, after)) (unfit : spec.allows tag = false) :
      PairsChecked dispatch registry start pairs before (some (some (.mismatch (start + index) spec tag), after))
  | exhausted {index spec value middle} (found : pairs[index]? = some (spec, value))
      (earlier : InTurn (Accepts dispatch registry) (pairs.take index) before middle)
      (nested : classify dispatch registry value middle = none) :
      PairsChecked dispatch registry start pairs before none

theorem checkArgument_run (spec : Spec) (position : Nat) (value : Value) (world : World) :
    checkArgument dispatch registry spec position value world =
      (classify dispatch registry value world).map fun result =>
        (if spec.allows result.1 then none else some (.mismatch position spec result.1), result.2) := by
  rw [checkArgument, bind_run]
  cases classify dispatch registry value world with
  | none => rfl
  | some result => cases allowed : spec.allows result.1 <;> simp [allowed, pure_run]

private theorem passes_checkPair :
    Passes (checkPair dispatch registry) = fun item => Accepts dispatch registry item.1 := by
  funext ⟨⟨spec, value⟩, position⟩ world after
  rw [Passes, checkPair, checkArgument_run, eq_iff_iff, Option.map_eq_some_iff]
  constructor
  · rintro ⟨⟨tag, middle⟩, classified, same⟩
    cases allowed : spec.allows tag with
    | false => simp [allowed] at same
    | true =>
      simp only [allowed, if_true, Prod.mk.injEq, true_and] at same
      exact ⟨tag, same ▸ classified, allowed⟩
  · rintro ⟨tag, classified, allowed⟩
    exact ⟨(tag, after), classified, by rw [if_pos allowed]⟩

private theorem passes_zipIdx {pairs : List (Spec × Value)} {start : Nat} {after : World} :
    InTurn (Passes (checkPair dispatch registry)) (pairs.zipIdx start) before after ↔
      InTurn (Accepts dispatch registry) pairs before after := by
  rw [passes_checkPair, ← InTurn.map_iff, List.zipIdx_map_fst]

private theorem Searched.pairsChecked {start : Nat} {pairs : List (Spec × Value)} {result}
    (out : Searched (checkPair dispatch registry) before (pairs.zipIdx start) result) :
    PairsChecked dispatch registry start pairs before result := by
  generalize same : pairs.zipIdx start = items at out
  cases out with
  | passed passed =>
    subst same
    exact .accepted (passes_zipIdx.mp passed)
  | @stopped earlier item later middle _ passed tried ended =>
    obtain ⟨front, back, rfl, rfl, atItem⟩ := List.zipIdx_eq_append_iff.mp same
    obtain ⟨⟨spec, value⟩, rest, rfl, rfl, rfl⟩ := List.zipIdx_eq_cons_iff.mp atItem.symm
    have found : (front ++ (spec, value) :: rest)[front.length]? = some (spec, value) := by simp
    have accepted : InTurn (Accepts dispatch registry) ((front ++ (spec, value) :: rest).take front.length)
        before middle := by
      rw [List.take_left]
      exact passes_zipIdx.mp passed
    rw [checkPair, checkArgument_run] at tried
    cases classified : classify dispatch registry value middle with
    | none =>
      rw [classified] at tried
      subst tried
      exact .exhausted found accepted classified
    | some named =>
      obtain ⟨tag, after⟩ := named
      rw [classified] at tried
      subst tried
      cases allowed : spec.allows tag with
      | true => exact absurd (by simp [allowed]) (ended after)
      | false => simpa [allowed] using PairsChecked.mismatch found accepted classified allowed

private theorem stopped_at {start index : Nat} {pairs : List (Spec × Value)} {spec value middle result}
    (found : pairs[index]? = some (spec, value))
    (earlier : InTurn (Accepts dispatch registry) (pairs.take index) before middle)
    (tried : checkArgument dispatch registry spec (start + index) value middle = result)
    (ended : ∀ after, result ≠ some (none, after)) :
    Searched (checkPair dispatch registry) before (pairs.zipIdx start) result := by
  obtain ⟨inside, same⟩ := List.getElem?_eq_some_iff.mp found
  have cut : pairs.zipIdx start = (pairs.take index).zipIdx start ++
      ((spec, value), start + index) :: (pairs.drop (index + 1)).zipIdx (start + index + 1) := by
    have size : (pairs.take index).length = index := List.length_take_of_le (Nat.le_of_lt inside)
    conv => lhs; rw [← List.take_append_drop index pairs, List.drop_eq_getElem_cons inside, same]
    rw [List.zipIdx_append, List.zipIdx_cons, size]
  rw [cut]
  exact .stopped (passes_zipIdx.mpr earlier) tried ended

theorem checkPairs_eq_iff {start : Nat} {pairs : List (Spec × Value)} {result} :
    checkPairs dispatch registry start pairs before = result ↔
      PairsChecked dispatch registry start pairs before result := by
  rw [checkPairs, findSomeM?_eq_iff]
  constructor
  · exact Searched.pairsChecked
  · intro checked
    cases checked with
    | accepted all => exact .passed (passes_zipIdx.mpr all)
    | mismatch found earlier classified unfit =>
      refine stopped_at found earlier ?_ (by simp)
      rw [checkArgument_run, classified]
      simp [unfit]
    | exhausted found earlier nested =>
      refine stopped_at found earlier ?_ (by simp)
      rw [checkArgument_run, nested, Option.map_none]

private theorem checkPairs_position {start : Nat} {pairs : List (Spec × Value)} {refusal after}
    (refused : checkPairs dispatch registry start pairs before = some (some refusal, after)) :
    refusal.position?.isSome = true := by
  cases checkPairs_eq_iff.mp refused with
  | mismatch => rfl

/-- Arguments are out of bounds just when there are too many of them, and then nothing else happens. -/
theorem checkArguments_outOfBounds_iff {signature : Signature} {args : List Value} {position after} :
    checkArguments dispatch registry signature args before = some (some (.outOfBounds position), after) ↔
      surplus? signature args = some position ∧ before = after := by
  rw [checkArguments_eq]
  cases surplus? signature args with
  | some more => simp [pure_run]
  | none =>
    simp only [reduceCtorEq, false_and, iff_false]
    intro refused
    cases checkPairs_eq_iff.mp refused

theorem checkArguments_position {signature : Signature} {args : List Value} {refusal after}
    (refused : checkArguments dispatch registry signature args before = some (some refusal, after)) :
    refusal.position?.isSome = true := by
  rw [checkArguments_eq] at refused
  split at refused
  · cases refused
    rfl
  · exact checkPairs_position refused

end TypeGuard.Proofs
