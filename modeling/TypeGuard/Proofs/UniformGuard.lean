import TypeGuard.Proofs.GuardLaunch
import TypeGuard.Script.Library

/-! A guard with one specification for all arguments. It behaves as a guard that has that specification at
enough positions, and checks a longer list as it checks the parts of the list one after the other. -/

namespace TypeGuard.Proofs

variable {dispatch : Dispatch} {registry : RegistryId} {spec : Spec} {args : List Value} {before : World}

private theorem zip_replicate_left {α β : Type} (a : α) {bs : List β} {n : Nat} (enough : bs.length ≤ n) :
    (List.replicate n a).zip bs = bs.map (a, ·) := by
  induction bs generalizing n with
  | nil => rw [List.zip_nil_right, List.map_nil]
  | cons b bs ih =>
    obtain ⟨n, rfl⟩ := Nat.exists_eq_add_of_le' (Nat.lt_of_lt_of_le (Nat.succ_pos _) enough)
    rw [List.replicate_succ, List.zip_cons_cons, List.map_cons, ih (Nat.le_of_succ_le_succ enough)]

theorem checkPositions_replicate {n : Nat} (enough : args.length ≤ n) :
    checkPositions dispatch registry (List.replicate n spec) args = checkUniform dispatch registry spec args := by
  have fits : ¬ (List.replicate n spec).length < args.length := by
    rw [List.length_replicate]
    exact Nat.not_lt_of_le enough
  rw [checkPositions, if_neg fits, checkEach_eq, zip_replicate_left spec enough, checkUniform, checkRest_eq]

def movedOn (distance : Nat) : Refusal → Refusal
  | .notCallable actual => .notCallable actual
  | .outOfBounds position => .outOfBounds (distance + position)
  | .mismatch position expected actual => .mismatch (distance + position) expected actual

private theorem checkArgument_moved (distance position : Nat) (value : Value) :
    checkArgument dispatch registry spec (distance + position) value =
      Option.map (movedOn distance) <$> checkArgument dispatch registry spec position value := by
  rw [checkArgument, checkArgument, map_bind]
  congr 1
  funext actual
  split <;> rfl

private theorem checkPairs_moved (distance start : Nat) (pairs : List (Spec × Value)) :
    checkPairs dispatch registry (distance + start) pairs =
      Option.map (movedOn distance) <$> checkPairs dispatch registry start pairs := by
  induction pairs generalizing start with
  | nil => rfl
  | cons pair pairs ih =>
    obtain ⟨spec, value⟩ := pair
    rw [checkPairs_cons, checkPairs_cons, checkArgument_moved, bind_map_left, map_bind]
    congr 1
    funext refused
    cases refused with
    | none => exact ih (start + 1)
    | some refusal => rfl

private theorem checkPairs_append (start : Nat) (front rest : List (Spec × Value)) :
    checkPairs dispatch registry start (front ++ rest) = checkPairs dispatch registry start front >>= fun
      | some refusal => pure (some refusal)
      | none => checkPairs dispatch registry (start + front.length) rest := by
  rw [checkPairs, List.zipIdx_append, findSomeM?_append]
  congr 1
  funext refused
  cases refused <;> rfl

theorem checkUniform_append (front rest : List Value) :
    checkUniform dispatch registry spec (front ++ rest) = checkUniform dispatch registry spec front >>= fun
      | some refusal => pure (some refusal)
      | none => Option.map (movedOn front.length) <$> checkUniform dispatch registry spec rest := by
  simp only [checkUniform, checkRest_eq, List.map_append]
  rw [checkPairs_append]
  congr 1
  funext refused
  cases refused with
  | some refusal => rfl
  | none =>
    rw [← checkPairs_moved, List.length_map]
    simp only [Nat.zero_add, Nat.add_zero]

private theorem checkUniform_inBounds (position : Nat) (after : World) :
    checkArguments dispatch registry (.uniform spec) args before ≠ some (some (.outOfBounds position), after) := by
  intro refused
  cases (checkArguments_outOfBounds_iff.mp refused).1

/-- A guard with one specification for all arguments behaves on any of them as a guard with that
specification at so many positions or more, whether it checks, is called or is launched. It never reports
an argument out of bounds, and it checks two lists put together as it checks the one and then, if that
is accepted, the other, whose positions are counted on. -/
theorem uniform_guard_repeats (dispatch : Dispatch) (registry : RegistryId) (spec : Spec) (target : Callable)
    (args : List Value) (n : Nat) (enough : args.length ≤ n) :
    let uniform : Guard := ⟨.uniform spec, registry, target⟩
    let positional : Guard := ⟨.positional (List.replicate n spec), registry, target⟩
    uniform.check dispatch args = positional.check dispatch args ∧
    uniform.call dispatch args = positional.call dispatch args ∧
    uniform.launch dispatch args = positional.launch dispatch args ∧
    (∀ before position after,
      uniform.check dispatch args before ≠ some (some (.outOfBounds position), after) ∧
      uniform.call dispatch args before ≠ some (.error (.refused (.outOfBounds position)), after) ∧
      uniform.launch dispatch args before ≠ some (.completed (.error (.refused (.outOfBounds position))), after)) ∧
    ∀ front rest : List Value,
      checkUniform dispatch registry spec (front ++ rest) = checkUniform dispatch registry spec front >>= fun
        | some refusal => pure (some refusal)
        | none => Option.map (movedOn front.length) <$> checkUniform dispatch registry spec rest := by
  intro uniform positional
  have checks : uniform.check dispatch args = positional.check dispatch args :=
    (checkPositions_replicate enough).symm
  have same : uniform.target = positional.target := rfl
  obtain ⟨calls, launches⟩ := call_launch_congr same checks
  refine ⟨checks, calls, launches, ?_, checkUniform_append⟩
  intro before position after
  have inBounds : uniform.check dispatch args before ≠ some (some (.outOfBounds position), after) :=
    checkUniform_inBounds position after
  exact ⟨inBounds, mt call_refused_iff.mp inBounds, mt launch_refused_iff.mp inBounds⟩

/-- The second argument is no text; a third one would be checked alike. -/
theorem uniform_guard_repeats_spare_position :
    let text : Spec := .single (.builtin .string)
    let dispatch := ({} : Script.Library).host.dispatch 1
    let args : List Value := [.string "x", .null]
    args.length ≤ 3 ∧
      (Guard.mk (.positional (List.replicate 3 text)) .shared (.host .sync "f" ⟨0⟩)).call dispatch args .start =
        some (.error (.refused (.mismatch 1 text (.builtin .null))), .start) := by
  intro text dispatch args
  have enough : args.length ≤ 3 := by decide
  have calls := (uniform_guard_repeats dispatch .shared text (.host .sync "f" ⟨0⟩) args 3 enough).2.1
  refine ⟨enough, ?_⟩
  rw [← calls]
  rfl

end TypeGuard.Proofs
