import Mathlib.Data.List.Forall2
import TypeGuard.Procedures
import TypeGuard.Proofs.ClassificationRun
import TypeGuard.Proofs.DeferredStack

/-! Of a specification nothing but the set of its names matters. Whether a value has one of several tags is
settled by names, and guards whose specifications have the same names at each position refuse the same
arguments at the same point of the same run. Their refusals differ in the specification that they quote. -/

namespace TypeGuard.Proofs

variable {dispatch : Dispatch} {registry : RegistryId} {spec other : Spec} {signature : Signature}

/-- The name of a tag is among those of the others, or it is that of arrays and theirs include that of iterables. -/
def Meets (actual : Tag) (tags : List Tag) : Prop :=
  (∃ tag ∈ tags, tag.name = actual.name) ∨ actual.name = "array" ∧ ∃ tag ∈ tags, tag.name = "iterable"

theorem satisfies_iff {actual : Tag} {tags : List Tag} : actual.satisfies tags = true ↔ Meets actual tags := by
  rw [Tag.satisfies, Bool.or_eq_true, Bool.and_eq_true, List.any_eq_true, List.any_eq_true, or_comm]
  simp only [beq_iff_eq, Tag.same_iff, BuiltinType.name, Meets, eq_comm (a := actual.name)]

theorem hasSomeTag_run (value : Value) (tags : List Tag) :
    (Program.hasSomeTag registry value tags).run dispatch =
      (fun actual => actual.satisfies tags) <$> classify dispatch registry value := by
  rw [Program.hasSomeTag, Program.run_bind, Program.run_request, map_eq_pure_bind]
  rfl

/-- The specifications list the same names, in whatever order, number and kind of tags. -/
def SameNames (spec other : Spec) : Prop :=
  ∀ name, (∃ tag ∈ spec.tags, tag.name = name) ↔ ∃ tag ∈ other.tags, tag.name = name

theorem SameNames.allows_eq (same : SameNames spec other) (actual : Tag) : spec.allows actual = other.allows actual := by
  rw [Bool.eq_iff_iff, Spec.allows, Spec.allows, satisfies_iff, satisfies_iff, Meets, Meets, same actual.name, same "iterable"]

/-- Signatures of one form whose specifications are related at each position. -/
inductive Pointwise (related : Spec → Spec → Prop) : Signature → Signature → Prop
  | positional {specs others : List Spec} (each : List.Forall₂ related specs others) :
      Pointwise related (.positional specs) (.positional others)
  | uniform {spec other : Spec} (each : related spec other) : Pointwise related (.uniform spec) (.uniform other)

namespace Pointwise
variable {related related' : Spec → Spec → Prop} {first second : Signature}

theorem imp (each : Pointwise related first second) (implies : ∀ spec other, related spec other → related' spec other) :
    Pointwise related' first second := by
  cases each with
  | positional each => exact .positional (each.imp implies)
  | uniform each => exact .uniform (implies _ _ each)

theorem surplus?_eq (each : Pointwise related first second) (args : List Value) : surplus? first args = surplus? second args := by
  cases each with
  | uniform => rfl
  | positional each => rw [surplus?, surplus?, each.length_eq]

private theorem zip {specs others : List Spec} (each : List.Forall₂ related specs others) (args : List Value) :
    List.Forall₂ (fun pair pair' => related pair.1 pair'.1 ∧ pair.2 = pair'.2) (specs.zip args) (others.zip args) := by
  induction each generalizing args with
  | nil => exact .nil
  | cons head _ ih =>
    cases args with
    | nil => exact .nil
    | cons value values => exact .cons ⟨head, rfl⟩ (ih values)

theorem paired (each : Pointwise related first second) (args : List Value) :
    List.Forall₂ (fun pair pair' => related pair.1 pair'.1 ∧ pair.2 = pair'.2) (paired first args) (paired second args) := by
  cases each with
  | positional each => exact zip each args
  | uniform each =>
    apply List.forall₂_map_left_iff.mpr
    apply List.forall₂_map_right_iff.mpr
    exact List.forall₂_same.mpr fun value _ => ⟨each, rfl⟩

end Pointwise

def expected? : Signature → Nat → Option Spec
  | .positional specs, position => specs[position]?
  | .uniform spec, _ => some spec

/-- The refusal as the signature tells it: a mismatch quotes the specification that stands there. -/
def respecified (signature : Signature) : Refusal → Refusal
  | .notCallable actual => .notCallable actual
  | .outOfBounds position => .outOfBounds position
  | .mismatch position expected actual => .mismatch position ((expected? signature position).getD expected) actual

theorem expected?_paired {args : List Value} {index : Nat} {pair : Spec × Value}
    (found : (paired signature args)[index]? = some pair) :
    expected? signature index = some pair.1 := by
  cases signature with
  | positional specs => exact (List.getElem?_zip_eq_some.mp found).1
  | uniform spec =>
    rw [paired, List.getElem?_map, Option.map_eq_some_iff] at found
    obtain ⟨value, -, rfl⟩ := found
    rfl

private theorem checkArgument_respecified {position : Nat} (same : SameNames spec other)
    (stated : expected? signature position = some other) (value : Value) :
    checkArgument dispatch registry other position value =
      Option.map (respecified signature) <$> checkArgument dispatch registry spec position value := by
  rw [checkArgument, checkArgument, map_bind]
  congr 1
  funext actual
  rw [same.allows_eq]
  split
  · rfl
  · rw [map_pure, Option.map_some, respecified, stated, Option.getD_some]

private theorem checkPairs_respecified {start : Nat} {pairs others : List (Spec × Value)}
    (each : List.Forall₂ (fun pair pair' => SameNames pair.1 pair'.1 ∧ pair.2 = pair'.2) pairs others)
    (stated : ∀ index pair, others[index]? = some pair → expected? signature (start + index) = some pair.1) :
    checkPairs dispatch registry start others =
      Option.map (respecified signature) <$> checkPairs dispatch registry start pairs := by
  induction each generalizing start with
  | nil => rfl
  | @cons pair pair' pairs others head _ ih =>
    obtain ⟨spec, value⟩ := pair
    obtain ⟨other, value'⟩ := pair'
    obtain ⟨same, rfl⟩ := head
    have here : expected? signature start = some other := stated 0 (other, value) rfl
    have later : ∀ index pair, others[index]? = some pair → expected? signature (start + 1 + index) = some pair.1 := by
      intro index pair found
      rw [Nat.add_right_comm]
      exact stated (index + 1) pair found
    rw [checkPairs_cons, checkPairs_cons, checkArgument_respecified same here, bind_map_left, map_bind]
    congr 1
    funext refused
    cases refused with
    | none => exact ih later
    | some refusal => rfl

theorem checkArguments_respecified {first second : Signature} (same : Pointwise SameNames first second) (args : List Value) :
    checkArguments dispatch registry second args =
      Option.map (respecified second) <$> checkArguments dispatch registry first args := by
  rw [checkArguments_eq, checkArguments_eq, same.surplus?_eq]
  split
  · rfl
  · apply checkPairs_respecified (same.paired args)
    intro index pair found
    rw [Nat.zero_add]
    exact expected?_paired found

/-- The actions make the same checks and go on alike behind them. What the second one reports of a refusal is what the
first one does, but for the specification that it quotes. -/
def RefuseAlike {α : Type} (signature : Signature) (report : Refusal → α) (checks : Action (Option Refusal))
    (first second : Action α) : Prop :=
  ∃ target, first = checks >>= beneath report target ∧ second = checks >>= beneath (report ∘ respecified signature) target

theorem refuseAlike {α : Type} {report : Refusal → α} {checks checks' : Action (Option Refusal)} {target first second : Action α}
    (same : checks' = Option.map (respecified signature) <$> checks) (began : first = checks >>= beneath report target)
    (began' : second = checks' >>= beneath report target) : RefuseAlike signature report checks first second := by
  refine ⟨target, began, ?_⟩
  rw [began', same, bind_map_left]
  congr 1
  funext refused
  cases refused <;> rfl

def asFunction (identity : Identity) (guard : Guard) : Callable :=
  .guarded identity guard.signature guard.registry guard.target

theorem call_beneath (guard : Guard) (args : List Value) :
    guard.call dispatch args = guard.check dispatch args >>= beneath (fun refusal => .error (.refused refusal))
      ((·.mapError CallError.failed) <$> invoke dispatch guard.target args) := rfl

def launched (dispatch : Dispatch) (target : Callable) (args : List Value) : Action Launched :=
  match target.kind with
  | .sync => do return .completed ((← runSync dispatch target args).mapError .failed)
  | .async => do return .pending (← Action.defer (beginRoutine dispatch target args))

theorem launch_beneath (guard : Guard) (args : List Value) :
    guard.launch dispatch args = guard.check dispatch args >>=
      beneath (fun refusal => .completed (.error (.refused refusal))) (launched dispatch guard.target args) := rfl

/-- The other guard does what the first one does, whether it checks, is called or launched, or runs as a function at once
or when its promise is polled. Where it refuses it quotes a specification of its own. -/
structure Interchangeable (dispatch : Dispatch) (guard other : Guard) : Prop where
  check : ∀ args, other.check dispatch args = Option.map (respecified other.signature) <$> guard.check dispatch args
  call : ∀ args, RefuseAlike other.signature (fun refusal => .error (.refused refusal)) (guard.check dispatch args)
    (guard.call dispatch args) (other.call dispatch args)
  launch : ∀ args, RefuseAlike other.signature (fun refusal => .completed (.error (.refused refusal)))
    (guard.check dispatch args) (guard.launch dispatch args) (other.launch dispatch args)
  run : ∀ identity identity' args, RefuseAlike other.signature reported (guard.check dispatch args)
    (runSync dispatch (asFunction identity guard) args) (runSync dispatch (asFunction identity' other) args)
  advance : ∀ identity identity' args, RefuseAlike other.signature refusing (guard.check dispatch args)
    ((beginRoutine dispatch (asFunction identity guard) args).advance dispatch)
    ((beginRoutine dispatch (asFunction identity' other) args).advance dispatch)

theorem interchangeable {first second : Signature} (target : Callable) (same : Pointwise SameNames first second) :
    Interchangeable dispatch ⟨first, registry, target⟩ ⟨second, registry, target⟩ where
  check := checkArguments_respecified same
  call args := refuseAlike (checkArguments_respecified same args) (call_beneath _ args) (call_beneath _ args)
  launch args := refuseAlike (checkArguments_respecified same args) (launch_beneath _ args) (launch_beneath _ args)
  run identity identity' args := refuseAlike (checkArguments_respecified same args)
    (runSync_guarded ⟨identity, first, registry⟩ target) (runSync_guarded ⟨identity', second, registry⟩ target)
  advance identity identity' args := refuseAlike (checkArguments_respecified same args)
    (advance_guarded dispatch ⟨identity, first, registry⟩ target) (advance_guarded dispatch ⟨identity', second, registry⟩ target)

/-- Whether a value has one of several tags, or fits a specification, is settled by the name of its classification and
the names of the tags. So guards whose specifications have the same names at each position can stand for one another:
from the same world they make the same checks, accept or refuse the same arguments, the latter at the same position
and for the same tag, and leave the same world. This holds for all checks, also for those that keep a record of how
they are called. -/
theorem names_decide (dispatch : Dispatch) (registry : RegistryId) :
    (∀ value tags before answer after,
      (Program.hasSomeTag registry value tags).run dispatch before = some (answer, after) ↔
        ∃ actual, classify dispatch registry value before = some (actual, after) ∧ (answer = true ↔ Meets actual tags)) ∧
    (∀ value spec before answer after,
      (Program.fits registry value spec).run dispatch before = some (answer, after) ↔
        ∃ actual, classify dispatch registry value before = some (actual, after) ∧ (answer = true ↔ Meets actual spec.tags)) ∧
    ∀ first second target, Pointwise SameNames first second →
      Interchangeable dispatch ⟨first, registry, target⟩ ⟨second, registry, target⟩ := by
  have named : ∀ value tags before answer after,
      (Program.hasSomeTag registry value tags).run dispatch before = some (answer, after) ↔
        ∃ actual, classify dispatch registry value before = some (actual, after) ∧ (answer = true ↔ Meets actual tags) := by
    intro value tags before answer after
    rw [hasSomeTag_run, map_run, Option.map_eq_some_iff]
    constructor
    · rintro ⟨⟨actual, middle⟩, classified, same⟩
      cases same
      exact ⟨actual, classified, satisfies_iff⟩
    · rintro ⟨actual, classified, meets⟩
      refine ⟨(actual, after), classified, ?_⟩
      rw [← satisfies_iff, ← Bool.eq_iff_iff] at meets
      rw [meets]
  exact ⟨named, fun value spec => named value spec.tags, fun first second target => interchangeable target⟩

/-- A check that registers another one runs first. The tags of the other guard are twice the same, differ in kind and
stand in another order. -/
theorem names_decide_other_tags :
    let dispatch := registeringChecks.host.dispatch 1
    let first : Signature := .positional [.single (.builtin .string), .choice [.builtin .number, .builtin .array]]
    let plural : Spec := .choice [.custom ⟨"array"⟩, .ofName "number", .builtin .array]
    let second : Signature := .positional [.choice [.custom ⟨"string"⟩], plural]
    let args : List Value := [.string "x", .null]
    Pointwise SameNames first second ∧ ∃ after,
      (Guard.mk first .shared (.host .sync "f" ⟨0⟩)).check dispatch args earlyRegistered =
        some (some (.mismatch 1 (.choice [.builtin .number, .builtin .array]) (.builtin .null)), after) ∧
      (Guard.mk second .shared (.host .sync "f" ⟨0⟩)).check dispatch args earlyRegistered =
        some (some (.mismatch 1 plural (.builtin .null)), after) := by
  intro dispatch first plural second args
  have same : Pointwise SameNames first second := by
    refine .positional (.cons ?_ (.cons ?_ .nil))
    · intro name
      simp [Spec.tags, Tag.name, BuiltinType.name]
    · intro name
      simp [Spec.tags, Tag.name, BuiltinType.name, plural]
      tauto
  obtain ⟨after, checked⟩ : ∃ after, (Guard.mk first .shared (.host .sync "f" ⟨0⟩)).check dispatch args earlyRegistered =
      some (some (.mismatch 1 (.choice [.builtin .number, .builtin .array]) (.builtin .null)), after) := ⟨_, rfl⟩
  have alike := ((names_decide dispatch .shared).2.2 first second (.host .sync "f" ⟨0⟩) same).check args
  refine ⟨same, after, checked, ?_⟩
  rw [alike, map_run, checked]
  rfl

end TypeGuard.Proofs
