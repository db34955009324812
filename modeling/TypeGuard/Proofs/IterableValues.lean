import TypeGuard.Proofs.AllowedNames
import TypeGuard.Proofs.RegistrationEffect

/-! Passing for an iterable and producing items come to the same. That takes a registry in which no custom type stands
under arrays or iterables and none is named like them; what else is registered, and what checks do, makes no
difference. -/

namespace TypeGuard.Proofs

variable {dispatch : Dispatch} {registry : RegistryId} {value : Value} {before after : World}

/-- No custom type refines arrays or iterables, and none is named like one of them. -/
structure Unshadowed (registry : Registry) : Prop where
  arrays : registry.tagsUnder .array = []
  iterables : registry.tagsUnder .iterable = []
  named : ∀ root, ∀ tag ∈ registry.tagsUnder root, tag.name ≠ "array" ∧ tag.name ≠ "iterable"

/-- It is registrations, whoever makes them, that shadow arrays and iterables. -/
theorem unshadowed_taken_iff {id : RegistryId} {settings : Registry.Settings} (opened : id.index < before.opened)
    (configured : before.registries id = .ofSettings settings) (steps : List Step) :
    Unshadowed ((taken before steps).registries id) ↔
      ∀ root tag check, Operation.register root tag check ∈ operations id steps →
        (root ≠ .array ∧ root ≠ .iterable) ∧ tag.name ≠ "array" ∧ tag.name ≠ "iterable" := by
  have placed : ∀ root tag, tag ∈ ((taken before steps).registries id).tagsUnder root ↔
      ∃ check, Operation.register root tag check ∈ operations id steps := by
    intro root tag
    have record := recorded settings (operations id steps)
    rw [registries_taken opened, configured, ← performed, ← record.complete, record.listed]
  have unrefined : ∀ root, ((taken before steps).registries id).tagsUnder root = [] ↔
      ∀ tag check, Operation.register root tag check ∉ operations id steps := by
    intro root
    rw [List.eq_nil_iff_forall_not_mem]
    simp only [placed, not_exists]
  constructor
  · intro unshadowed root tag check registered
    refine ⟨⟨?_, ?_⟩, unshadowed.named root tag ((placed root tag).mpr ⟨check, registered⟩)⟩
    · rintro rfl
      exact (unrefined .array).mp unshadowed.arrays tag check registered
    · rintro rfl
      exact (unrefined .iterable).mp unshadowed.iterables tag check registered
  · intro harmless
    refine ⟨(unrefined .array).mpr ?_, (unrefined .iterable).mpr ?_, ?_⟩
    · intro tag check registered
      exact (harmless .array tag check registered).1.1 rfl
    · intro tag check registered
      exact (harmless .iterable tag check registered).1.2 rfl
    · intro root tag member
      obtain ⟨check, registered⟩ := (placed root tag).mp member
      exact (harmless root tag check registered).2

theorem items?_isSome_iff : value.items?.isSome = true ↔ value.builtinType = .array ∨ value.builtinType = .iterable := by
  cases value with
  | function callable => cases kind : callable.kind <;> simp [Value.items?, Value.builtinType, kind]
  | _ => simp [Value.items?, Value.builtinType]

theorem satisfies_iterable_iff {actual : Tag} :
    actual.satisfies [.builtin .iterable] = true ↔ actual.name = "array" ∨ actual.name = "iterable" := by
  rw [satisfies_iff, Meets, or_comm]
  simp [Tag.name, BuiltinType.name, eq_comm]

theorem classified_under {actual : Tag} (named : classify dispatch registry value before = some (actual, after)) :
    actual = .builtin value.builtinType ∨
      ∃ tag ∈ (before.registries registry).tagsUnder value.builtinType, actual = .custom tag := by
  rw [classify_eq_iff] at named
  generalize stood : (before.registries registry).refinements value.builtinType = entries at named
  cases named with
  | builtin => exact .inl rfl
  | @custom earlier tag check later =>
    have member : (tag, check) ∈ (before.registries registry).refinements value.builtinType := by simp [stood]
    exact .inr ⟨tag, (Registry.mem_refinements.mp member).1, rfl⟩

theorem classify_unrefined (none : (before.registries registry).tagsUnder value.builtinType = []) :
    classify dispatch registry value before = some (.builtin value.builtinType, before) := by
  rw [classify_eq_iff, Registry.refinements, none]
  exact .builtin .nil

section Unshadowed
variable (unshadowed : Unshadowed (before.registries registry))
include unshadowed

theorem satisfies_iterable_eq {actual : Tag} (named : classify dispatch registry value before = some (actual, after)) :
    actual.satisfies [.builtin .iterable] = value.items?.isSome := by
  rw [Bool.eq_iff_iff, satisfies_iterable_iff, items?_isSome_iff]
  rcases classified_under named with rfl | ⟨tag, member, rfl⟩
  · have builtin : ∀ type : BuiltinType, type.name = "array" ∨ type.name = "iterable" ↔ type = .array ∨ type = .iterable := by
      intro type
      cases type <;> decide
    exact builtin value.builtinType
  · obtain ⟨array, iterable⟩ := unshadowed.named _ tag member
    refine ⟨fun shadows => absurd shadows (not_or.mpr ⟨array, iterable⟩), ?_⟩
    rintro (type | type)
    · rw [type, unshadowed.arrays] at member
      cases member
    · rw [type, unshadowed.iterables] at member
      cases member

theorem classify_iterable (produces : value.items?.isSome = true) :
    classify dispatch registry value before = some (.builtin value.builtinType, before) := by
  apply classify_unrefined
  rcases items?_isSome_iff.mp produces with type | type
  · rw [type, unshadowed.arrays]
  · rw [type, unshadowed.iterables]

theorem hasSomeTag_iterable (value : Value) :
    (Program.hasSomeTag registry value [.builtin .iterable]).run dispatch before =
      (classify dispatch registry value before).map fun named => (value.items?.isSome, named.2) := by
  rw [hasSomeTag_run, map_run]
  refine Option.map_congr fun named classified => ?_
  rw [satisfies_iterable_eq unshadowed classified]

end Unshadowed

/-- Each specification of the signature lists the name of iterables and no other one. -/
def ForIterables (signature : Signature) : Prop :=
  ∀ spec ∈ declared signature, SameNames spec (.single (.builtin .iterable))

/-- An argument that produces items passes at once and without an effect. Any other one is refused if its classification
comes to an end. -/
private theorem checkArgument_iterable (unshadowed : Unshadowed (before.registries registry)) {spec : Spec}
    (iterables : SameNames spec (.single (.builtin .iterable))) (position : Nat) (value : Value) :
    checkArgument dispatch registry spec position value before =
      if value.items?.isSome then some (none, before)
      else (classify dispatch registry value before).map fun named => (some (.mismatch position spec named.1), named.2) := by
  have allows : ∀ {actual after}, classify dispatch registry value before = some (actual, after) →
      spec.allows actual = value.items?.isSome := by
    intro actual after named
    rw [iterables.allows_eq]
    exact satisfies_iterable_eq unshadowed named
  rw [checkArgument_run]
  cases produces : value.items?.isSome with
  | true =>
    have named : classify dispatch registry value before = some (.builtin value.builtinType, before) :=
      classify_iterable unshadowed produces
    rw [named, Option.map_some, allows named, produces]
    rfl
  | false =>
    refine Option.map_congr fun named classified => ?_
    rw [allows classified, produces]
    rfl

private theorem checkPairs_iterable_iff (unshadowed : Unshadowed (before.registries registry)) {pairs : List (Spec × Value)}
    (iterables : ∀ pair ∈ pairs, SameNames pair.1 (.single (.builtin .iterable))) (start : Nat) :
    checkPairs dispatch registry start pairs before = some (none, after) ↔
      (∀ pair ∈ pairs, pair.2.items?.isSome = true) ∧ after = before := by
  induction pairs generalizing start with
  | nil =>
    have nothing : checkPairs dispatch registry start [] before = some (none, before) := rfl
    simpa [nothing] using eq_comm
  | cons pair pairs ih =>
    obtain ⟨spec, value⟩ := pair
    rw [checkPairs_cons, bind_run, checkArgument_iterable unshadowed (iterables _ List.mem_cons_self)]
    cases produces : value.items?.isSome with
    | true =>
      rw [if_pos rfl, Option.bind_some]
      refine (ih (fun pair member => iterables pair (List.mem_cons_of_mem _ member)) (start + 1)).trans ?_
      simp [produces]
    | false =>
      rw [if_neg Bool.false_ne_true]
      cases classify dispatch registry value before <;> simp [produces, pure_run]

theorem check_iterables_iff (unshadowed : Unshadowed (before.registries registry)) {signature : Signature}
    (iterables : ForIterables signature) {args : List Value} (within : surplus? signature args = none) :
    checkArguments dispatch registry signature args before = some (none, after) ↔
      (∀ arg ∈ args, arg.items?.isSome = true) ∧ after = before := by
  have each : (∀ arg ∈ (paired signature args).map Prod.snd, arg.items?.isSome = true) ↔
      ∀ pair ∈ paired signature args, pair.2.items?.isSome = true := List.forall_mem_map
  rw [paired_args within] at each
  rw [checkArguments_eq, within, each]
  exact checkPairs_iterable_iff unshadowed (fun pair member => iterables pair.1 (declared_of_paired member)) 0

/-- Where neither arrays nor iterables are shadowed, a value passes for an iterable just when it produces items. The
question ends as the classification of the value does, and for an iterable it ends at once and without an effect. So
do the checks of a guard for iterables, by position or for all arguments alike: unless there are too many arguments,
they accept them just when all of them produce items. -/
theorem iterable_iff_items (dispatch : Dispatch) (registry : RegistryId) {before : World}
    (unshadowed : Unshadowed (before.registries registry)) :
    (∀ value, (Program.hasSomeTag registry value [.builtin .iterable]).run dispatch before =
      (classify dispatch registry value before).map fun named => (value.items?.isSome, named.2)) ∧
    (∀ value after, (Program.hasSomeTag registry value [.builtin .iterable]).run dispatch before = some (true, after) ↔
      value.items?.isSome = true ∧ after = before) ∧
    ∀ signature target args, ForIterables signature → surplus? signature args = none → ∀ after,
      (Guard.mk signature registry target).check dispatch args before = some (none, after) ↔
        (∀ arg ∈ args, arg.items?.isSome = true) ∧ after = before := by
  refine ⟨hasSomeTag_iterable unshadowed, fun value after => ?_, ?_⟩
  · rw [hasSomeTag_iterable unshadowed]
    cases produces : value.items?.isSome with
    | true =>
      rw [classify_iterable unshadowed produces]
      simp [eq_comm]
    | false => simp
  · intro signature target args iterables within after
    exact check_iterables_iff unshadowed iterables within

/-- Objects and texts have custom types that take all of them. -/
def otherRoots : List Step :=
  [.operate .shared (.register .object ⟨"tag"⟩ ⟨1⟩), .operate .shared (.register .string ⟨"other"⟩ ⟨2⟩)]

theorem iterable_iff_items_other_roots :
    let dispatch := claimingChecks.host.dispatch 1
    let world := taken World.start otherRoots
    let signature : Signature := .positional [.single (.builtin .iterable), .choice [.custom ⟨"iterable"⟩, .builtin .iterable]]
    let guard : Guard := ⟨signature, .shared, .host .sync "f" ⟨0⟩⟩
    Unshadowed (world.registries .shared) ∧ ForIterables signature ∧
      guard.check dispatch [.array [], .map []] world = some (none, world) ∧
      (∀ after, guard.check dispatch [.set [], .object []] world ≠ some (none, after)) ∧
      (Program.hasSomeTag .shared (.generator ⟨0⟩) [.builtin .iterable]).run dispatch world = some (true, world) := by
  intro dispatch world signature guard
  have unshadowed : Unshadowed (world.registries .shared) := by
    apply (unshadowed_taken_iff (by decide) rfl otherRoots).mpr
    intro root tag check registered
    have among : Operation.register root tag check ∈
      [Operation.register .object ⟨"tag"⟩ ⟨1⟩, Operation.register .string ⟨"other"⟩ ⟨2⟩] := registered
    simp only [List.mem_cons, Operation.register.injEq, List.not_mem_nil, or_false] at among
    rcases among with ⟨rfl, rfl, rfl⟩ | ⟨rfl, rfl, rfl⟩ <;> decide
  have iterables : ForIterables signature := by
    intro spec member
    simp only [signature, declared, List.mem_cons, List.not_mem_nil, or_false] at member
    rcases member with rfl | rfl <;> simp [SameNames, Spec.tags, Tag.name, BuiltinType.name]
  obtain ⟨-, asked, checked⟩ := iterable_iff_items dispatch .shared unshadowed
  refine ⟨unshadowed, iterables, ?_, ?_, ?_⟩
  · exact (checked signature guard.target [.array [], .map []] iterables rfl world).mpr ⟨by simp [Value.items?], rfl⟩
  · intro after accepted
    have each := ((checked signature guard.target [.set [], .object []] iterables rfl after).mp accepted).1
    simp [Value.items?] at each
  · exact (asked (.generator ⟨0⟩) world).mpr ⟨rfl, rfl⟩

end TypeGuard.Proofs
