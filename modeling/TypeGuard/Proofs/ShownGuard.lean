import TypeGuard.Proofs.PositionalGuard
import TypeGuard.Proofs.RegistrationEffect
import TypeGuard.Proofs.ShownSignature

/-! Guards that show alike accept alike. Whether a guard shows no position or one without a tag, it accepts nothing but
the empty list of arguments; in all other cases guards that show alike make the same checks. -/

namespace TypeGuard.Proofs

variable {dispatch : Dispatch} {registry : RegistryId} {signature first second : Signature} {args : List Value}
  {before after : World}

theorem Listed.sameNames {spec other : Spec} (listed : Listed spec other) : SameNames spec other := by
  intro name
  rw [← List.mem_map, ← List.mem_map, listed]

private theorem accepted_untagged_iff {specs : List Spec} (untagged : ∀ spec ∈ specs, spec.tags = []) :
    checkArguments dispatch registry (.positional specs) args before = some (none, after) ↔ args = [] ∧ before = after := by
  change checkPositions dispatch registry specs args before = _ ↔ _
  rw [checkPositions_eq_iff]
  constructor
  · intro checked
    cases checked with
    | accepted fits all =>
      cases args with
      | nil =>
        rw [List.zip_nil_right] at all
        cases all
        exact ⟨rfl, rfl⟩
      | cons value values =>
        cases specs with
        | nil => exact absurd fits (Nat.not_succ_le_zero _)
        | cons spec specs =>
          cases all with
          | cons met rest =>
            obtain ⟨actual, -, allowed⟩ := met
            rw [Spec.allows, untagged spec List.mem_cons_self, Tag.satisfies] at allowed
            simp at allowed
  · rintro ⟨rfl, rfl⟩
    refine .accepted (Nat.zero_le _) ?_
    rw [List.zip_nil_right]
    exact .nil

theorem ShownAlike.accepted_iff (alike : ShownAlike first second) :
    checkArguments dispatch registry first args before = some (none, after) ↔
      checkArguments dispatch registry second args before = some (none, after) := by
  have nowhere : ∀ spec ∈ ([] : List Spec), spec.tags = [] := fun spec member => absurd member List.not_mem_nil
  have single : ∀ {spec : Spec}, spec.tags = [] → ∀ each ∈ [spec], each.tags = [] := by
    intro spec none each member
    rw [List.mem_singleton.mp member, none]
  cases alike with
  | untagged none => rw [accepted_untagged_iff nowhere, accepted_untagged_iff (single none)]
  | untagged' none => rw [accepted_untagged_iff nowhere, accepted_untagged_iff (single none)]
  | listed each =>
    rw [checkArguments_respecified (each.imp fun _ _ => Listed.sameNames), map_run, Option.map_eq_some_iff]
    constructor
    · intro accepted
      exact ⟨(none, after), accepted, rfl⟩
    · rintro ⟨⟨refused, last⟩, checked, same⟩
      cases refused with
      | none =>
        cases same
        exact checked
      | some refusal => cases same

theorem ShownAlike.isPositional_eq (alike : ShownAlike first second) : first.isPositional = second.isPositional := by
  cases alike with
  | untagged | untagged' => rfl
  | listed each => cases each <;> rfl

/-- The checks of a registry answer by the value alone as long as the registry stays as it is, and they leave it so. -/
def PureChecks (dispatch : Dispatch) (answers : CheckId → Value → Option CustomType) (id : RegistryId) (registry : Registry) :
    Prop :=
  ∀ type, ∀ entry ∈ registry.refinements type, ∀ value before, before.registries id = registry →
    ∃ after, dispatch.check entry.2 value before = some (answers entry.2 value, after) ∧ after.registries id = registry

def nameIn (answers : CheckId → Value → Option CustomType) (registry : Registry) (value : Value) : Tag :=
  nameBy answers value (registry.refinements value.builtinType)

section Pure
variable {answers : CheckId → Value → Option CustomType} {id : RegistryId} {registry : Registry}

private theorem checkArgument_pure (pure : PureChecks dispatch answers id registry) (held : before.registries id = registry)
    (spec : Spec) (position : Nat) (value : Value) :
    ∃ after, checkArgument dispatch id spec position value before =
      some (if spec.allows (nameIn answers registry value) then none
        else some (.mismatch position spec (nameIn answers registry value)), after) ∧ after.registries id = registry := by
  have settled : ∀ entry ∈ (before.registries id).refinements value.builtinType, ∀ start, start.registries id = registry →
      ∃ final, dispatch.check entry.2 value start = some (answers entry.2 value, final) ∧ final.registries id = registry := by
    rw [held]
    exact fun entry member => pure _ entry member value
  obtain ⟨after, named, still⟩ := classify_settled settled held
  rw [held, ← nameIn] at named
  refine ⟨after, ?_, still⟩
  rw [checkArgument_run, named, Option.map_some]

private theorem checkPairs_pure (pure : PureChecks dispatch answers id registry) (held : before.registries id = registry)
    (start : Nat) (pairs : List (Spec × Value)) :
    ∃ refused after, checkPairs dispatch id start pairs before = some (refused, after) ∧
      (refused = none ↔ ∀ pair ∈ pairs, pair.1.allows (nameIn answers registry pair.2) = true) := by
  induction pairs generalizing start before with
  | nil => exact ⟨none, before, rfl, by simp⟩
  | cons pair pairs ih =>
    obtain ⟨spec, value⟩ := pair
    obtain ⟨middle, checked, still⟩ := checkArgument_pure pure held spec start value
    rw [checkPairs_cons, bind_run, checked, Option.bind_some]
    cases allowed : spec.allows (nameIn answers registry value) with
    | true =>
      obtain ⟨refused, after, ran, none_iff⟩ := ih still (start + 1)
      exact ⟨refused, after, ran, by simp [none_iff, allowed]⟩
    | false => exact ⟨_, middle, rfl, by simp [allowed]⟩

def Admitted (answers : CheckId → Value → Option CustomType) (registry : Registry) (signature : Signature) (args : List Value) :
    Prop :=
  surplus? signature args = none ∧
    ∀ pair ∈ paired signature args, pair.1.allows (nameIn answers registry pair.2) = true

/-- Where checks are pure, the state of the registry settles which arguments are accepted, and checking them always comes
to an end. -/
theorem checkArguments_pure (pure : PureChecks dispatch answers id registry) (held : before.registries id = registry)
    (signature : Signature) (args : List Value) :
    ∃ refused after, checkArguments dispatch id signature args before = some (refused, after) ∧
      (refused = none ↔ Admitted answers registry signature args) := by
  rw [checkArguments_eq, Admitted]
  cases surplus? signature args with
  | some position => exact ⟨_, before, rfl, by simp⟩
  | none =>
    obtain ⟨refused, after, ran, none_iff⟩ := checkPairs_pure pure held 0 (paired signature args)
    exact ⟨refused, after, ran, by simp [none_iff]⟩

private theorem accepted_pure_iff (pure : PureChecks dispatch answers id registry) (held : before.registries id = registry) :
    (∃ after, checkArguments dispatch id signature args before = some (none, after)) ↔
      Admitted answers registry signature args := by
  obtain ⟨refused, after, checked, none_iff⟩ := checkArguments_pure pure held signature args
  rw [← none_iff]
  constructor
  · rintro ⟨last, accepted⟩
    rw [checked] at accepted
    cases accepted
    rfl
  · rintro rfl
    exact ⟨after, checked⟩

end Pure

/-- What a guard shows tells which arguments it accepts. Two guards on one registry that show the same text, all names of
tags being plain, have functions of the same name and check arguments in the same way: by position, or all alike. From
the same world both accept the same arguments, whatever the checks do. Where checks are pure, each of them decides on
any arguments in every world that has the registry in the same state, and both decide alike. -/
theorem shown_alike_accept_alike (dispatch : Dispatch) {guard other : Guard} (together : guard.registry = other.registry)
    (plain : Plain guard.signature) (plain' : Plain other.signature) (shown : guard.text = other.text) :
    guard.name = other.name ∧ guard.signature.isPositional = other.signature.isPositional ∧
    (∀ args before after,
      guard.check dispatch args before = some (none, after) ↔ other.check dispatch args before = some (none, after)) ∧
    ∀ answers registry, PureChecks dispatch answers guard.registry registry → ∀ args before before',
      before.registries guard.registry = registry → before'.registries guard.registry = registry →
      ∃ refused after refused' after', guard.check dispatch args before = some (refused, after) ∧
        other.check dispatch args before' = some (refused', after') ∧ (refused = none ↔ refused' = none) := by
  obtain ⟨name, alike⟩ := (guard_text_eq_iff plain plain').mp shown
  obtain ⟨first, id, target⟩ := guard
  obtain ⟨second, id', target'⟩ := other
  obtain rfl : id = id' := together
  have accepted : ∀ args before after, checkArguments dispatch id first args before = some (none, after) ↔
      checkArguments dispatch id second args before = some (none, after) := fun args before after => alike.accepted_iff
  refine ⟨name, alike.isPositional_eq, accepted, ?_⟩
  intro answers registry pure args before before' held held'
  obtain ⟨refused, after, checked, none_iff⟩ := checkArguments_pure pure held first args
  obtain ⟨refused', after', checked', none_iff'⟩ := checkArguments_pure pure held' second args
  refine ⟨refused, after, refused', after', checked, checked', ?_⟩
  rw [none_iff, none_iff', ← accepted_pure_iff pure held, ← accepted_pure_iff pure held]
  exact exists_congr (accepted args before)

def claimedTexts : World :=
  World.start.register .shared .string ⟨"tag"⟩ ⟨1⟩

/-- The name of the functions has a bracket of its own, one guard has single tags where the other one has choices, and the
last position of both is empty. What the first guard accepts, the second one accepts in a later world. -/
theorem shown_alike_accept_alike_choices :
    let dispatch := claimingChecks.host.dispatch 1
    let first : Signature := .positional [.single (.builtin .null), .single (.custom ⟨"tag"⟩), .choice []]
    let second : Signature := .positional [.choice [.custom ⟨"null"⟩], .choice [.custom ⟨"tag"⟩], .choice []]
    let guard : Guard := ⟨first, .shared, .host .sync "f(" ⟨0⟩⟩
    let other : Guard := ⟨second, .shared, .host .async "f(" ⟨1⟩⟩
    let later := claimedTexts.record (.note "later")
    guard.registry = other.registry ∧ Plain first ∧ Plain second ∧ guard.text = other.text ∧
      PureChecks dispatch claimed .shared (claimedTexts.registries .shared) ∧
      (∃ after, guard.check dispatch [.null, .string "x"] claimedTexts = some (none, after)) ∧
      ∃ after, other.check dispatch [.null, .string "x"] later = some (none, after) := by
  intro dispatch first second guard other later
  have plainNull : PlainName "null" := plainName_builtin .null
  have plainTag : PlainName "tag" := by
    refine ⟨by decide, by decide, by decide, ?_, ?_⟩ <;>
    · intro rest same
      simpa using congrArg String.toList same
  have plain : Plain first := by
    simp [Plain, first, declared, Spec.tags, Tag.name, BuiltinType.name, plainNull, plainTag]
  have plain' : Plain second := by
    simp [Plain, second, declared, Spec.tags, Tag.name, plainNull, plainTag]
  have pure : PureChecks dispatch claimed .shared (claimedTexts.registries .shared) := by
    intro type entry member value before held
    obtain ⟨tag, _ | _ | _ | index⟩ := entry
    · exact ⟨_, rfl, held⟩
    · exact ⟨_, rfl, held⟩
    · exact ⟨_, rfl, held⟩
    · exact ⟨_, rfl, held⟩
  have together : guard.registry = other.registry := rfl
  have shown : guard.text = other.text := rfl
  obtain ⟨-, -, -, decided⟩ := shown_alike_accept_alike dispatch together plain plain' shown
  obtain ⟨refused, after, refused', after', checked, checked', alike⟩ :=
    decided claimed _ pure [.null, .string "x"] claimedTexts later rfl rfl
  have accepted : refused = none := by
    cases checked
    rfl
  rw [accepted] at checked
  rw [alike.mp accepted] at checked'
  exact ⟨together, plain, plain', shown, pure, ⟨after, checked⟩, after', checked'⟩

end TypeGuard.Proofs
