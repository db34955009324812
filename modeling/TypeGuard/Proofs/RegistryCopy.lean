import Mathlib.Data.List.Basic
import TypeGuard.Procedures
import TypeGuard.Proofs.RegistryState

/-! Copying custom types from one registry to another. What stands there already keeps its place and takes
over the checks of the tags that are copied; new tags follow in the order of the source. A tag has one check
in its registry, so a registry is copied whole in whatever order its built-in types are gone through. -/

namespace TypeGuard.Proofs

def copyTypes (source target : RegistryId) (root : BuiltinType) : Program Unit := do
  let entries ← Program.request (.refinements source root)
  Program.registerAll target root entries

def copyAllTypes (source target : RegistryId) : List BuiltinType → Program Unit
  | [] => pure ()
  | root :: roots => do
    copyTypes source target root
    copyAllTypes source target roots

/-- A registry that some operations lead to from an open one. -/
def Reachable (registry : Registry) : Prop :=
  ∃ settings history, performed settings history = registry

/-- The entries with the checks that the others have for the same tags. -/
def renewed (others entries : Refinements) : Refinements :=
  entries.map fun (tag, check) => (tag, (Assoc.get? tag others).getD check)

def unlisted (others entries : Refinements) : Refinements :=
  entries.filter fun entry => entry.1 ∉ Assoc.keys others

def placedAll (root : BuiltinType) (entries : Refinements) (registry : Registry) : Registry :=
  entries.foldl (fun registry (tag, check) => registry.place root tag check) registry

variable {root other : BuiltinType} {entries : Refinements} {registry : Registry}

private theorem placedAll_cons (tag : CustomType) (check : CheckId) :
    placedAll root ((tag, check) :: entries) registry = placedAll root entries (registry.place root tag check) := rfl

namespace Reachable

theorem placedAll (reachable : Reachable registry) (root : BuiltinType) (entries : Refinements) :
    Reachable (placedAll root entries registry) := by
  obtain ⟨settings, history, rfl⟩ := reachable
  refine ⟨settings, history ++ entries.map fun (tag, check) => .register root tag check, ?_⟩
  rw [performed, List.foldl_append, List.foldl_map]
  rfl

theorem distinct (reachable : Reachable registry) (root : BuiltinType) : (Assoc.keys (registry.refinements root)).Nodup := by
  obtain ⟨settings, history, rfl⟩ := reachable
  exact (recorded settings history).distinct root

theorem complete (reachable : Reachable registry) (root : BuiltinType) :
    Assoc.keys (registry.refinements root) = registry.tagsUnder root := by
  obtain ⟨settings, history, rfl⟩ := reachable
  exact (recorded settings history).complete root

theorem isRefined_iff (reachable : Reachable registry) (root : BuiltinType) :
    registry.isRefined root = true ↔ registry.refinements root ≠ [] := by
  obtain ⟨settings, history, rfl⟩ := reachable
  exact (recorded settings history).refined root

end Reachable

/-- Whatever steps are taken from the start, every registry is one that operations lead to. -/
theorem reachable_taken (steps : List Step) (id : RegistryId) : Reachable ((taken World.start steps).registries id) := by
  induction steps using List.reverseRecOn generalizing id with
  | nil => exact ⟨{}, [], rfl⟩
  | append_singleton steps step ih =>
    rw [taken_append]
    cases step with
    | operate registry operation =>
      change Reachable ((Step.take _ (.operate registry operation)).registries id)
      rw [registries_operate]
      split
      · obtain ⟨settings, history, same⟩ := ih registry
        exact ⟨settings, history ++ [operation], by rw [← same, performed, List.foldl_append]; rfl⟩
      · exact ih id
    | openRegistry settings =>
      change Reachable (if id = _ then _ else _)
      split
      · exact ⟨settings, [], rfl⟩
      · exact ih id
    | note | guarding | defer | setCell | identify | remember => exact ih id

private theorem checks_placedAll (distinct : (Assoc.keys entries).Nodup) (tag : CustomType) :
    Assoc.get? tag (placedAll root entries registry).checks =
      (Assoc.get? tag entries).or (Assoc.get? tag registry.checks) := by
  induction entries generalizing registry with
  | nil => rfl
  | cons entry entries ih =>
    obtain ⟨first, check⟩ := entry
    obtain ⟨absent, distinct⟩ := List.nodup_cons.mp distinct
    rw [placedAll_cons, ih distinct, Registry.place]
    by_cases same : first = tag
    · subst same
      rw [Assoc.get?_eq_none_iff.mpr absent, Option.none_or, Assoc.get?_put_self, Assoc.get?, if_pos rfl, Option.some_or]
    · rw [Assoc.get?_put_of_ne (Ne.symm same), Assoc.get?, if_neg same]

private theorem tagsUnder_placedAll (distinct : (Assoc.keys entries).Nodup) :
    (placedAll root entries registry).tagsUnder other = registry.tagsUnder other ++
      if other = root then (Assoc.keys entries).filter (· ∉ registry.tagsUnder root) else [] := by
  induction entries generalizing registry with
  | nil => simp [placedAll, Assoc.keys]
  | cons entry entries ih =>
    obtain ⟨tag, check⟩ := entry
    obtain ⟨absent, distinct⟩ : tag ∉ Assoc.keys entries ∧ (Assoc.keys entries).Nodup := List.nodup_cons.mp distinct
    have keys : Assoc.keys ((tag, check) :: entries) = tag :: Assoc.keys entries := rfl
    rw [placedAll_cons, ih distinct, Registry.tagsUnder_place, Registry.tagsUnder_place, keys]
    by_cases same : other = root
    · subst same
      have listed : tag ∈ registry.tagsUnder other ↔ registry.isPlaced other tag = true := Registry.mem_tagsUnder
      cases placed : registry.isPlaced other tag with
      | true => simp [listed, placed]
      | false =>
        have later : (Assoc.keys entries).filter (· ∉ registry.tagsUnder other ++ [tag]) =
            (Assoc.keys entries).filter (· ∉ registry.tagsUnder other) := by
          apply List.filter_congr
          intro label member
          have different : label ≠ tag := fun same => absent (same ▸ member)
          simp [different]
        simpa [listed, placed] using later
    · simp [same]

theorem keys_renewed (others entries : Refinements) : Assoc.keys (renewed others entries) = Assoc.keys entries := by
  rw [renewed, Assoc.keys, List.map_map]
  rfl

theorem keys_unlisted (others entries : Refinements) :
    Assoc.keys (unlisted others entries) = (Assoc.keys entries).filter (· ∉ Assoc.keys others) := by
  change _ = List.filter _ (List.map _ _)
  rw [List.filter_map]
  rfl

private theorem filterMap_found {lookup : CustomType → Option CheckId}
    (found : ∀ entry ∈ entries, lookup entry.1 = some entry.2) :
    (Assoc.keys entries).filterMap (fun tag => (lookup tag).map fun check => (tag, check)) = entries := by
  rw [Assoc.keys, List.filterMap_map]
  refine (List.filterMap_congr fun entry member => ?_).trans List.filterMap_some
  rw [Function.comp_apply, found entry member]
  rfl

theorem refinements_placedAll (reachable : Reachable registry) (distinct : (Assoc.keys entries).Nodup) :
    (placedAll root entries registry).refinements other = renewed entries (registry.refinements other) ++
      if other = root then unlisted (registry.refinements root) entries else [] := by
  rw [Registry.refinements, tagsUnder_placedAll distinct, List.filterMap_append]
  congr 1
  · rw [Registry.refinements, renewed, List.map_filterMap]
    apply List.filterMap_congr
    intro tag member
    have checked : (Assoc.get? tag registry.checks).isSome = true := by
      rw [← reachable.complete, Registry.keys_refinements] at member
      exact (List.mem_filter.mp member).2
    obtain ⟨check, found⟩ := Option.isSome_iff_exists.mp checked
    rw [checks_placedAll distinct, found]
    cases copied : Assoc.get? tag entries <;> simp [copied]
  · by_cases same : other = root
    · rw [if_pos same, if_pos same, ← reachable.complete, ← keys_unlisted]
      apply filterMap_found
      intro entry member
      have listed : entry ∈ entries := (List.mem_filter.mp member).1
      rw [checks_placedAll distinct, (Assoc.get?_eq_some_iff distinct).mpr listed, Option.some_or]
    · rw [if_neg same, if_neg same, List.filterMap_nil]

theorem enabled_placedAll : (placedAll root entries registry).enabled = (registry.enabled || !entries.isEmpty) := by
  induction entries generalizing registry with
  | nil => exact (Bool.or_false _).symm
  | cons entry entries ih =>
    rw [placedAll_cons, ih, Registry.place, Bool.true_or, List.isEmpty_cons, Bool.not_false, Bool.or_true]

/-- A tag has the same check under each built-in type, so what it is given from another one is its own. -/
theorem renewed_self (registry : Registry) (root other : BuiltinType) :
    renewed (registry.refinements root) (registry.refinements other) = registry.refinements other := by
  refine (List.map_congr_left fun entry member => ?_).trans (List.map_id _)
  obtain ⟨tag, check⟩ := entry
  cases found : Assoc.get? tag (registry.refinements root) with
  | none => simp [found]
  | some shared =>
    have first := (Registry.mem_refinements.mp member).2
    have second := (Registry.mem_refinements.mp (Assoc.mem_of_get?_eq_some found)).2
    obtain rfl : check = shared := Option.some.inj (first.symm.trans second)
    simp [found]

theorem unlisted_self (entries : Refinements) : unlisted entries entries = [] := by
  apply List.filter_eq_nil_iff.mpr
  intro entry member
  simp [Assoc.keys, List.mem_map_of_mem member]

structure Copied (source before : Registry) (root : BuiltinType) (after : Registry) : Prop where
  /-- What stood there comes first, and what is new follows, each in its own order. -/
  listed : Assoc.keys (after.refinements root) = Assoc.keys (before.refinements root) ++
    (Assoc.keys (source.refinements root)).filter (· ∉ Assoc.keys (before.refinements root))
  elsewhere : ∀ other ≠ root, Assoc.keys (after.refinements other) = Assoc.keys (before.refinements other)
  /-- Under every built-in type, a tag that is copied has the check of the source. -/
  replaced : ∀ other tag check, tag ∈ Assoc.keys (source.refinements root) → (tag, check) ∈ after.refinements other →
    (tag, check) ∈ source.refinements root
  kept : ∀ other tag check, tag ∉ Assoc.keys (source.refinements root) →
    ((tag, check) ∈ after.refinements other ↔ (tag, check) ∈ before.refinements other)
  enabled : after.enabled = (before.enabled || !(source.refinements root).isEmpty)

theorem copied_placedAll {source : Registry} (origin : Reachable source) (reachable : Reachable registry) :
    Copied source registry root (placedAll root (source.refinements root) registry) where
  listed := by
    rw [refinements_placedAll reachable (origin.distinct root), if_pos rfl, Assoc.keys, List.map_append, ← Assoc.keys,
      ← Assoc.keys, keys_renewed, keys_unlisted]
  elsewhere other different := by
    rw [refinements_placedAll reachable (origin.distinct root), if_neg different, List.append_nil, keys_renewed]
  replaced other tag check copied member := by
    have checked := (Registry.mem_refinements.mp member).2
    rw [checks_placedAll (origin.distinct root)] at checked
    cases found : Assoc.get? tag (source.refinements root) with
    | none => exact absurd copied (Assoc.get?_eq_none_iff.mp found)
    | some shared =>
      rw [found, Option.some_or] at checked
      rw [← Option.some.inj checked]
      exact Assoc.mem_of_get?_eq_some found
  kept other tag check absent := by
    have placed : tag ∈ (placedAll root (source.refinements root) registry).tagsUnder other ↔ tag ∈ registry.tagsUnder other := by
      rw [tagsUnder_placedAll (origin.distinct root), List.mem_append, or_iff_left]
      split
      · exact fun new => absent (List.mem_filter.mp new).1
      · exact List.not_mem_nil
    rw [Registry.mem_refinements, Registry.mem_refinements, placed, checks_placedAll (origin.distinct root),
      Assoc.get?_eq_none_iff.mpr absent, Option.none_or]
  enabled := enabled_placedAll

section Runs
variable {source target : RegistryId} {world : World}

private theorem registerAll_run (dispatch : Dispatch) (entries : Refinements) :
    ∃ after, (Program.registerAll target root entries).run dispatch world = some ((), after) ∧
      ∀ id, after.registries id = if id = target then placedAll root entries (world.registries target) else world.registries id := by
  induction entries generalizing world with
  | nil =>
    refine ⟨world, rfl, fun id => ?_⟩
    split
    next same => rw [same]; rfl
    next => rfl
  | cons entry entries ih =>
    obtain ⟨tag, check⟩ := entry
    obtain ⟨after, ran, registries⟩ := @ih (world.register target root tag check)
    refine ⟨after, ran, fun id => ?_⟩
    rw [registries id, World.registries_register, World.registries_register, if_pos rfl]
    split <;> rfl

theorem copyTypes_run (dispatch : Dispatch) (source target : RegistryId) (root : BuiltinType) (world : World) :
    ∃ after, (copyTypes source target root).run dispatch world = some ((), after) ∧
      ∀ id, after.registries id = if id = target then
        placedAll root ((world.registries source).refinements root) (world.registries target) else world.registries id :=
  registerAll_run dispatch ((world.registries source).refinements root)

private theorem copyTypes_source (reachable : ∀ id, Reachable (world.registries id)) {after : World}
    (copied : ∀ id, after.registries id = if id = target then
      placedAll root ((world.registries source).refinements root) (world.registries target) else world.registries id)
    (other : BuiltinType) : (after.registries source).refinements other = (world.registries source).refinements other := by
  rw [copied]
  by_cases same : source = target
  · subst same
    rw [if_pos rfl, refinements_placedAll (reachable source) ((reachable source).distinct root), renewed_self, unlisted_self,
      ite_self, List.append_nil]
  · rw [if_neg same]

private theorem copyAllTypes_run (dispatch : Dispatch) (roots done : List BuiltinType) (reachable : ∀ id, Reachable (world.registries id))
    (held : ∀ root, (world.registries target).refinements root =
      if root ∈ done then (world.registries source).refinements root else []) :
    ∃ after, (copyAllTypes source target roots).run dispatch world = some ((), after) ∧
      ∀ root, (after.registries target).refinements root =
        if root ∈ done ∨ root ∈ roots then (world.registries source).refinements root else [] := by
  induction roots generalizing world done with
  | nil => exact ⟨world, rfl, by simpa using held⟩
  | cons first roots ih =>
    obtain ⟨middle, ran, copied⟩ := copyTypes_run dispatch source target first world
    have still := copyTypes_source reachable copied
    have reached : ∀ id, Reachable (middle.registries id) := by
      intro id
      rw [copied]
      split
      · exact (reachable target).placedAll first _
      · exact reachable id
    have next : ∀ root, (middle.registries target).refinements root =
        if root ∈ first :: done then (middle.registries source).refinements root else [] := by
      intro root
      rw [still, copied, if_pos rfl, refinements_placedAll (reachable target) ((reachable source).distinct first)]
      by_cases same : root = first
      · subst same
        rw [if_pos rfl, held]
        by_cases known : root ∈ done
        · simp [known, renewed_self, unlisted_self]
        · simp [known, renewed, unlisted, Assoc.keys]
      · rw [if_neg same, List.append_nil, held]
        by_cases known : root ∈ done
        · simp [known, renewed_self]
        · simp [known, same, renewed]
    obtain ⟨after, rest, all⟩ := ih (first :: done) reached next
    refine ⟨after, ?_, fun root => ?_⟩
    · rw [copyAllTypes, Program.run_bind, bind_run, ran]
      exact rest
    · rw [all, still]
      simp only [List.mem_cons, or_assoc, or_left_comm]

end Runs

/-- After the custom types under a built-in type are copied, those that stood there keep their order, new ones
follow in the order of the source, and every copied tag has the check of the source under every built-in
type; all other tags keep their checks, all other built-in types their lists, and all other registries
everything. Custom types are switched on just when some are copied. A registry copied into itself stays as
it is, and one that is copied into an empty one under all its built-in types, in whatever order, is found
there again. -/
theorem copied_registries (dispatch : Dispatch) (steps : List Step) (source target : RegistryId) :
    (∀ root, ∃ after, (copyTypes source target root).run dispatch (taken World.start steps) = some ((), after) ∧
      Copied ((taken World.start steps).registries source) ((taken World.start steps).registries target) root
        (after.registries target) ∧
      ∀ other ≠ target, after.registries other = (taken World.start steps).registries other) ∧
    (∀ root, ∃ after, (copyTypes source source root).run dispatch (taken World.start steps) = some ((), after) ∧
      ∀ other, (after.registries source).refinements other = ((taken World.start steps).registries source).refinements other) ∧
    ∀ roots, (∀ root, ((taken World.start steps).registries source).isRefined root = true → root ∈ roots) →
      (∀ root, ((taken World.start steps).registries target).isRefined root = false) →
        ∃ after, (copyAllTypes source target roots).run dispatch (taken World.start steps) = some ((), after) ∧
          ∀ root, (after.registries target).refinements root = ((taken World.start steps).registries source).refinements root := by
  have reachable := reachable_taken steps
  generalize taken World.start steps = world at reachable
  refine ⟨?_, ?_, ?_⟩
  · intro root
    obtain ⟨after, ran, copied⟩ := copyTypes_run dispatch source target root world
    refine ⟨after, ran, ?_, fun other different => by rw [copied, if_neg different]⟩
    rw [copied, if_pos rfl]
    exact copied_placedAll (reachable source) (reachable target)
  · intro root
    obtain ⟨after, ran, copied⟩ := copyTypes_run dispatch source source root world
    exact ⟨after, ran, copyTypes_source reachable copied⟩
  · intro roots complete empty
    have bare : ∀ root, (world.registries target).refinements root =
        if root ∈ [] then (world.registries source).refinements root else [] := by
      intro root
      have unrefined := empty root
      rw [← Bool.not_eq_true, (reachable target).isRefined_iff, not_not] at unrefined
      rw [unrefined, if_neg List.not_mem_nil]
    obtain ⟨after, ran, all⟩ := copyAllTypes_run dispatch roots [] reachable bare
    refine ⟨after, ran, fun root => ?_⟩
    rw [all]
    split
    next => rfl
    next skipped =>
      by_contra missed
      have refined := ((reachable source).isRefined_iff root).mpr (Ne.symm missed)
      exact skipped (.inr (complete root refined))

def sharedTag : List Step :=
  [.openRegistry {}, .operate .shared (.register .string ⟨"tag"⟩ ⟨0⟩), .operate .shared (.register .string ⟨"other"⟩ ⟨1⟩),
    .operate .shared (.register .object ⟨"tag"⟩ ⟨2⟩)]

theorem copied_registries_shared_tag :
    (∀ root, ((taken World.start sharedTag).registries .shared).isRefined root = true → root ∈ [.object, .string]) ∧
    (∀ root, ((taken World.start sharedTag).registries ⟨1⟩).isRefined root = false) ∧
      ∃ after, (copyAllTypes .shared ⟨1⟩ [.object, .string]).run (registeringChecks.host.dispatch 0)
          (taken World.start sharedTag) = some ((), after) ∧
        (after.registries ⟨1⟩).refinements .string = [(⟨"tag"⟩, ⟨2⟩), (⟨"other"⟩, ⟨1⟩)] := by
  have complete : ∀ root, ((taken World.start sharedTag).registries .shared).isRefined root = true →
      root ∈ [.object, .string] := by
    intro root
    cases root <;> decide
  have empty : ∀ root, ((taken World.start sharedTag).registries ⟨1⟩).isRefined root = false := by
    intro root
    cases root <;> rfl
  obtain ⟨after, ran, all⟩ :=
    (copied_registries (registeringChecks.host.dispatch 0) sharedTag .shared ⟨1⟩).2.2 [.object, .string] complete empty
  exact ⟨complete, empty, after, ran, (all .string).trans rfl⟩

end TypeGuard.Proofs
