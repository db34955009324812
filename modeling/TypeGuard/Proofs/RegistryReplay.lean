import TypeGuard.Procedures
import TypeGuard.Proofs.JournalUnread
import TypeGuard.Proofs.RegistryCopy

/-! Doing the same to a registry once more. A second pass through the same registrations and switches may take a registry
through states that the first one did not have, but it ends where the first one did. -/

namespace TypeGuard.Proofs

inductive SetupStep
  | register (root : BuiltinType) (tag : CustomType) (check : CheckId)
  | registerAll (root : BuiltinType) (entries : Refinements)
  | switch (enabled : Bool)

namespace SetupStep

def program (id : RegistryId) : SetupStep → Program Unit
  | .register root tag check => Program.request (.register id root tag check)
  | .registerAll root entries => Program.registerAll id root entries
  | .switch enabled => Program.request (.setEnabled id enabled)

def operations : SetupStep → List Operation
  | .register root tag check => [.register root tag check]
  | .registerAll root entries => entries.map fun (tag, check) => .register root tag check
  | .switch enabled => [.switch enabled]

end SetupStep

def setUp (id : RegistryId) : List SetupStep → Program Unit
  | [] => pure ()
  | step :: rest => do
    step.program id
    setUp id rest

variable {registry : Registry} {id : RegistryId}

private def Known (registry : Registry) (operations : List Operation) : Prop :=
  ∀ root tag check, Operation.register root tag check ∈ operations →
    registry.isPlaced root tag = true ∧ tag ∈ Assoc.keys registry.checks

private theorem perform_known {operation : Operation} (known : Known registry [operation]) :
    (operation.perform registry).placements = registry.placements ∧
      Assoc.keys (operation.perform registry).checks = Assoc.keys registry.checks := by
  cases operation with
  | switch enabled => exact ⟨rfl, rfl⟩
  | register root tag check =>
    obtain ⟨placed, checked⟩ := known root tag check List.mem_cons_self
    constructor
    · exact if_pos placed
    · exact (Assoc.keys_put ..).trans (if_pos checked)

private theorem foldl_known {operations : List Operation} (known : Known registry operations) :
    (operations.foldl Operation.perform registry).placements = registry.placements ∧
      Assoc.keys (operations.foldl Operation.perform registry).checks = Assoc.keys registry.checks := by
  induction operations generalizing registry with
  | nil => exact ⟨rfl, rfl⟩
  | cons operation rest ih =>
    have first : Known registry [operation] := fun root tag check member =>
      known root tag check (List.mem_cons.mpr (.inl (List.mem_singleton.mp member)))
    obtain ⟨placements, keys⟩ := perform_known first
    have still : Known (operation.perform registry) rest := by
      intro root tag check member
      obtain ⟨placed, checked⟩ := known root tag check (List.mem_cons_of_mem _ member)
      rw [Registry.isPlaced_iff] at placed ⊢
      rw [placements, keys]
      exact ⟨placed, checked⟩
    obtain ⟨placements', keys'⟩ := ih still
    exact ⟨placements'.trans placements, keys'.trans keys⟩

private theorem known_performed (settings : Registry.Settings) (history operations : List Operation) :
    Known (performed settings (history ++ operations)) operations := by
  intro root tag check member
  have record := recorded settings (history ++ operations)
  have listed := (record.listed root tag).mpr ⟨check, List.mem_append_right _ member⟩
  rw [record.complete, Registry.mem_tagsUnder] at listed
  refine ⟨listed, ?_⟩
  rw [← Registry.mem_tagsUnder, ← record.complete, Registry.keys_refinements, List.mem_filter] at listed
  by_contra absent
  rw [Assoc.get?_eq_none_iff.mpr absent] at listed
  cases listed.2

private theorem distinct_checks (settings : Registry.Settings) (history : List Operation) :
    (Assoc.keys (performed settings history).checks).Nodup := by
  induction history using List.reverseRecOn with
  | nil => exact .nil
  | append_singleton history operation ih =>
    rw [performed_append]
    cases operation with
    | switch enabled => exact ih
    | register root tag check => exact Assoc.nodup_keys_put _ _ ih

/-- What operations make of a registry, the same operations leave as it is. -/
theorem foldl_perform_twice (reachable : Reachable registry) (operations : List Operation) :
    operations.foldl Operation.perform (operations.foldl Operation.perform registry) =
      operations.foldl Operation.perform registry := by
  obtain ⟨settings, history, rfl⟩ := reachable
  have once : operations.foldl Operation.perform (performed settings history) = performed settings (history ++ operations) :=
    List.foldl_append.symm
  have twice : operations.foldl Operation.perform (performed settings (history ++ operations)) =
      performed settings (history ++ operations ++ operations) := List.foldl_append.symm
  obtain ⟨placements, keys⟩ := foldl_known (known_performed settings history operations)
  rw [once]
  refine Registry.ext ?_ placements ?_
  · -- The checks that came last in both passes are those that came last in the first.
    refine Assoc.ext_get? ?_ keys fun tag => ?_
    · rw [keys]
      exact distinct_checks settings (history ++ operations)
    · rw [twice, checks_performed, checks_performed, List.reverse_append, List.reverse_append, List.findSome?_append,
        List.findSome?_append, ← Option.or_assoc, Option.or_self]
  · rw [twice, (recorded ..).enabled, (recorded ..).enabled, List.getLast?_append, List.getLast?_append, ← Option.or_assoc,
      Option.or_self]

/-- A step of the second pass does undo what the first pass did: here the tag has its first check again for a while. -/
example :
    let operations := [.register .string ⟨"tag"⟩ ⟨0⟩, .register .object ⟨"tag"⟩ ⟨1⟩, .switch false]
    let registry := operations.foldl Operation.perform {}
    (registry.refinements .object, registry.enabled) = ([(⟨"tag"⟩, ⟨1⟩)], false) ∧
      ((operations.take 1).foldl Operation.perform registry).refinements .object = [(⟨"tag"⟩, ⟨0⟩)] ∧
      operations.foldl Operation.perform registry = registry := by
  decide

section Runs
variable (dispatch : Dispatch) (id : RegistryId) (world : World)

/-- The world with a registry in the place of one, and with more on record. -/
private def furthered (id : RegistryId) (world : World) (registry : Registry) (events : Array Event) : World :=
  { world.setRegistry id registry with journal := world.journal ++ events }

private theorem furthered_furthered (registry later : Registry) (events more : Array Event) :
    furthered id (furthered id world registry events) later more = furthered id world later (events ++ more) := by
  simp only [furthered, World.setRegistry, Array.append_assoc]
  congr 1
  funext other
  split <;> rfl

private theorem furthered_held (events : Array Event) :
    furthered id world (world.registries id) events = { world with journal := world.journal ++ events } := by
  have held : (world.setRegistry id (world.registries id)).registries = world.registries := by
    funext other
    simp only [World.setRegistry]
    split
    next same => rw [same]
    next => rfl
  rw [furthered, held]
  rfl

private theorem take_operate (operation : Operation) : ∃ events,
    (Step.operate id operation).take world = furthered id world (operation.perform (world.registries id)) events := by
  cases operation with
  | register root tag check =>
    exact ⟨#[if (world.registries id).isPlaced root tag then .replaced id root tag check else .registered id root tag check],
      rfl⟩
  | switch enabled =>
    simp only [Step.take, World.setEnabled]
    split
    · exact ⟨#[], rfl⟩
    · exact ⟨#[.switched id enabled], rfl⟩

private theorem taken_operations (operations : List Operation) : ∃ events,
    taken world (operations.map (.operate id)) =
      furthered id world (operations.foldl Operation.perform (world.registries id)) events := by
  induction operations using List.reverseRecOn with
  | nil => exact ⟨#[], (furthered_held id world #[]).symm⟩
  | append_singleton operations operation ih =>
    obtain ⟨events, earlier⟩ := ih
    obtain ⟨more, last⟩ := take_operate id (taken world (operations.map (.operate id))) operation
    refine ⟨events ++ more, ?_⟩
    rw [List.map_append, taken_append, List.foldl_append]
    refine last.trans ?_
    rw [earlier, furthered_furthered]
    congr 2
    exact if_pos rfl

private theorem registries_operations (operations : List Operation) :
    (taken world (operations.map (.operate id))).registries id =
      operations.foldl Operation.perform (world.registries id) := by
  obtain ⟨events, led⟩ := taken_operations id world operations
  rw [led]
  exact if_pos rfl

private theorem taken_operations_twice (reachable : Reachable (world.registries id)) (operations : List Operation) :
    ∃ events, taken (taken world (operations.map (.operate id))) (operations.map (.operate id)) =
      { taken world (operations.map (.operate id)) with
        journal := (taken world (operations.map (.operate id))).journal ++ events } := by
  obtain ⟨events, again⟩ := taken_operations id (taken world (operations.map (.operate id))) operations
  rw [registries_operations, foldl_perform_twice reachable, ← registries_operations id world, furthered_held] at again
  exact ⟨events, again⟩

private theorem registerAll_taken (root : BuiltinType) (entries : Refinements) :
    (Program.registerAll id root entries).run dispatch world =
      some ((), taken world ((SetupStep.registerAll root entries).operations.map (.operate id))) := by
  induction entries generalizing world with
  | nil => rfl
  | cons entry entries ih => exact ih (world.register id root entry.1 entry.2)

private theorem setUp_run (script : List SetupStep) :
    (setUp id script).run dispatch world =
      some ((), taken world ((script.flatMap SetupStep.operations).map (.operate id))) := by
  induction script generalizing world with
  | nil => rfl
  | cons step rest ih =>
    have first : (step.program id).run dispatch world = some ((), taken world (step.operations.map (.operate id))) := by
      cases step with
      | register root tag check => rfl
      | registerAll root entries => exact registerAll_taken dispatch id world root entries
      | switch enabled => rfl
    rw [setUp, Program.run_bind, bind_run, first, Option.bind_some, ih, List.flatMap_cons, List.map_append, taken_append]

end Runs

/-- A setup takes a registry through its operations, and replaying it is without effect on everything but the journal,
wherever it starts from: each registry lists the same tags in the same order with the same checks under every built-in
type, custom types are switched on or off as they were, and every value is classified with the same result and the same
effects. -/
theorem replay_without_effect (host : Host) (depth : Nat) (steps : List Step) (id : RegistryId) (script : List SetupStep) :
    ∃ once twice, host.run depth (setUp id script) (taken World.start steps) = some ((), once) ∧
      once.registries id =
        (script.flatMap SetupStep.operations).foldl Operation.perform ((taken World.start steps).registries id) ∧
      host.run depth (setUp id script) once = some ((), twice) ∧
      twice = { once with journal := twice.journal } ∧
      (∀ other root, (twice.registries other).refinements root = (once.registries other).refinements root) ∧
      (∀ other, (twice.registries other).enabled = (once.registries other).enabled) ∧
      ∀ nested registry value, SameEffects once.journal twice.journal (classify (host.dispatch nested) registry value once)
        (classify (host.dispatch nested) registry value twice) := by
  obtain ⟨events, same⟩ := taken_operations_twice id (taken World.start steps) (reachable_taken steps id)
    (script.flatMap SetupStep.operations)
  refine ⟨_, _, setUp_run _ id _ script, registries_operations id _ _, setUp_run _ id _ script, ?_⟩
  rw [same]
  refine ⟨rfl, fun other root => rfl, fun other => rfl, fun nested registry value => ?_⟩
  exact classify_unread host nested registry value (Parallel.start _ _)

end TypeGuard.Proofs
