import TypeGuard.Proofs.ClassificationRun
import TypeGuard.Proofs.Inspection
import TypeGuard.Proofs.RegistryOperations

/-! Every run is a sequence of single steps, and a registry is at every point what the steps on it up to
there say, whoever took them: code at the top, a check called by a classification, or the target of a
guard. -/

namespace TypeGuard.Proofs

/-- A single change of a world, and for a registry what is done to it. -/
inductive Step
  | note (text : String)
  | guarding (kind : CallKind) (name : String) (signature : Signature)
  | openRegistry (settings : Registry.Settings)
  | operate (registry : RegistryId) (operation : Operation)
  | defer (routine : Routine)
  | setCell (promise : PromiseId) (cell : Cell)
  | identify
  | remember (key : Nat) (value : Value)

namespace Step

def take (world : World) : Step → World
  | .note text => world.record (.note text)
  | .guarding kind name signature => world.record (.guarding kind name signature)
  | .openRegistry settings => world.openRegistry settings
  | .operate registry (.register root tag check) => world.register registry root tag check
  | .operate registry (.switch enabled) => world.setEnabled registry enabled
  | .defer routine => world.addCell (.unstarted routine)
  | .setCell promise cell => world.setCell promise cell
  | .identify => { world with identities := world.identities + 1 }
  | .remember key value => world.remember key value

def operation? (id : RegistryId) : Step → Option Operation
  | .operate registry operation => if registry = id then some operation else none
  | _ => none

end Step

def taken (world : World) (steps : List Step) : World :=
  steps.foldl Step.take world

theorem taken_append (world : World) (steps later : List Step) :
    taken world (steps ++ later) = taken (taken world steps) later :=
  List.foldl_append ..

/-- What some steps do to one registry, in their order. -/
def operations (id : RegistryId) (steps : List Step) : List Operation :=
  steps.filterMap (Step.operation? id)

variable {α : Type} {id : RegistryId} {spared : PromiseId → Bool} {before after : World}

private theorem Change.step (changed : Change spared before after) : ∃ step : Step, step.take before = after := by
  cases changed with
  | note text => exact ⟨.note text, rfl⟩
  | guarding kind name signature => exact ⟨.guarding kind name signature, rfl⟩
  | openRegistry settings => exact ⟨.openRegistry settings, rfl⟩
  | setEnabled registry enabled => exact ⟨.operate registry (.switch enabled), rfl⟩
  | register registry root tag check => exact ⟨.operate registry (.register root tag check), rfl⟩
  | defer routine => exact ⟨.defer routine, rfl⟩
  | setCell promise cell => exact ⟨.setCell promise cell, rfl⟩
  | identify => exact ⟨.identify, rfl⟩
  | remember key value => exact ⟨.remember key value, rfl⟩

theorem Change.reaches {start : World} (changed : Change spared before after)
    (reached : ∃ steps, taken start steps = before) : ∃ steps, taken start steps = after := by
  obtain ⟨steps, rfl⟩ := reached
  obtain ⟨step, rfl⟩ := changed.step
  exact ⟨steps ++ [step], by rw [taken, List.foldl_append]; rfl⟩

theorem Changes.steps (made : Changes spared before after) : ∃ steps, taken before steps = after := by
  induction made with
  | refl => exact ⟨[], rfl⟩
  | tail _ changed ih => exact changed.reaches ih

/-- A run takes steps and does nothing else. -/
theorem run_steps (host : Host) (depth : Nat) (program : Program α) {value}
    (ran : host.run depth program before = some (value, after)) : ∃ steps, taken before steps = after := by
  rw [Host.run, ← sparing_none] at ran
  exact (sparing_run host depth program ran).2.steps

theorem opened_le_take (world : World) (step : Step) : world.opened ≤ (step.take world).opened := by
  cases step with
  | openRegistry settings => exact Nat.le_succ _
  | operate registry operation =>
    cases operation with
    | register root tag check => exact Nat.le_refl _
    | switch enabled => exact Nat.le_of_eq (World.opened_setEnabled ..).symm
  | note | guarding | defer | setCell | identify | remember => exact Nat.le_refl _

theorem registries_operate (world : World) (registry : RegistryId) (operation : Operation) :
    ((Step.operate registry operation).take world).registries id =
      if id = registry then Operation.perform (world.registries registry) operation else world.registries id := by
  cases operation with
  | register root tag check => exact World.registries_register ..
  | switch enabled => exact World.registries_setEnabled ..

theorem registries_take {world : World} (opened : id.index < world.opened) (step : Step) :
    (step.take world).registries id =
      (step.operation? id).elim (world.registries id) (Operation.perform (world.registries id)) := by
  cases step with
  | openRegistry settings => exact World.registries_openRegistry opened settings
  | operate registry operation =>
    rw [registries_operate, Step.operation?]
    by_cases same : id = registry
    · subst same
      rw [if_pos rfl, if_pos rfl, Option.elim_some]
    · rw [if_neg same, if_neg (Ne.symm same), Option.elim_none]
  | note | guarding | defer | setCell | identify | remember => rfl

/-- An open registry has gone through the operations on it, and through nothing else. -/
theorem registries_taken {world : World} (opened : id.index < world.opened) (steps : List Step) :
    (taken world steps).registries id = (operations id steps).foldl Operation.perform (world.registries id) := by
  induction steps generalizing world with
  | nil => rfl
  | cons step steps ih =>
    rw [taken, List.foldl_cons, ← taken, ih (Nat.lt_of_lt_of_le opened (opened_le_take world step)),
      registries_take opened, operations, operations, List.filterMap_cons]
    cases step.operation? id <;> rfl

/-- The registrations on a registry that the journal tells of. -/
def shown (id : RegistryId) (world : World) : List Operation :=
  world.journal.toList.filterMap (registration? id)

private theorem shown_record (world : World) (event : Event) :
    shown id (world.record event) = shown id world ++ (registration? id event).toList := by
  rw [shown, World.record, Array.toList_push, List.filterMap_append, ← shown, List.filterMap_cons]
  cases registration? id event <;> rfl

private theorem shown_setEnabled (world : World) (registry : RegistryId) (enabled : Bool) :
    shown id (world.setEnabled registry enabled) = shown id world := by
  simp only [World.setEnabled]
  split
  · rfl
  · exact (shown_record ..).trans (List.append_nil _)

private theorem shown_register (world : World) (registry : RegistryId) (root : BuiltinType) (tag : CustomType)
    (check : CheckId) : shown id (world.register registry root tag check) =
      shown id world ++ if registry = id then [.register root tag check] else [] := by
  rw [World.register, shown_record]
  split <;> by_cases same : registry = id <;> simp [registration?, same] <;> rfl

private theorem shown_take (world : World) (step : Step) :
    shown id (step.take world) =
      shown id world ++ (step.operation? id).toList.filter Operation.registers := by
  cases step with
  | note text => exact shown_record ..
  | guarding kind name signature => exact shown_record ..
  | operate registry operation =>
    cases operation with
    | register root tag check =>
      rw [Step.take, shown_register, Step.operation?]
      split <;> rfl
    | switch enabled =>
      rw [Step.take, shown_setEnabled, Step.operation?]
      split <;> exact (List.append_nil _).symm
  | openRegistry | defer | setCell | identify | remember => exact (List.append_nil _).symm

theorem shown_taken (world : World) (steps : List Step) :
    shown id (taken world steps) = shown id world ++ (operations id steps).filter Operation.registers := by
  induction steps generalizing world with
  | nil => exact (List.append_nil _).symm
  | cons step steps ih =>
    rw [taken, List.foldl_cons, ← taken, ih, shown_take, List.append_assoc, ← List.filter_append, operations, operations,
      List.filterMap_cons]
    cases step.operation? id <;> rfl

/-- A registry is what its history says: the tags, their order, their checks and whether custom types are
switched on come from the operations on it since it was opened, and the journal tells of the same
registrations in the same order. That holds after any steps. A run takes steps and does nothing else, those
of checks and targets inside it included: whoever looks at it on its way finds it where steps lead. -/
theorem registry_by_history (host : Host) (depth : Nat) (program : Program α) {settings : Registry.Settings}
    (opened : id.index < before.opened) (configured : before.registries id = .ofSettings settings) :
    (∀ steps, Recorded settings (operations id steps) ((taken before steps).registries id) ∧
      shown id (taken before steps) = shown id before ++ (operations id steps).filter Operation.registers) ∧
    ∀ value after, host.run depth program before = some (value, after) →
      (∃ steps, taken before steps = after) ∧
      ∀ passes : World → Bool, (∀ steps, passes (taken before steps) = true) →
        runInspected passes (inspected host passes depth) program before = some (value, after) := by
  constructor
  · intro steps
    refine ⟨?_, shown_taken before steps⟩
    rw [registries_taken opened, configured]
    exact recorded settings (operations id steps)
  · intro value after ran
    refine ⟨run_steps host depth program ran, fun passes passed => ?_⟩
    have kept : ∀ {middle last}, Change (fun _ => false) middle last → (∃ steps, taken before steps = middle) →
        ∃ steps, taken before steps = last := Change.reaches
    have sound : ∀ world, (∃ steps, taken before steps = world) → passes world = true := by
      rintro _ ⟨steps, rfl⟩
      exact passed steps
    exact inspected_run kept sound host depth program ⟨[], rfl⟩ ran

/-- The check that the classification calls registers another one. -/
def registeringClassification : Program Tag := do
  Program.request (.register .shared .string ⟨"early"⟩ ⟨0⟩)
  Program.request (.classify .shared (.string "x"))

theorem registry_by_history_registering :
    RegistryId.shared.index < World.start.opened ∧ World.start.registries .shared = .ofSettings {} ∧
      ∃ tag steps,
        registeringChecks.host.run 1 registeringClassification World.start = some (tag, taken World.start steps) ∧
        (operations .shared steps).filter Operation.registers =
          [.register .string ⟨"early"⟩ ⟨0⟩, .register .string ⟨"late"⟩ ⟨1⟩] ∧
        Recorded {} (operations .shared steps) ((taken World.start steps).registries .shared) := by
  have opened : RegistryId.shared.index < World.start.opened := by decide
  have configured : World.start.registries .shared = .ofSettings {} := rfl
  obtain ⟨after, ran, told⟩ : ∃ after,
      registeringChecks.host.run 1 registeringClassification World.start = some (.builtin .string, after) ∧
        shown .shared after = [.register .string ⟨"early"⟩ ⟨0⟩, .register .string ⟨"late"⟩ ⟨1⟩] := ⟨_, rfl, rfl⟩
  obtain ⟨always, runs⟩ := registry_by_history registeringChecks.host 1 registeringClassification opened configured
  obtain ⟨⟨steps, rfl⟩, _⟩ := runs _ _ ran
  exact ⟨opened, configured, _, steps, ran, (always steps).2.symm.trans told, (always steps).1⟩

end TypeGuard.Proofs
