import TypeGuard.Proofs.Changes
import TypeGuard.Proofs.RegistryOperations

/-! The journal tells how a registry came to be what it is. Every run adds to the journal just what
it does to the registries that are open, in the order in which it takes effect. -/

namespace TypeGuard.Proofs

/-- What an event of the journal says has become of a registry. -/
def replayEvent (id : RegistryId) (registry : Registry) : Event → Registry
  | .registered other root tag check | .replaced other root tag check =>
    if other = id then registry.place root tag check else registry
  | .switched other enabled => if other = id then { registry with enabled } else registry
  | .note _ | .guarding _ _ _ => registry

def replay (id : RegistryId) (registry : Registry) (events : List Event) : Registry :=
  events.foldl (replayEvent id) registry

theorem replay_append (id : RegistryId) (registry : Registry) (events later : List Event) :
    replay id registry (events ++ later) = replay id (replay id registry events) later :=
  List.foldl_append ..

def registration? (id : RegistryId) : Event → Option Operation
  | .registered registry root tag check | .replaced registry root tag check =>
    if registry = id then some (.register root tag check) else none
  | .note _ | .switched _ _ | .guarding _ _ _ => none

/-- A registration is told of whenever it is made, a switch only where it changes something. -/
def toldOperation? (id : RegistryId) : Event → Option Operation
  | .switched registry enabled => if registry = id then some (.switch enabled) else none
  | event => registration? id event

private theorem replayEvent_eq (id : RegistryId) (registry : Registry) (event : Event) :
    replayEvent id registry event = (toldOperation? id event).elim registry (Operation.perform registry) := by
  cases event with
  | registered | replaced | switched =>
    simp only [replayEvent, toldOperation?, registration?]
    split <;> rfl
  | note | guarding => rfl

theorem replay_performed (id : RegistryId) (settings : Registry.Settings) (history : List Operation) (events : List Event) :
    replay id (performed settings history) events = performed settings (history ++ events.filterMap (toldOperation? id)) := by
  induction events generalizing history with
  | nil => rw [List.filterMap_nil, List.append_nil]; rfl
  | cons event events ih =>
    rw [replay, List.foldl_cons, ← replay, replayEvent_eq, List.filterMap_cons]
    cases toldOperation? id event with
    | none => exact ih history
    | some operation => rw [Option.elim_some, ← performed_append, ih, List.append_assoc, List.singleton_append]

def Told (id : RegistryId) (before after : World) (events : List Event) : Prop :=
  after.journal.toList = before.journal.toList ++ events ∧
    after.registries id = replay id (before.registries id) events

variable {id : RegistryId} {before middle after : World} {spared : PromiseId → Bool}

private theorem Told.silent (journal : after.journal = before.journal)
    (same : after.registries id = before.registries id) : Told id before after [] :=
  ⟨by rw [journal, List.append_nil], same⟩

private theorem Told.trans {events later} (first : Told id before middle events) (rest : Told id middle after later) :
    Told id before after (events ++ later) :=
  ⟨by rw [rest.1, first.1, List.append_assoc], by rw [rest.2, first.2, replay_append]⟩

private theorem setEnabled_told (world : World) (registry : RegistryId) (enabled : Bool) :
    ∃ events, Told id world (world.setEnabled registry enabled) events := by
  simp only [World.setEnabled]
  split
  next same =>
    refine ⟨[], .silent rfl ?_⟩
    simp only [World.setRegistry, ← same]
    split
    next equal => rw [equal]
    next => rfl
  next =>
    refine ⟨[.switched registry enabled], by simp [World.record, World.setRegistry], ?_⟩
    by_cases equal : id = registry
    · subst equal
      simp [World.record, World.setRegistry, replay, replayEvent]
    · simp [World.record, World.setRegistry, replay, replayEvent, equal, Ne.symm equal]

private theorem register_told (world : World) (registry : RegistryId) (root : BuiltinType) (tag : CustomType)
    (check : CheckId) : ∃ events, Told id world (world.register registry root tag check) events := by
  refine ⟨[if (world.registries registry).isPlaced root tag then .replaced registry root tag check
    else .registered registry root tag check], by simp [World.register, World.record, World.setRegistry], ?_⟩
  by_cases equal : id = registry
  · subst equal
    cases (world.registries id).isPlaced root tag <;>
      simp [World.register, World.record, World.setRegistry, replay, replayEvent]
  · cases (world.registries registry).isPlaced root tag <;>
      simp [World.register, World.record, World.setRegistry, replay, replayEvent, equal, Ne.symm equal]

private theorem Change.told (changed : Change spared before after) (opened : id.index < before.opened) :
    ∃ events, Told id before after events := by
  cases changed with
  | note text => exact ⟨[.note text], by simp [World.record], rfl⟩
  | guarding kind name signature => exact ⟨[.guarding kind name signature], by simp [World.record], rfl⟩
  | openRegistry settings => exact ⟨[], .silent rfl (World.registries_openRegistry opened settings)⟩
  | setEnabled registry enabled => exact setEnabled_told before registry enabled
  | register registry root tag check => exact register_told before registry root tag check
  | defer | setCell | identify | remember => exact ⟨[], .silent rfl rfl⟩

private theorem Change.opened_le (changed : Change spared before after) : before.opened ≤ after.opened := by
  cases changed with
  | openRegistry => exact Nat.le_succ _
  | setEnabled => exact Nat.le_of_eq (World.opened_setEnabled ..).symm
  | note | guarding | register | defer | setCell | identify | remember => exact Nat.le_refl _

/-- An open registry is changed by nothing but the registrations and switches that the journal shows. -/
theorem Changes.told (made : Changes spared before after) (opened : id.index < before.opened) :
    ∃ events, Told id before after events := by
  have run : before.opened ≤ after.opened ∧ ∃ events, Told id before after events := by
    induction made with
    | refl => exact ⟨Nat.le_refl _, [], .silent rfl rfl⟩
    | tail _ changed ih =>
      obtain ⟨grown, events, told⟩ := ih
      obtain ⟨later, step⟩ := changed.told (Nat.lt_of_lt_of_le opened grown)
      exact ⟨Nat.le_trans grown changed.opened_le, events ++ later, told.trans step⟩
  exact run.2

end TypeGuard.Proofs
