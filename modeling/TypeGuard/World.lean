import TypeGuard.Journal
import TypeGuard.Program

/-! What a run keeps: registries, promises, the memory of the host, and the journal. An action
changes the world and gives a result; it has none if its calls are nested too deep. -/

namespace TypeGuard

/-- How far a promise has come. -/
inductive Cell
  | unstarted (routine : Routine)
  | suspended (routine : Routine)
  /-- It is being advanced right now. -/
  | running
  | settled (outcome : Outcome)

structure World where
  registries : RegistryId → Registry
  /-- The number of registries handed out. -/
  opened : Nat
  cells : Array Cell
  memory : Nat → Value
  /-- The number of identities handed out. -/
  identities : Nat
  journal : Array Event

def RegistryId.shared : RegistryId :=
  ⟨0⟩

namespace World

def start : World where
  registries _ := {}
  opened := 1
  cells := #[]
  memory _ := .undefined
  identities := 0
  journal := #[]

def record (world : World) (event : Event) : World :=
  { world with journal := world.journal.push event }

def setRegistry (world : World) (id : RegistryId) (registry : Registry) : World :=
  { world with registries := fun other => if other = id then registry else world.registries other }

/-- Opens a fresh registry, whose handle is the number of those opened before. -/
def openRegistry (world : World) (settings : Registry.Settings) : World :=
  { world.setRegistry ⟨world.opened⟩ (.ofSettings settings) with opened := world.opened + 1 }

def setEnabled (world : World) (id : RegistryId) (enabled : Bool) : World :=
  let registry := world.registries id
  let world := world.setRegistry id { registry with enabled }
  if registry.enabled = enabled then world else world.record (.switched id enabled)

/-- Registers a check, and records whether its custom type is new at its place. -/
def register (world : World) (id : RegistryId) (root : BuiltinType) (tag : CustomType)
    (check : CheckId) : World :=
  let registry := world.registries id
  (world.setRegistry id (registry.place root tag check)).record
    (if registry.isPlaced root tag then .replaced id root tag check
      else .registered id root tag check)

def cell? (world : World) (id : PromiseId) : Option Cell :=
  world.cells[id.index]?

def setCell (world : World) (id : PromiseId) (cell : Cell) : World :=
  { world with cells := world.cells.setIfInBounds id.index cell }

def nextPromise (world : World) : PromiseId :=
  ⟨world.cells.size⟩

def addCell (world : World) (cell : Cell) : World :=
  { world with cells := world.cells.push cell }

def outcome? (world : World) (id : PromiseId) : Option Outcome :=
  match world.cell? id with
  | some (.settled outcome) => some outcome
  | _ => none

def remember (world : World) (key : Nat) (value : Value) : World :=
  { world with memory := fun other => if other = key then value else world.memory other }

/-- A fresh registry leaves those that are open as they are. -/
theorem registries_openRegistry {world : World} {id : RegistryId} (opened : id.index < world.opened)
    (settings : Registry.Settings) : (world.openRegistry settings).registries id = world.registries id := by
  have different : id ≠ ⟨world.opened⟩ := by
    rintro rfl
    exact Nat.lt_irrefl _ opened
  simp [openRegistry, setRegistry, different]

theorem registries_setEnabled (world : World) (id other : RegistryId) (enabled : Bool) :
    (world.setEnabled id enabled).registries other =
      if other = id then { world.registries id with enabled } else world.registries other := by
  simp only [setEnabled]
  split <;> rfl

theorem registries_register (world : World) (id other : RegistryId) (root : BuiltinType) (tag : CustomType)
    (check : CheckId) :
    (world.register id root tag check).registries other =
      if other = id then (world.registries id).place root tag check else world.registries other := rfl

@[simp] theorem opened_setEnabled (world : World) (id : RegistryId) (enabled : Bool) :
    (world.setEnabled id enabled).opened = world.opened := by
  simp only [setEnabled]
  split <;> rfl

@[simp] theorem cells_setEnabled (world : World) (id : RegistryId) (enabled : Bool) :
    (world.setEnabled id enabled).cells = world.cells := by
  simp only [setEnabled]
  split <;> rfl

@[simp] theorem cell?_nextPromise (world : World) (cell : Cell) :
    (world.addCell cell).cell? world.nextPromise = some cell := by
  simp [cell?, addCell, nextPromise]

theorem cell?_addCell {world : World} {id : PromiseId} {cell : Cell} (new : Cell)
    (held : world.cell? id = some cell) : (world.addCell new).cell? id = some cell := by
  rw [cell?, Array.getElem?_eq_some_iff] at held
  obtain ⟨inside, same⟩ := held
  simp [cell?, addCell, Array.getElem?_push_lt inside, same]

theorem cell?_setCell_self {world : World} {id : PromiseId} (inside : id.index < world.cells.size) (cell : Cell) :
    (world.setCell id cell).cell? id = some cell := by
  simp [cell?, setCell, inside]

theorem cell?_setCell_of_ne {world : World} {id other : PromiseId} (different : other ≠ id) (cell : Cell) :
    (world.setCell id cell).cell? other = world.cell? other := by
  have apart : id.index ≠ other.index := fun same => different (by cases id; cases other; simp_all)
  simp [cell?, setCell, Array.getElem?_setIfInBounds_ne apart]

theorem cell?_addCell_eq (world : World) (cell : Cell) (id : PromiseId) :
    (world.addCell cell).cell? id = if id = world.nextPromise then some cell else world.cell? id := by
  obtain ⟨index⟩ := id
  simp only [cell?, addCell, nextPromise, Array.getElem?_push, PromiseId.mk.injEq]

theorem cell?_setCell_eq (world : World) (other : PromiseId) (cell : Cell) (id : PromiseId) :
    (world.setCell other cell).cell? id = if id = other then (world.cell? id).map fun _ => cell else world.cell? id := by
  split
  next same =>
    subst same
    cases held : world.cell? id with
    | none =>
      have outside : world.cells.size ≤ id.index := Array.getElem?_eq_none_iff.mp held
      rw [setCell, Array.setIfInBounds_eq_of_size_le outside, held, Option.map_none]
    | some old => exact cell?_setCell_self (Array.getElem?_eq_some_iff.mp held).1 cell
  next different => exact cell?_setCell_of_ne different cell

@[simp] theorem setCell_setCell (world : World) (id : PromiseId) (cell replaced : Cell) :
    (world.setCell id replaced).setCell id cell = world.setCell id cell := by
  simp [setCell]

theorem setCell_comm {id other : PromiseId} (different : id ≠ other) (world : World) (cell another : Cell) :
    (world.setCell id cell).setCell other another = (world.setCell other another).setCell id cell := by
  have apart : id.index ≠ other.index := fun same => different (by cases id; cases other; simp_all)
  simp [setCell, Array.setIfInBounds_comm _ _ apart]

theorem setCell_held {world : World} {id : PromiseId} {cell : Cell} (held : world.cell? id = some cell) :
    world.setCell id cell = world := by
  obtain ⟨inside, same⟩ := Array.getElem?_eq_some_iff.mp held
  rw [setCell, ← same, Array.setIfInBounds, dif_pos inside, Array.set_getElem_self]

@[simp] theorem nextPromise_setCell (world : World) (id : PromiseId) (cell : Cell) :
    (world.setCell id cell).nextPromise = world.nextPromise := by
  simp [nextPromise, setCell]

theorem addCell_setCell {world : World} {id : PromiseId} (inside : id.index < world.cells.size) (cell new : Cell) :
    (world.setCell id cell).addCell new = (world.addCell new).setCell id cell := by
  have same : (world.cells.setIfInBounds id.index cell).push new = (world.cells.push new).setIfInBounds id.index cell := by
    simp only [Array.setIfInBounds, inside, dif_pos, Array.size_push, Nat.lt_succ_of_lt inside]
    rw [Array.set_push, dif_pos inside]
  simp only [addCell, setCell, same]

theorem setEnabled_setCell (world : World) (promise : PromiseId) (cell : Cell) (id : RegistryId) (enabled : Bool) :
    (world.setCell promise cell).setEnabled id enabled = (world.setEnabled id enabled).setCell promise cell := by
  have same : (world.setCell promise cell).registries = world.registries := rfl
  simp only [setEnabled, same]
  split <;> rfl

end World

abbrev Action (α : Type) : Type :=
  StateT World Option α

namespace Action

variable {α : Type}

def exhausted : Action α := fun _ => none

def read (view : World → α) : Action α := do
  return view (← get)

def change (update : World → World) : Action Unit :=
  modify update

def defer (routine : Routine) : Action PromiseId := do
  let id ← read World.nextPromise
  change (·.addCell (.unstarted routine))
  return id

def freshIdentity : Action Identity := do
  let identity ← read fun world => ⟨world.identities⟩
  change fun world => { world with identities := world.identities + 1 }
  return identity

end Action

/-- The ways into code of the host, as actions. -/
structure Dispatch where
  check : CheckId → Value → Action (Option CustomType)
  body : FunctionId → List Value → Action Outcome
  routine : FunctionId → List Value → Routine
  startPass : GeneratorId → Action Unit
  nextItem : GeneratorId → Nat → Action (Option Value)
  poll : PromiseId → Action Poll

end TypeGuard
