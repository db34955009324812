import Mathlib.Data.List.Nodup
import TypeGuard.Proofs.RegistryState

/-! The life of a promise, step by step. A promise is made unstarted, under a handle that no other has. Once it
has been started it is never unstarted again, and once it has an outcome it keeps it. -/

namespace TypeGuard.Proofs

namespace Step

/-- Steps that treat the cells of promises as a poll does: it starts or takes up a promise, and suspends or settles
only what it is advancing. -/
def Permitted (world : World) : Step → Prop
  | .setCell promise .running =>
    ∃ routine, world.cell? promise = some (.unstarted routine) ∨ world.cell? promise = some (.suspended routine)
  | .setCell promise (.suspended _) | .setCell promise (.settled _) => world.cell? promise = some .running
  | .setCell _ (.unstarted _) => False
  | _ => True

def made? (world : World) : Step → Option (PromiseId × Routine)
  | .defer routine => some (world.nextPromise, routine)
  | _ => none

def start? (world : World) : Step → Option (PromiseId × Routine)
  | .setCell promise .running =>
    match world.cell? promise with
    | some (.unstarted routine) => some (promise, routine)
    | _ => none
  | _ => none

theorem start?_eq_some {world : World} {step : Step} {promise : PromiseId} {routine : Routine} :
    step.start? world = some (promise, routine) ↔
      step = .setCell promise .running ∧ world.cell? promise = some (.unstarted routine) := by
  constructor
  · intro starts
    unfold start? at starts
    split at starts
    · split at starts
      · next held =>
        cases starts
        exact ⟨rfl, held⟩
      · cases starts
    · cases starts
  · rintro ⟨rfl, held⟩
    simp only [start?, held]

theorem cell?_take (world : World) (step : Step) (promise : PromiseId) :
    (step.take world).cell? promise =
      match step with
      | .defer routine => if promise = world.nextPromise then some (.unstarted routine) else world.cell? promise
      | .setCell other cell => if promise = other then (world.cell? promise).map fun _ => cell else world.cell? promise
      | _ => world.cell? promise := by
  cases step with
  | defer routine => exact World.cell?_addCell_eq ..
  | setCell other cell => exact World.cell?_setCell_eq ..
  | operate registry operation =>
    cases operation with
    | register root tag check => rfl
    | switch enabled => simp only [take, World.cell?, World.cells_setEnabled]
  | note | guarding | openRegistry | identify | remember => rfl

end Step

theorem cell?_next (world : World) : world.cell? world.nextPromise = none :=
  Array.getElem?_eq_none (Nat.le_refl _)

theorem cell?_take_kept {world : World} {step : Step} {promise : PromiseId} {cell : Cell}
    (held : world.cell? promise = some cell) (apart : ∀ new, step ≠ .setCell promise new) :
    (step.take world).cell? promise = some cell := by
  rw [Step.cell?_take]
  cases step with
  | note | guarding | openRegistry | operate | identify | remember => exact held
  | defer routine =>
    have old : promise ≠ world.nextPromise := by
      rintro rfl
      rw [cell?_next] at held
      cases held
    exact (if_neg old).trans held
  | setCell other new =>
    have different : promise ≠ other := by
      rintro rfl
      exact apart new rfl
    exact (if_neg different).trans held

/-- Every step is permitted in the world that it finds. -/
def Orderly (world : World) : List Step → Prop
  | [] => True
  | step :: steps => step.Permitted world ∧ Orderly (step.take world) steps

/-- What is found in the steps, each looked at in the world that it finds. -/
def gathered {β : Type} (found : World → Step → Option β) (world : World) : List Step → List β
  | [] => []
  | step :: steps => (found world step).toList ++ gathered found (step.take world) steps

abbrev created (world : World) (steps : List Step) : List (PromiseId × Routine) :=
  gathered Step.made? world steps

abbrev started (world : World) (steps : List Step) : List (PromiseId × Routine) :=
  gathered Step.start? world steps

/-- The promises that have not been started. -/
def waiting (world : World) : List (PromiseId × Routine) :=
  (List.range world.cells.size).filterMap fun index =>
    match world.cell? ⟨index⟩ with
    | some (.unstarted routine) => some (⟨index⟩, routine)
    | _ => none

variable {before : World} {steps : List Step} {promise : PromiseId} {routine : Routine}

theorem orderly_append {later : List Step} (first : Orderly before steps) (rest : Orderly (taken before steps) later) :
    Orderly before (steps ++ later) := by
  induction steps generalizing before with
  | nil => exact rest
  | cons step steps ih => exact ⟨first.1, ih first.2 rest⟩

theorem gathered_append {β : Type} (found : World → Step → Option β) (world : World) (steps later : List Step) :
    gathered found world (steps ++ later) = gathered found world steps ++ gathered found (taken world steps) later := by
  induction steps generalizing world with
  | nil => rfl
  | cons step steps ih =>
    rw [List.cons_append, gathered, gathered, ih, List.append_assoc]
    rfl

theorem mem_waiting {world : World} :
    (promise, routine) ∈ waiting world ↔ world.cell? promise = some (.unstarted routine) := by
  simp only [waiting, List.mem_filterMap, List.mem_range]
  constructor
  · rintro ⟨index, -, found⟩
    split at found
    · next held =>
      cases found
      exact held
    · cases found
  · intro held
    refine ⟨promise.index, (Array.getElem?_eq_some_iff.mp held).1, ?_⟩
    rw [held]

private theorem waiting_ids_nodup (world : World) : ((waiting world).map Prod.fst).Nodup := by
  rw [waiting, List.map_filterMap]
  apply List.nodup_range.filterMap
  intro index other promise found found'
  obtain ⟨⟨_, _⟩, held, rfl⟩ := Option.map_eq_some_iff.mp found
  obtain ⟨⟨_, _⟩, held', same⟩ := Option.map_eq_some_iff.mp found'
  split at held <;> cases held
  split at held' <;> cases held'
  cases same
  rfl

private theorem mem_waiting_take {world : World} {step : Step} (permitted : step.Permitted world) :
    (promise, routine) ∈ waiting world ∨ step.made? world = some (promise, routine) ↔
      step.start? world = some (promise, routine) ∨ (promise, routine) ∈ waiting (step.take world) := by
  rw [mem_waiting, mem_waiting, Step.start?_eq_some, Step.cell?_take]
  cases step with
  | note | guarding | openRegistry | operate | identify | remember => simp [Step.made?]
  | defer made =>
    by_cases next : promise = world.nextPromise
    · subst next
      simp [Step.made?, cell?_next]
    · simp [Step.made?, next, Ne.symm next]
  | setCell other cell =>
    by_cases same : promise = other
    · subst same
      cases cell with
      | unstarted => exact permitted.elim
      | running => simp [Step.made?]
      | suspended | settled =>
        have running : world.cell? promise = some .running := permitted
        simp [Step.made?, running]
    · simp [Step.made?, same, Ne.symm same]

private theorem cell?_take_none {world : World} {step : Step} (missing : (step.take world).cell? promise = none) :
    world.cell? promise = none := by
  rw [Step.cell?_take] at missing
  split at missing
  · split at missing
    · cases missing
    · exact missing
  · split at missing
    · exact Option.map_eq_none_iff.mp missing
    · exact missing
  · exact missing

theorem cell?_taken_none (missing : (taken before steps).cell? promise = none) : before.cell? promise = none := by
  induction steps generalizing before with
  | nil => exact missing
  | cons step steps ih => exact cell?_take_none (ih missing)

private theorem made?_eq_some {world : World} {step : Step} {made : PromiseId × Routine}
    (makes : step.made? world = some made) : world.cell? made.1 = none ∧ (step.take world).cell? made.1 ≠ none := by
  cases step with
  | defer routine =>
    cases makes
    refine ⟨cell?_next world, ?_⟩
    rw [Step.take, World.cell?_nextPromise]
    exact Option.some_ne_none _
  | note | guarding | openRegistry | operate | setCell | identify | remember => cases makes

private theorem created_fresh {made : PromiseId × Routine} (member : made ∈ created before steps) :
    before.cell? made.1 = none := by
  induction steps generalizing before with
  | nil => cases member
  | cons step steps ih =>
    rw [created, gathered, List.mem_append, Option.mem_toList] at member
    obtain makes | later := member
    · exact (made?_eq_some makes).1
    · exact cell?_take_none (ih later)

private theorem created_ids_nodup (world : World) (steps : List Step) :
    ((created world steps).map Prod.fst).Nodup := by
  induction steps generalizing world with
  | nil => exact List.nodup_nil
  | cons step steps ih =>
    rw [created, gathered]
    cases makes : step.made? world with
    | none => exact ih (step.take world)
    | some made =>
      rw [Option.toList_some, List.singleton_append, List.map_cons, List.nodup_cons]
      refine ⟨?_, ih (step.take world)⟩
      intro again
      obtain ⟨_, later, same⟩ := List.mem_map.mp again
      exact (made?_eq_some makes).2 (same ▸ created_fresh later)

theorem waiting_created_distinct (world : World) (steps : List Step) :
    ((waiting world ++ created world steps).map Prod.fst).Nodup := by
  rw [List.map_append, List.nodup_append']
  refine ⟨waiting_ids_nodup world, created_ids_nodup world steps, ?_⟩
  intro promise waits makes
  obtain ⟨⟨_, routine⟩, held, rfl⟩ := List.mem_map.mp waits
  obtain ⟨made, member, same⟩ := List.mem_map.mp makes
  have fresh := created_fresh member
  rw [same, mem_waiting.mp held] at fresh
  cases fresh

private theorem start_waiting_nodup (world : World) (step : Step) :
    ((step.start? world).toList ++ waiting (step.take world)).Nodup := by
  have waits := (waiting_ids_nodup (step.take world)).of_map
  cases starts : step.start? world with
  | none => exact waits
  | some start =>
    rw [Option.toList_some, List.singleton_append, List.nodup_cons]
    refine ⟨fun again => ?_, waits⟩
    obtain ⟨rfl, -⟩ := Step.start?_eq_some.mp starts
    have running := mem_waiting.mp again
    simp only [Step.cell?_take, if_pos] at running
    obtain ⟨_, -, same⟩ := Option.map_eq_some_iff.mp running
    cases same

private theorem waiting_take {world : World} {step : Step} (permitted : step.Permitted world) :
    (waiting world ++ (step.made? world).toList).Perm ((step.start? world).toList ++ waiting (step.take world)) := by
  have distinct := (waiting_created_distinct world [step]).of_map
  rw [created, gathered, gathered, List.append_nil] at distinct
  rw [List.perm_ext_iff_of_nodup distinct (start_waiting_nodup world step)]
  rintro ⟨promise, routine⟩
  rw [List.mem_append, List.mem_append, Option.mem_toList, Option.mem_toList]
  exact mem_waiting_take permitted

/-- A promise that has waited or was made on the way has been started or waits still, and never both. -/
theorem waiting_conserved (orderly : Orderly before steps) :
    (waiting before ++ created before steps).Perm (started before steps ++ waiting (taken before steps)) := by
  induction steps generalizing before with
  | nil => exact .of_eq (List.append_nil _)
  | cons step steps ih =>
    calc waiting before ++ created before (step :: steps)
      _ = waiting before ++ (step.made? before).toList ++ created (step.take before) steps := (List.append_assoc ..).symm
      List.Perm _ ((step.start? before).toList ++ waiting (step.take before) ++ created (step.take before) steps) :=
        (waiting_take orderly.1).append_right _
      _ = (step.start? before).toList ++ (waiting (step.take before) ++ created (step.take before) steps) :=
        List.append_assoc ..
      List.Perm _ ((step.start? before).toList ++ (started (step.take before) steps ++ waiting (taken before (step :: steps)))) :=
        (ih orderly.2).append_left _
      _ = started before (step :: steps) ++ waiting (taken before (step :: steps)) := (List.append_assoc ..).symm

theorem outcome?_eq_some {world : World} {outcome : Outcome} :
    world.outcome? promise = some outcome ↔ world.cell? promise = some (.settled outcome) := by
  rw [World.outcome?]
  split
  · next held => rw [held, Option.some.injEq, Option.some.injEq, Cell.settled.injEq]
  · next unsettled => exact ⟨nofun, fun held => (unsettled outcome held).elim⟩

private theorem unsettled_setCell {world : World} {cell : Cell} (permitted : (Step.setCell promise cell).Permitted world) :
    world.outcome? promise = none := by
  cases cell with
  | unstarted => exact permitted.elim
  | running =>
    obtain ⟨_, held | held⟩ := permitted
    · rw [World.outcome?, held]
    · rw [World.outcome?, held]
  | suspended | settled =>
    have held : world.cell? promise = some .running := permitted
    rw [World.outcome?, held]

private theorem outcome?_take {world : World} {step : Step} (permitted : step.Permitted world) {outcome : Outcome}
    (settled : world.outcome? promise = some outcome) : (step.take world).outcome? promise = some outcome := by
  rw [outcome?_eq_some] at settled ⊢
  apply cell?_take_kept settled
  rintro cell rfl
  have unsettled := unsettled_setCell permitted
  rw [World.outcome?, settled] at unsettled
  cases unsettled

/-- An outcome comes from the step that settles the promise, while it is being advanced. -/
private theorem outcome?_take_new {world : World} {step : Step} (permitted : step.Permitted world) {outcome : Outcome}
    (pending : world.outcome? promise = none) (settled : (step.take world).outcome? promise = some outcome) :
    step = .setCell promise (.settled outcome) ∧ world.cell? promise = some .running := by
  have unsettled : world.cell? promise ≠ some (.settled outcome) := fun held => by
    rw [outcome?_eq_some.mpr held] at pending
    cases pending
  rw [outcome?_eq_some, Step.cell?_take] at settled
  split at settled
  · split at settled
    · cases settled
    · exact (unsettled settled).elim
  · split at settled
    · next same =>
      subst same
      obtain ⟨_, -, rfl⟩ := Option.map_eq_some_iff.mp settled
      exact ⟨rfl, permitted⟩
    · exact (unsettled settled).elim
  · exact (unsettled settled).elim

private theorem outcome?_taken (orderly : Orderly before steps) {outcome : Outcome}
    (settled : before.outcome? promise = some outcome) : (taken before steps).outcome? promise = some outcome := by
  induction steps generalizing before with
  | nil => exact settled
  | cons step steps ih => exact ih orderly.2 (outcome?_take orderly.1 settled)

private theorem outcome?_taken_new (orderly : Orderly before steps) {outcome : Outcome}
    (pending : before.outcome? promise = none) (settled : (taken before steps).outcome? promise = some outcome) :
    ∃ earlier later, steps = earlier ++ .setCell promise (.settled outcome) :: later ∧
      (taken before earlier).cell? promise = some .running := by
  induction steps generalizing before with
  | nil =>
    rw [taken, List.foldl_nil, pending] at settled
    cases settled
  | cons step steps ih =>
    cases middle : (step.take before).outcome? promise with
    | none =>
      obtain ⟨earlier, later, rfl, running⟩ := ih orderly.2 middle settled
      exact ⟨step :: earlier, later, rfl, running⟩
    | some found =>
      obtain ⟨rfl, running⟩ := outcome?_take_new orderly.1 pending middle
      have kept := outcome?_taken orderly.2 middle
      obtain rfl : found = outcome := Option.some.inj (kept.symm.trans settled)
      exact ⟨[], steps, rfl, running⟩

/-- What becomes of promises while some steps are taken. The ones that waited for their start and the ones that
are made are each started once, or wait on; an outcome stays; and a promise gets its outcome in the step
that ends its advance. -/
structure PromisesKept (before : World) (steps : List Step) : Prop where
  conserved : (waiting before ++ created before steps).Perm (started before steps ++ waiting (taken before steps))
  fresh : ∀ made ∈ created before steps, before.cell? made.1 = none
  distinct : ((waiting before ++ created before steps).map Prod.fst).Nodup
  once : ((started before steps).map Prod.fst).Nodup
  counted : ∀ counts : PromiseId × Routine → Bool,
    (started before steps).countP counts ≤ (waiting before).countP counts + (created before steps).countP counts
  settled : ∀ promise outcome, before.outcome? promise = some outcome →
    (taken before steps).outcome? promise = some outcome
  finished : ∀ promise outcome, before.outcome? promise = none → (taken before steps).outcome? promise = some outcome →
    ∃ earlier later, steps = earlier ++ .setCell promise (.settled outcome) :: later ∧
      (taken before earlier).cell? promise = some .running

theorem promises_kept (orderly : Orderly before steps) : PromisesKept before steps := by
  have conserved := waiting_conserved orderly
  have distinct := waiting_created_distinct before steps
  refine
    { conserved, distinct
      fresh := fun made member => created_fresh member
      once := ?_
      counted := ?_
      settled := fun promise outcome => outcome?_taken orderly
      finished := fun promise outcome => outcome?_taken_new orderly }
  · have apart := (conserved.map Prod.fst).nodup_iff.mp distinct
    rw [List.map_append] at apart
    exact (List.nodup_append'.mp apart).1
  · intro counts
    have same := conserved.countP_eq counts
    rw [List.countP_append, List.countP_append] at same
    omega

end TypeGuard.Proofs
