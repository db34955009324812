import TypeGuard.Proofs.Changes

/-! What becomes of one promise while other things run. Nothing touches a promise that is being
advanced, and what a promise would do makes no difference as long as nobody polls it. -/

namespace TypeGuard.Proofs

variable {α : Type} {promise : PromiseId} {routine other : Routine} {before after : World}

private def Advancing (promise : PromiseId) : World → World → Prop :=
  Same fun world => world.cell? promise = some .running

private theorem advancing_alike (promise : PromiseId) : Alike (fun id => id = promise) (Advancing promise) :=
  same_alike fun changed held => Changes.keep_spared (.single changed) (decide_eq_true rfl) held

/-- A promise that is being advanced may be polled from within, which changes nothing. -/
private theorem polled_advancing (dispatch : Dispatch) :
    Follows (Advancing promise) (dispatch.pollCell promise) (dispatch.pollCell promise) := by
  intro before before' advancing value after polled
  obtain ⟨rfl, held⟩ := advancing
  have pending : dispatch.pollCell promise before' = some (.pending, before') := by
    rw [Dispatch.pollCell, bind_run, read_run, Option.bind_some, held]
    rfl
  rw [pending] at polled
  cases polled
  exact ⟨before', pending, rfl, held⟩

private theorem dispatch_advancing (host : Host) (depth : Nat) :
    DispatchFollows (Advancing promise) (host.dispatch depth) (host.dispatch depth) := by
  apply dispatch_follows host (advancing_alike promise) Same.enabled
  intro dispatch id same
  obtain rfl : id = promise := of_decide_eq_true same
  exact polled_advancing dispatch

theorem checkArguments_running (host : Host) (depth : Nat) (registry : RegistryId) (signature : Signature)
    (args : List Value) {refused}
    (ran : checkArguments (host.dispatch depth) registry signature args before = some (refused, after))
    (running : before.cell? promise = some .running) : after.cell? promise = some .running := by
  have follows := checkArguments_follows (advancing_alike promise) (dispatch_advancing host depth) registry signature args
  exact (follows.same running ran).2

theorem run_running (host : Host) (depth : Nat) (program : Program α) {value}
    (ran : host.run depth program before = some (value, after)) (running : before.cell? promise = some .running) :
    after.cell? promise = some .running := by
  have follows := run_follows (advancing_alike promise) (dispatch_advancing host depth) Same.enabled program
  exact (follows.same running ran).2

/-- Two worlds that differ only in what an unstarted promise would do. -/
private def Apart (promise : PromiseId) (routine other : Routine) (before before' : World) : Prop :=
  before.cell? promise = some (.unstarted routine) ∧ before' = before.setCell promise (.unstarted other)

private theorem Apart.inside {before'} (apart : Apart promise routine other before before') :
    promise.index < before.cells.size :=
  (Array.getElem?_eq_some_iff.mp apart.1).1

private theorem Apart.cell?_eq {before' id} (apart : Apart promise routine other before before') (different : id ≠ promise) :
    before.cell? id = before'.cell? id := by
  rw [apart.2, World.cell?_setCell_of_ne different]

private theorem Apart.step {before'} (apart : Apart promise routine other before before') (update : World → World)
    (kept : (update before).cell? promise = some (.unstarted routine))
    (commutes : update (before.setCell promise (.unstarted other)) =
      (update before).setCell promise (.unstarted other)) :
    Apart promise routine other (update before) (update before') := by
  obtain ⟨held, rfl⟩ := apart
  exact ⟨kept, commutes⟩

private theorem Apart.outcome?_eq {before'} (apart : Apart promise routine other before before') (id : PromiseId) :
    before.outcome? id = before'.outcome? id := by
  by_cases same : id = promise
  · subst same
    rw [World.outcome?, World.outcome?, apart.1, apart.2, World.cell?_setCell_self apart.inside]
  · rw [World.outcome?, World.outcome?, apart.cell?_eq same]

private theorem apart_alike (promise : PromiseId) (routine other : Routine) :
    Alike (fun id => id = promise) (Apart promise routine other) where
  opened apart := by rw [apart.2]; rfl
  refinements apart _ _ := by rw [apart.2]; rfl
  nextPromise apart := by rw [apart.2, World.nextPromise_setCell]
  cell? _ different _ _ apart := apart.cell?_eq (of_decide_eq_false different)
  outcome? id _ _ apart := apart.outcome?_eq id
  memory apart := by rw [apart.2]; rfl
  identities apart := by rw [apart.2]; rfl
  note text _ _ apart := apart.step (·.record (.note text)) apart.1 rfl
  guarding kind name signature _ _ apart := apart.step (·.record (.guarding kind name signature)) apart.1 rfl
  openRegistry settings _ _ apart := apart.step (·.openRegistry settings) apart.1 rfl
  setEnabled registry enabled _ _ apart :=
    apart.step (·.setEnabled registry enabled) (by rw [World.cell?, World.cells_setEnabled]; exact apart.1)
      (World.setEnabled_setCell _ _ _ _ _)
  register registry root tag check _ _ apart := apart.step (·.register registry root tag check) apart.1 rfl
  defer new _ _ apart :=
    apart.step (·.addCell (.unstarted new)) (World.cell?_addCell _ apart.1) (World.addCell_setCell apart.inside _ _)
  setCell id permitted cell _ _ apart :=
    have different : id ≠ promise := of_decide_eq_false permitted
    apart.step (·.setCell id cell) ((World.cell?_setCell_of_ne different.symm cell).trans apart.1)
      (World.setCell_comm different.symm _ _ _)
  identify apart := apart.step (fun world => { world with identities := world.identities + 1 }) apart.1 rfl
  remember key value _ _ apart := apart.step (·.remember key value) apart.1 rfl

/-- A run that does not poll an unstarted promise is the same whatever that promise would do, and
leaves it unstarted. -/
theorem unpolled_run (host : Host) (depth : Nat) (program : Program α) (other : Routine) {value}
    (held : before.cell? promise = some (.unstarted routine))
    (ran : program.run (sparing host (fun id => id = promise) depth) before = some (value, after)) :
    after.cell? promise = some (.unstarted routine) ∧ program.run (host.dispatch depth) before = some (value, after) ∧
      program.run (host.dispatch depth) (before.setCell promise (.unstarted other)) =
        some (value, after.setCell promise (.unstarted other)) := by
  have like := apart_alike promise routine other
  have shown : ∀ registry before before', Apart promise routine other before before' →
      (before.registries registry).enabled = (before'.registries registry).enabled := by
    rintro registry before _ ⟨-, rfl⟩
    rfl
  have follows := run_follows like (sparing_follows host like shown depth) shown program
  obtain ⟨_, followed, kept, rfl⟩ := follows before _ ⟨held, rfl⟩ value after ran
  exact ⟨kept, (sparing_run host depth program ran).1, followed⟩

end TypeGuard.Proofs
