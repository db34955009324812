import Mathlib.Logic.Relation
import TypeGuard.Proofs.Following

/-! The single changes that worlds go through. Whatever runs, the world it leaves comes from the one
it found by such changes, so that what outlasts each of them outlasts every run. -/

namespace TypeGuard.Proofs

/-- A single change of a world. Spared promises are not advanced. -/
inductive Change (spared : PromiseId → Bool) : World → World → Prop where
  | note (text) {world} : Change spared world (world.record (.note text))
  | guarding (kind name signature) {world} : Change spared world (world.record (.guarding kind name signature))
  | openRegistry (settings) {world} : Change spared world (world.openRegistry settings)
  | setEnabled (registry enabled) {world} : Change spared world (world.setEnabled registry enabled)
  | register (registry root tag check) {world} : Change spared world (world.register registry root tag check)
  | defer (routine) {world} : Change spared world (world.addCell (.unstarted routine))
  | setCell (promise cell) {world} (permitted : spared promise = false) : Change spared world (world.setCell promise cell)
  | identify {world} : Change spared world { world with identities := world.identities + 1 }
  | remember (key value) {world} : Change spared world (world.remember key value)

abbrev Changes (spared : PromiseId → Bool) : World → World → Prop :=
  Relation.ReflTransGen (Change spared)

variable {α : Type} {spared : PromiseId → Bool} {start before after : World}

def Same (holds : World → Prop) (before before' : World) : Prop :=
  before' = before ∧ holds before

theorem same_alike {holds : World → Prop}
    (kept : ∀ {before after}, Change spared before after → holds before → holds after) : Alike spared (Same holds) := by
  have step (update : World → World) {before before'} (same : Same holds before before')
      (changed : Change spared before (update before)) : Same holds (update before) (update before') := by
    obtain ⟨rfl, held⟩ := same
    exact ⟨rfl, kept changed held⟩
  exact
    { opened := fun same => by rw [same.1]
      refinements := fun same _ _ => by rw [same.1]
      nextPromise := fun same => by rw [same.1]
      cell? := fun _ _ _ _ same => by rw [same.1]
      outcome? := fun _ _ _ same => by rw [same.1]
      memory := fun same => by rw [same.1]
      identities := fun same => by rw [same.1]
      note := fun text _ _ same => step (·.record (.note text)) same (.note text)
      guarding := fun kind name signature _ _ same =>
        step (·.record (.guarding kind name signature)) same (.guarding kind name signature)
      openRegistry := fun settings _ _ same => step (·.openRegistry settings) same (.openRegistry settings)
      setEnabled := fun registry enabled _ _ same =>
        step (·.setEnabled registry enabled) same (.setEnabled registry enabled)
      register := fun registry root tag check _ _ same =>
        step (·.register registry root tag check) same (.register registry root tag check)
      defer := fun routine _ _ same => step (·.addCell (.unstarted routine)) same (.defer routine)
      setCell := fun promise permitted cell _ _ same =>
        step (·.setCell promise cell) same (.setCell promise cell permitted)
      identify := fun same => step (fun world => { world with identities := world.identities + 1 }) same .identify
      remember := fun key value _ _ same => step (·.remember key value) same (.remember key value) }

theorem Same.enabled {holds : World → Prop} (registry : RegistryId) (before before' : World)
    (same : Same holds before before') :
    (before.registries registry).enabled = (before'.registries registry).enabled := by
  rw [same.1]

theorem Follows.same {holds : World → Prop} {first second : Action α} {value}
    (follows : Follows (Same holds) first second) (held : holds before)
    (ran : first before = some (value, after)) : second before = some (value, after) ∧ holds after := by
  obtain ⟨_, followed, rfl, still⟩ := follows before before ⟨rfl, held⟩ value after ran
  exact ⟨followed, still⟩

private theorem changes_alike (spared : PromiseId → Bool) (start : World) : Alike spared (Same (Changes spared start)) :=
  same_alike fun changed made => made.tail changed

private theorem host_changes (host : Host) (depth : Nat) :
    DispatchFollows (Same (Changes (fun _ => false) start)) (host.dispatch depth) (host.dispatch depth) := by
  apply dispatch_follows host (changes_alike _ start) Same.enabled
  intro dispatch promise seen
  cases seen

/-- A run that spares some promises is an ordinary run, and none of its changes advances them. -/
theorem sparing_run (host : Host) (depth : Nat) (program : Program α) {value}
    (ran : program.run (sparing host spared depth) before = some (value, after)) :
    program.run (host.dispatch depth) before = some (value, after) ∧ Changes spared before after := by
  have like := changes_alike spared before
  have follows := sparing_follows host like Same.enabled depth
  exact (run_follows like follows Same.enabled program).same .refl ran

theorem classify_changes (host : Host) (depth : Nat) (registry : RegistryId) (value : Value) {tag}
    (ran : classify (host.dispatch depth) registry value before = some (tag, after)) :
    Changes (fun _ => false) before after :=
  ((classify_follows (changes_alike _ before) (host_changes host depth) registry value).same .refl ran).2

/-- A promise that a run spares stays as it is. -/
theorem Changes.keep_spared {promise : PromiseId} {cell} (made : Changes spared before after)
    (kept : spared promise = true) (held : before.cell? promise = some cell) : after.cell? promise = some cell := by
  induction made with
  | refl => exact held
  | tail _ changed ih =>
    cases changed with
    | note | guarding | openRegistry | register | identify | remember => exact ih
    | setEnabled registry enabled => rwa [World.cell?, World.cells_setEnabled]
    | defer routine => exact World.cell?_addCell _ ih
    | setCell other _ permitted =>
      have different : promise ≠ other := by
        rintro rfl
        rw [kept] at permitted
        cases permitted
      rwa [World.cell?_setCell_of_ne different]

end TypeGuard.Proofs
