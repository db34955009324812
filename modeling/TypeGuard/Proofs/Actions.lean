import TypeGuard.World

/-! What an action makes of a world. A search tries the items of a list in turn, each in the world
that the one before left, and ends at the first item that does not let it pass. -/

namespace TypeGuard.Proofs

variable {α β ι : Type}

theorem pure_run (value : α) (world : World) : (pure value : Action α) world = some (value, world) := rfl

theorem bind_run (first : Action α) (next : α → Action β) (world : World) :
    (first >>= next) world = (first world).bind fun result => next result.1 result.2 := rfl

theorem map_run (f : α → β) (action : Action α) (world : World) :
    (f <$> action) world = (action world).map fun result => (f result.1, result.2) := by
  rw [map_eq_pure_bind, bind_run]
  cases action world <;> rfl

theorem read_run (view : World → α) (world : World) : Action.read view world = some (view world, world) := rfl

theorem change_run (update : World → World) (world : World) :
    Action.change update world = some ((), update world) := rfl

/-- The items take their steps in turn, each from the world that the one before left. -/
inductive InTurn (step : ι → World → World → Prop) : List ι → World → World → Prop where
  | nil {world} : InTurn step [] world world
  | cons {item items before middle after} (first : step item before middle)
      (rest : InTurn step items middle after) : InTurn step (item :: items) before after

theorem InTurn.map_iff {κ : Type} {step : ι → World → World → Prop} {f : κ → ι} {items : List κ} {before after} :
    InTurn step (items.map f) before after ↔ InTurn (fun item => step (f item)) items before after := by
  constructor
  · intro turns
    induction items generalizing before with
    | nil => cases turns; exact .nil
    | cons item items ih =>
      cases turns with
      | cons first rest => exact .cons first (ih rest)
  · intro turns
    induction turns with
    | nil => exact .nil
    | cons first _ ih => exact .cons first ih

/-- Trying the item finds nothing, so that the search goes on. -/
def Passes (search : ι → Action (Option β)) (item : ι) (before after : World) : Prop :=
  search item before = some (none, after)

/-- How a search comes out: at the first item that does not let it pass, or at the end of the list.
An item at which the search has no result leaves it without one. -/
inductive Searched (search : ι → Action (Option β)) (before : World) :
    List ι → Option (Option β × World) → Prop where
  | stopped {earlier item later middle} {result : Option (Option β × World)}
      (passed : InTurn (Passes search) earlier before middle) (tried : search item middle = result)
      (ended : ∀ after, result ≠ some (none, after)) : Searched search before (earlier ++ item :: later) result
  | passed {items after} (passed : InTurn (Passes search) items before after) :
      Searched search before items (some (none, after))

private theorem Searched.cons {search : ι → Action (Option β)} {item items before middle result}
    (first : Passes search item before middle) (rest : Searched search middle items result) :
    Searched search before (item :: items) result := by
  cases rest with
  | stopped passed tried ended =>
    rw [← List.cons_append]
    exact .stopped (.cons first passed) tried ended
  | passed passed => exact .passed (.cons first passed)

private theorem Searched.first {search : ι → Action (Option β)} {item : ι} {items before result}
    (tried : search item before = result) (ended : ∀ after, result ≠ some (none, after)) :
    Searched search before (item :: items) result := by
  have stop : Searched search before ([] ++ item :: items) result := .stopped .nil tried ended
  exact stop

private theorem searched (search : ι → Action (Option β)) (items : List ι) (before : World) :
    Searched search before items (items.findSomeM? search before) := by
  induction items generalizing before with
  | nil => exact .passed .nil
  | cons item items ih =>
    rw [List.findSomeM?_cons, bind_run]
    cases tried : search item before with
    | none => exact .first tried (by simp)
    | some result =>
      obtain ⟨found, middle⟩ := result
      cases found with
      | none => exact .cons tried (ih middle)
      | some found => exact .first tried (by simp [pure_run])

theorem findSomeM?_append (search : ι → Action (Option β)) (earlier later : List ι) :
    (earlier ++ later).findSomeM? search = earlier.findSomeM? search >>= fun
      | some found => pure (some found)
      | none => later.findSomeM? search := by
  induction earlier with
  | nil => rfl
  | cons item earlier ih =>
    rw [List.cons_append, List.findSomeM?_cons, List.findSomeM?_cons, bind_assoc, ih]
    congr 1
    funext found
    cases found <;> rfl

private theorem findSomeM?_passed {search : ι → Action (Option β)} {items : List ι} {before after}
    (passed : InTurn (Passes search) items before after) : items.findSomeM? search before = some (none, after) := by
  induction passed with
  | nil => rfl
  | cons first _ ih =>
    rw [List.findSomeM?_cons, bind_run, first]
    exact ih

private theorem Searched.unique {search : ι → Action (Option β)} {items : List ι} {before result}
    (out : Searched search before items result) : items.findSomeM? search before = result := by
  cases out with
  | @stopped earlier item later middle _ passed tried ended =>
    rw [findSomeM?_append, bind_run, findSomeM?_passed passed, Option.bind_some, List.findSomeM?_cons]
    change (search item middle).bind _ = result
    rw [tried]
    cases result with
    | none => rfl
    | some result =>
      obtain ⟨found, after⟩ := result
      cases found with
      | none => exact absurd rfl (ended after)
      | some found => rfl
  | passed passed => exact findSomeM?_passed passed

theorem findSomeM?_eq_iff {search : ι → Action (Option β)} {items : List ι} {before result} :
    items.findSomeM? search before = result ↔ Searched search before items result :=
  ⟨fun same => same ▸ searched search items before, Searched.unique⟩

theorem findSomeM?_passed_iff {search : ι → Action (Option β)} {items : List ι} {before after : World} :
    items.findSomeM? search before = some (none, after) ↔ InTurn (Passes search) items before after := by
  rw [findSomeM?_eq_iff]
  constructor
  · intro out
    cases out with
    | stopped passed tried ended => exact absurd rfl (ended after)
    | passed passed => exact passed
  · exact .passed

end TypeGuard.Proofs
