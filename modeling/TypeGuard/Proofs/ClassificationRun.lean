import TypeGuard.Proofs.RegistryHistory
import TypeGuard.Script.Library

/-! What a classification makes of a value. The checks to call are settled when it starts, whatever the
checks themselves do to the registry, and all that they do is there for the next classification. -/

namespace TypeGuard.Proofs

variable {dispatch : Dispatch} {value : Value} {before : World}

/-- The check is called on the value and does not answer the tag that it stands for. -/
def Declines (dispatch : Dispatch) (value : Value) (entry : CustomType × CheckId) (before after : World) : Prop :=
  ∃ answer, dispatch.check entry.2 value before = some (answer, after) ∧ answer ≠ some entry.1

/-- How the checks of some entries, called on a value one after another, name it. -/
inductive Named (dispatch : Dispatch) (value : Value) (before : World) :
    Refinements → Option (Tag × World) → Prop where
  /-- The first check that answers its own tag decides, and no later one is called. -/
  | custom {earlier tag check later middle after} (declined : InTurn (Declines dispatch value) earlier before middle)
      (answered : dispatch.check check value middle = some (some tag, after)) :
      Named dispatch value before (earlier ++ (tag, check) :: later) (some (.custom tag, after))
  | builtin {entries after} (declined : InTurn (Declines dispatch value) entries before after) :
      Named dispatch value before entries (some (.builtin value.builtinType, after))
  | exhausted {earlier tag check later middle} (declined : InTurn (Declines dispatch value) earlier before middle)
      (nested : dispatch.check check value middle = none) :
      Named dispatch value before (earlier ++ (tag, check) :: later) none

private def consult (dispatch : Dispatch) (value : Value) (entry : CustomType × CheckId) :
    Action (Option CustomType) := do
  let answer ← dispatch.check entry.2 value
  return if answer = some entry.1 then some entry.1 else none

private theorem firstAnswering_eq (entries : Refinements) :
    firstAnswering dispatch value entries = entries.findSomeM? (consult dispatch value) := by
  induction entries with
  | nil => rfl
  | cons entry rest ih =>
    obtain ⟨tag, check⟩ := entry
    funext world
    rw [firstAnswering, List.findSomeM?_cons, bind_run, bind_run, consult, bind_run]
    cases called : dispatch.check check value world with
    | none => rfl
    | some result =>
      obtain ⟨answer, after⟩ := result
      by_cases own : answer = some tag
      · simp [own, pure_run]
      · simp [own, pure_run, ih]

private theorem consult_run (entry : CustomType × CheckId) (world : World) :
    consult dispatch value entry world = (dispatch.check entry.2 value world).map fun result =>
      (if result.1 = some entry.1 then some entry.1 else none, result.2) := by
  rw [consult, bind_run]
  cases dispatch.check entry.2 value world <;> rfl

private theorem passes_consult : Passes (consult dispatch value) = Declines dispatch value := by
  funext entry world after
  rw [Passes, consult_run, eq_iff_iff, Option.map_eq_some_iff]
  constructor
  · rintro ⟨⟨answer, middle⟩, called, same⟩
    by_cases own : answer = some entry.1
    · simp [own] at same
    · simp only [own, if_false, Prod.mk.injEq, true_and] at same
      exact ⟨answer, same ▸ called, own⟩
  · rintro ⟨answer, called, own⟩
    exact ⟨(answer, after), called, by rw [if_neg own]⟩

private def nameOf (value : Value) : Option CustomType → Tag
  | some tag => .custom tag
  | none => .builtin value.builtinType

private theorem classify_run (registry : RegistryId) :
    classify dispatch registry value before =
      ((((before.registries registry).refinements value.builtinType).findSomeM? (consult dispatch value)) before).map
        fun result => (nameOf value result.1, result.2) := by
  rw [classify, bind_run, read_run, Option.bind_some, bind_run, firstAnswering_eq]
  cases List.findSomeM? (consult dispatch value) _ before with
  | none => rfl
  | some result =>
    obtain ⟨found, after⟩ := result
    cases found <;> rfl

private theorem Searched.named {entries found} (out : Searched (consult dispatch value) before entries found) :
    Named dispatch value before entries (found.map fun result => (nameOf value result.1, result.2)) := by
  cases out with
  | passed passed => exact .builtin (passes_consult ▸ passed)
  | @stopped earlier entry later middle _ passed tried ended =>
    obtain ⟨tag, check⟩ := entry
    rw [passes_consult] at passed
    rw [consult_run] at tried
    cases called : dispatch.check check value middle with
    | none =>
      rw [called] at tried
      subst tried
      exact .exhausted passed called
    | some result =>
      obtain ⟨answer, after⟩ := result
      rw [called] at tried
      by_cases own : answer = some tag
      · subst own
        simp only [Option.map_some, if_true] at tried
        subst tried
        exact .custom passed called
      · simp only [Option.map_some, own, if_false] at tried
        exact absurd tried.symm (ended after)

private theorem Named.searched {entries result} (out : Named dispatch value before entries result) :
    ∃ found, Searched (consult dispatch value) before entries found ∧
      found.map (fun result => (nameOf value result.1, result.2)) = result := by
  cases out with
  | builtin declined => exact ⟨_, .passed (passes_consult ▸ declined), rfl⟩
  | exhausted declined nested =>
    refine ⟨none, .stopped (passes_consult ▸ declined) ?_ (by simp), rfl⟩
    rw [consult_run, nested, Option.map_none]
  | @custom _ tag _ _ _ after declined answered =>
    refine ⟨some (some tag, after), .stopped (passes_consult ▸ declined) ?_ (by simp), rfl⟩
    rw [consult_run, answered, Option.map_some, if_pos rfl]

theorem classify_eq_iff (registry : RegistryId) {result : Option (Tag × World)} :
    classify dispatch registry value before = result ↔
      Named dispatch value before ((before.registries registry).refinements value.builtinType) result := by
  rw [classify_run]
  constructor
  · rintro rfl
    exact (findSomeM?_eq_iff.mp rfl).named
  · intro out
    obtain ⟨found, searched, same⟩ := out.searched
    rw [findSomeM?_eq_iff.mpr searched, same]

/-- Every classification calls the checks that stand under the built-in type of its value when it starts,
in their order and up to the first that answers its own tag. What checks register meanwhile touches
neither the checks that are left nor the name, and is all there for the next classification: then each
built-in type has the tags that were registered under it before or meanwhile, with the checks that came last. -/
theorem classify_by_snapshot (host : Host) (depth : Nat) (registry : RegistryId) (value : Value) (before : World) :
    (∀ result, classify (host.dispatch depth) registry value before = result ↔
      Named (host.dispatch depth) value before ((before.registries registry).refinements value.builtinType) result) ∧
    ∀ tag after, classify (host.dispatch depth) registry value before = some (tag, after) →
      registry.index < before.opened →
      ∃ events, after.journal.toList = before.journal.toList ++ events ∧
        (∀ next result, classify (host.dispatch depth) registry next after = result ↔
          Named (host.dispatch depth) next after
            ((replay registry (before.registries registry) events).refinements next.builtinType) result) ∧
        ∀ settings history, before.registries registry = performed settings history →
          Recorded settings (history ++ events.filterMap (toldOperation? registry)) (after.registries registry) := by
  refine ⟨fun result => classify_eq_iff registry, ?_⟩
  intro tag after named opened
  obtain ⟨events, journal, same⟩ := (classify_changes host depth registry value named).told opened
  refine ⟨events, journal, fun next result => ?_, fun settings history reached => ?_⟩
  · rw [classify_eq_iff, same]
  · rw [same, reached, replay_performed]
    exact recorded settings _

/-- The check of `early` registers `late` beside itself and declines. -/
def registeringChecks : Script.Library where
  rules := #[⟨"early", [(.registering ⟨.shared, .string, ⟨"late"⟩, ⟨1⟩⟩, ⟨"early"⟩)]⟩,
    ⟨"late", [(.always, ⟨"late"⟩)]⟩]

def earlyRegistered : World :=
  World.start.register .shared .string ⟨"early"⟩ ⟨0⟩

theorem classify_by_snapshot_registering :
    let before : List Operation := [.register .string ⟨"early"⟩ ⟨0⟩]
    let meanwhile : List Operation := [.register .string ⟨"late"⟩ ⟨1⟩]
    ∃ after, classify (registeringChecks.host.dispatch 1) .shared (.string "x") earlyRegistered =
        some (.builtin .string, after) ∧ RegistryId.shared.index < earlyRegistered.opened ∧
      earlyRegistered.registries .shared = performed {} before ∧
      Recorded {} (before ++ meanwhile) (after.registries .shared) ∧
      ∃ events, after.journal.toList = earlyRegistered.journal.toList ++ events ∧
        ∀ next result, classify (registeringChecks.host.dispatch 1) .shared next after = result ↔
          Named (registeringChecks.host.dispatch 1) next after
            ((replay .shared (earlyRegistered.registries .shared) events).refinements next.builtinType) result := by
  intro before meanwhile
  obtain ⟨after, named, told⟩ : ∃ after,
      classify (registeringChecks.host.dispatch 1) .shared (.string "x") earlyRegistered = some (.builtin .string, after) ∧
        after.journal.toList = earlyRegistered.journal.toList ++
          [.note "check early", .registered .shared .string ⟨"late"⟩ ⟨1⟩] := ⟨_, rfl, rfl⟩
  have opened : RegistryId.shared.index < earlyRegistered.opened := by decide
  have reached : earlyRegistered.registries .shared = performed {} before := rfl
  obtain ⟨events, journal, next, recorded⟩ :=
    (classify_by_snapshot registeringChecks.host 1 .shared (.string "x") earlyRegistered).2 _ _ named opened
  obtain rfl := List.append_cancel_left (journal.symm.trans told)
  exact ⟨after, named, opened, reached, recorded {} before reached, _, journal, next⟩

end TypeGuard.Proofs
