import TypeGuard.Proofs.JournalUnread
import TypeGuard.Proofs.RegistryState

/-! Building guards. Whether there is a guard is settled by what the target is, and not by what custom types make of it;
a target that is no function is classified once, for the refusal. A guard keeps nothing of the world in which it was
built: but for the place of one record, it makes no difference when that was. -/

namespace TypeGuard.Proofs

variable {α β : Type} {dispatch : Dispatch} {registry : RegistryId} {signature : Signature} {target : Value}
  {callable : Callable} {before after : World}

def constructions (world : World) : List Event :=
  world.journal.toList.filter fun
    | .guarding _ _ _ => true
    | _ => false

structure BuiltByValue (dispatch : Dispatch) (registry : RegistryId) (signature : Signature) (target : Value) : Prop where
  built_iff : ∀ before, (∃ guard after, Guard.build dispatch registry signature target before = some (.ok guard, after)) ↔
    ∃ callable, target = .function callable
  /-- Nothing but one record is made of a function. The result is there even if no check ever has one, so none is
  called. -/
  function : ∀ callable, target = .function callable → ∀ before,
    Guard.build dispatch registry signature target before =
      some (.ok ⟨signature, registry, callable⟩, before.record (.guarding callable.kind callable.name signature))
  /-- Of anything else one classification is made, and nothing besides. -/
  refused : (∀ callable, target ≠ .function callable) →
    Guard.build dispatch registry signature target =
      (fun actual => .error (.notCallable actual)) <$> classify dispatch registry target
  /-- A refusal adds no record of a guard, unless a check builds one itself. -/
  unrecorded : ∀ before refusal after,
    Guard.build dispatch registry signature target before = some (.error refusal, after) →
      (∀ entry ∈ (before.registries registry).refinements target.builtinType, ∀ start answer final,
        dispatch.check entry.2 target start = some (answer, final) → constructions final = constructions start) →
      constructions after = constructions before

private theorem declined_keep (kept : World → Prop) {value : Value} {entries : Refinements}
    (each : ∀ entry ∈ entries, ∀ start answer final, dispatch.check entry.2 value start = some (answer, final) →
      kept start → kept final)
    (declined : InTurn (Declines dispatch value) entries before after) (held : kept before) : kept after := by
  induction declined with
  | nil => exact held
  | @cons entry _ start middle _ first _ ih =>
    obtain ⟨answer, called, -⟩ := first
    exact ih (fun entry member => each entry (List.mem_cons_of_mem _ member))
      (each entry List.mem_cons_self start answer middle called held)

theorem classify_keep (kept : World → Prop) {value : Value} {tag : Tag}
    (each : ∀ entry ∈ (before.registries registry).refinements value.builtinType, ∀ start answer final,
      dispatch.check entry.2 value start = some (answer, final) → kept start → kept final)
    (named : classify dispatch registry value before = some (tag, after)) (held : kept before) : kept after := by
  rw [classify_eq_iff] at named
  generalize (before.registries registry).refinements value.builtinType = entries at each named
  cases named with
  | builtin declined => exact declined_keep kept each declined held
  | @custom earlier tag check later middle _ declined answered =>
    have there : kept middle := declined_keep kept (fun entry member => each entry (List.mem_append_left _ member)) declined held
    exact each (tag, check) (List.mem_append_right _ List.mem_cons_self) middle _ after answered there

theorem build_function (dispatch : Dispatch) (registry : RegistryId) (signature : Signature) (callable : Callable)
    (before : World) : Guard.build dispatch registry signature (.function callable) before =
      some (.ok ⟨signature, registry, callable⟩, before.record (.guarding callable.kind callable.name signature)) := rfl

private theorem build_refused (other : ∀ callable, target ≠ .function callable) :
    Guard.build dispatch registry signature target =
      (fun actual => .error (.notCallable actual)) <$> classify dispatch registry target := by
  have uncallable : target.callable? = none := by
    cases target with
    | function callable => exact absurd rfl (other callable)
    | _ => rfl
  rw [Guard.build, uncallable, map_eq_pure_bind]

private theorem build_refused_iff (other : ∀ callable, target ≠ .function callable) {result : Except Refusal Guard} :
    Guard.build dispatch registry signature target before = some (result, after) ↔
      ∃ actual, classify dispatch registry target before = some (actual, after) ∧ result = .error (.notCallable actual) := by
  rw [build_refused other, map_run, Option.map_eq_some_iff]
  constructor
  · rintro ⟨⟨actual, final⟩, named, same⟩
    cases same
    exact ⟨actual, named, rfl⟩
  · rintro ⟨actual, named, rfl⟩
    exact ⟨(actual, after), named, rfl⟩

private theorem builtByValue (dispatch : Dispatch) (registry : RegistryId) (signature : Signature) (target : Value) :
    BuiltByValue dispatch registry signature target where
  built_iff before := by
    constructor
    · rintro ⟨guard, after, built⟩
      by_contra other
      obtain ⟨actual, -, same⟩ := (build_refused_iff (not_exists.mp other)).mp built
      cases same
    · rintro ⟨callable, rfl⟩
      exact ⟨_, _, build_function dispatch registry signature callable before⟩
  function := by
    rintro callable rfl before
    exact build_function dispatch registry signature callable before
  refused := build_refused
  unrecorded before refusal after built quiet := by
    have other : ∀ callable, target ≠ .function callable := by
      rintro callable rfl
      cases built
    obtain ⟨actual, named, -⟩ := (build_refused_iff other).mp built
    apply classify_keep (fun world => constructions world = constructions before) ?_ named rfl
    intro entry member start answer final called same
    rw [quiet entry member start answer final called, same]

def useGuard (use : α → Guard → Program β) (found : α) : Except Refusal Guard → Program (Except Refusal β)
  | .error refusal => return .error refusal
  | .ok guard => return .ok (← use found guard)

def guardThen (registry : RegistryId) (signature : Signature) (target : Value) (between : Program α)
    (use : α → Guard → Program β) : Program (Except Refusal β) := do
  let built ← Program.request (.guard registry signature target)
  let found ← between
  useGuard use found built

def thenGuard (registry : RegistryId) (signature : Signature) (target : Value) (between : Program α)
    (use : α → Guard → Program β) : Program (Except Refusal β) := do
  let found ← between
  let built ← Program.request (.guard registry signature target)
  useGuard use found built

/-- Either both runs are without a result, or they have the same one and have done and recorded the same, but that one
event is on record in the second run only after what lies between. -/
def SameButLater (journal : Array Event) (event : Event) : Option (α × World) → Option (α × World) → Prop :=
  Option.Rel fun result result' => result.1 = result'.1 ∧ ∃ between later : Array Event,
    result.2.journal = journal.push event ++ between ++ later ∧
      result'.2 = { result.2 with journal := (journal ++ between).push event ++ later }

private theorem sameButLater_of_effects {journal : Array Event} {event : Event} {first second : Option (α × World)}
    (earlier : Array Event)
    (same : SameEffects (journal.push event ++ earlier) ((journal ++ earlier).push event) first second) :
    SameButLater journal event first second := by
  cases same with
  | none => exact .none
  | some same =>
    obtain ⟨equal, later, told, ended⟩ := same
    exact .some ⟨equal, earlier, later, told, ended⟩

private theorem guardThen_run (host : Host) (depth : Nat) (between : Program α) (use : α → Guard → Program β) :
    host.run depth (guardThen registry signature (.function callable) between use) before =
      (host.run depth between (before.record (.guarding callable.kind callable.name signature))).bind fun found =>
        host.run depth (useGuard use found.1 (.ok ⟨signature, registry, callable⟩)) found.2 := by
  rw [guardThen, Host.run, Program.run_bind, bind_run, Program.run_request]
  change ((between >>= _).run (host.dispatch depth)) _ = _
  rw [Program.run_bind, bind_run]
  rfl

private theorem thenGuard_run (host : Host) (depth : Nat) (between : Program α) (use : α → Guard → Program β) :
    host.run depth (thenGuard registry signature (.function callable) between use) before =
      (host.run depth between before).bind fun found =>
        host.run depth (useGuard use found.1 (.ok ⟨signature, registry, callable⟩))
          (found.2.record (.guarding callable.kind callable.name signature)) := by
  rw [thenGuard, Host.run, Program.run_bind, bind_run]
  rfl

private theorem built_earlier_or_later (host : Host) (depth : Nat) (callable : Callable) (between : Program α)
    (use : α → Guard → Program β) (before : World) :
    SameButLater before.journal (.guarding callable.kind callable.name signature)
      (host.run depth (guardThen registry signature (.function callable) between use) before)
      (host.run depth (thenGuard registry signature (.function callable) between use) before) := by
  rw [guardThen_run, thenGuard_run]
  generalize Event.guarding callable.kind callable.name signature = event
  have same : SameEffects (before.journal.push event) before.journal (host.run depth between (before.record event))
      (host.run depth between before) :=
    journal_unread host depth between (Parallel.start (before.record event) before.journal)
  generalize host.run depth between (before.record event) = first at same
  generalize host.run depth between before = second at same
  cases same with
  | none => exact .none
  | @some found found' same =>
    obtain ⟨found, middle⟩ := found
    obtain ⟨found', middle'⟩ := found'
    obtain ⟨rfl, earlier, journal, rfl⟩ := same
    apply sameButLater_of_effects earlier
    rw [← journal]
    exact journal_unread host depth _ (Parallel.start middle _)

/-- A guard is built just of a function, whatever custom types there are, and without calling a check; anything else is
refused with its name, which takes one classification. A guard that is built before any steps are taken does the same in
every later world as one that is built after them. So does a program that builds it first and uses it last, whatever it
does in between, as one that builds it only then: all that is different is the place of the record. -/
theorem construction_by_value (registry : RegistryId) (signature : Signature) :
    (∀ dispatch target, BuiltByValue dispatch registry signature target) ∧
    (∀ (dispatch : Dispatch) (callable : Callable) (before : World) (history : List Step), ∃ early middle late after,
      Guard.build dispatch registry signature (.function callable) before = some (.ok early, middle) ∧
      Guard.build dispatch registry signature (.function callable) (taken middle history) = some (.ok late, after) ∧
      ∀ args state, early.check dispatch args state = late.check dispatch args state ∧
        early.call dispatch args state = late.call dispatch args state ∧
        early.launch dispatch args state = late.launch dispatch args state) ∧
    ∀ (α β : Type) (host : Host) (depth : Nat) (callable : Callable) (between : Program α) (use : α → Guard → Program β)
      (before : World), SameButLater before.journal (.guarding callable.kind callable.name signature)
        (host.run depth (guardThen registry signature (.function callable) between use) before)
        (host.run depth (thenGuard registry signature (.function callable) between use) before) := by
  refine ⟨fun dispatch target => builtByValue dispatch registry signature target, ?_, ?_⟩
  · intro dispatch callable before history
    exact ⟨_, _, _, _, build_function .., build_function .., fun _ _ => ⟨rfl, rfl, rfl⟩⟩
  · intro α β host depth callable between use before
    exact built_earlier_or_later host depth callable between use before

/-- The first check names everything like a function, the second names everything otherwise, and the third comes late. -/
def shadowingChecks : Script.Library where
  rules := #[⟨"shadow", [(.always, ⟨"function"⟩)]⟩, ⟨"special", [(.always, ⟨"special"⟩)]⟩, ⟨"late", [(.always, ⟨"late"⟩)]⟩]

def shadowed : World :=
  taken World.start [.operate .shared (.register .string ⟨"function"⟩ ⟨0⟩), .operate .shared (.register .function ⟨"special"⟩ ⟨1⟩)]

/-- A text that is named like a function is refused, and a function that is not is guarded. The guard takes what is named
by a check that is registered after it was built. -/
theorem construction_by_value_shadowed :
    let dispatch := shadowingChecks.host.dispatch 1
    let late : Signature := .uniform (.single (.custom ⟨"late"⟩))
    let callable : Callable := .host .sync "target" ⟨0⟩
    let between : Program Unit := Program.request (.register .shared .number ⟨"late"⟩ ⟨2⟩)
    let use : Unit → Guard → Program (Option Refusal) := fun _ guard =>
      Program.request (.checkArguments guard.registry guard.signature [.number 1, .undefined])
    (∃ after, Guard.build dispatch .shared late (.string "x") shadowed =
      some (.error (.notCallable (.custom ⟨"function"⟩)), after) ∧ constructions after = constructions shadowed) ∧
    (∃ after, classify dispatch .shared (.function callable) shadowed = some (.custom ⟨"special"⟩, after)) ∧
    (∃ guard after, Guard.build dispatch .shared late (.function callable) shadowed = some (.ok guard, after)) ∧
    SameButLater shadowed.journal (.guarding .sync "target" late)
      (shadowingChecks.host.run 1 (guardThen .shared late (.function callable) between use) shadowed)
      (shadowingChecks.host.run 1 (thenGuard .shared late (.function callable) between use) shadowed) ∧
    (shadowingChecks.host.run 1 (guardThen .shared late (.function callable) between use) shadowed).map Prod.fst =
      some (.ok (some (.mismatch 1 (.single (.custom ⟨"late"⟩)) (.builtin .undefined)))) := by
  intro dispatch late callable between use
  obtain ⟨byValue, -, moved⟩ := construction_by_value .shared late
  obtain ⟨after, refused⟩ : ∃ after, Guard.build dispatch .shared late (.string "x") shadowed =
      some (.error (.notCallable (.custom ⟨"function"⟩)), after) := ⟨_, rfl⟩
  refine ⟨⟨after, refused, ?_⟩, ⟨_, rfl⟩, ((byValue dispatch _).built_iff shadowed).mpr ⟨callable, rfl⟩,
    moved Unit (Option Refusal) shadowingChecks.host 1 callable between use shadowed, rfl⟩
  apply (byValue dispatch (.string "x")).unrecorded shadowed _ after refused
  intro entry member start answer final called
  obtain rfl : entry = (⟨"function"⟩, ⟨0⟩) := List.mem_singleton.mp member
  cases called
  simp [constructions, World.record]

end TypeGuard.Proofs
