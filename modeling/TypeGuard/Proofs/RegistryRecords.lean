import TypeGuard.Proofs.RegistryState

/-! What the journal records of one registry, read on its own. The records tell which custom types stand under
each built-in type and in which order, and the last one tells whether custom types are switched on. Nothing
but registrations and switches is on record. -/

namespace TypeGuard.Proofs

def subject? : Event → Option RegistryId
  | .registered id _ _ _ | .replaced id _ _ _ | .switched id _ => some id
  | .note _ | .guarding _ _ _ => none

def records (id : RegistryId) (world : World) : List Event :=
  world.journal.toList.filter fun event => subject? event = some id

/-- What an operation puts on record of a registry: a registration always, a switch if it changes something. -/
def recordOf? (id : RegistryId) (registry : Registry) : Operation → Option Event
  | .register root tag check =>
    some (if registry.isPlaced root tag then .replaced id root tag check else .registered id root tag check)
  | .switch enabled => if registry.enabled = enabled then none else some (.switched id enabled)

def story (id : RegistryId) (registry : Registry) : List Operation → List Event
  | [] => []
  | operation :: rest => (recordOf? id registry operation).toList ++ story id (operation.perform registry) rest

def newUnder? (root : BuiltinType) : Event → Option CustomType
  | .registered _ other tag _ => if other = root then some tag else none
  | _ => none

def leavesEnabled : Event → Bool
  | .switched _ enabled => enabled
  | _ => true

/-- What the records of a registry since it was opened say about it. -/
structure Chronicled (settings : Registry.Settings) (id : RegistryId) (told : List Event) (registry : Registry) : Prop where
  subject : ∀ event ∈ told, subject? event = some id
  /-- Under each built-in type stand the custom types recorded as new there, in the order of the records. -/
  listed : ∀ root, Assoc.keys (registry.refinements root) = told.filterMap (newUnder? root)
  /-- A check is replaced only where its tag was recorded as new before. -/
  replaced : ∀ earlier root tag check later, told = earlier ++ .replaced id root tag check :: later →
    ∃ first, .registered id root tag first ∈ earlier
  enabled : registry.enabled = (told.getLast?.map leavesEnabled).getD settings.enabled
  /-- Between two switches to one side there is a record that leaves the other. -/
  alternating : ∀ earlier enabled between later,
    told = earlier ++ .switched id enabled :: (between ++ .switched id enabled :: later) →
      ∃ event ∈ between, leavesEnabled event = !enabled

variable {id : RegistryId} {settings : Registry.Settings} {history : List Operation}

private theorem story_append (registry : Registry) (history : List Operation) (operation : Operation) :
    story id registry (history ++ [operation]) =
      story id registry history ++ (recordOf? id (history.foldl Operation.perform registry) operation).toList := by
  induction history generalizing registry with
  | nil => simp [story]
  | cons first rest ih => rw [List.cons_append, story, ih, story, List.append_assoc, List.foldl_cons]

private abbrev chronicle (id : RegistryId) (settings : Registry.Settings) (history : List Operation) : List Event :=
  story id (.ofSettings settings) history

/-- Each record is the one of some operation, on the registry as the records before it leave it. -/
private theorem recorded_at (holds : List Event → Event → Prop)
    (each : ∀ history operation event, recordOf? id (performed settings history) operation = some event →
      holds (chronicle id settings history) event)
    {front event later} (told : chronicle id settings history = front ++ event :: later) : holds front event := by
  induction history using List.reverseRecOn generalizing later with
  | nil => simp [chronicle, story] at told
  | append_singleton history operation ih =>
    rw [chronicle, story_append, ← performed] at told
    cases made : recordOf? id (performed settings history) operation with
    | none =>
      rw [made, Option.toList_none, List.append_nil] at told
      exact ih told
    | some last =>
      rw [made, Option.toList_some] at told
      rcases List.eq_nil_or_concat later with rfl | ⟨earlier, final, rfl⟩
      · obtain ⟨same, final⟩ := List.append_inj' told rfl
        rw [← same, ← List.singleton_inj.mp final]
        exact each history operation last made
      · have same : chronicle id settings history = front ++ event :: earlier := by
          rw [List.concat_eq_append, ← List.cons_append, ← List.append_assoc] at told
          exact (List.append_inj' told rfl).1
        exact ih same

private theorem subject_chronicle : ∀ event ∈ chronicle id settings history, subject? event = some id := by
  intro event member
  obtain ⟨front, later, told⟩ := List.append_of_mem member
  have each : ∀ history operation event, recordOf? id (performed settings history) operation = some event →
      subject? event = some id := by
    intro history operation event made
    cases operation with
    | register root tag check =>
      cases made
      split <;> rfl
    | switch enabled =>
      rw [recordOf?, Option.ite_none_left_eq_some] at made
      cases made.2
      rfl
  exact recorded_at (fun _ event => subject? event = some id) each told

private theorem listed_chronicle (id : RegistryId) (root : BuiltinType) :
    Assoc.keys ((performed settings history).refinements root) = (chronicle id settings history).filterMap (newUnder? root) := by
  rw [(recorded settings history).complete]
  induction history using List.reverseRecOn with
  | nil => rfl
  | append_singleton history operation ih =>
    rw [performed_append, chronicle, story_append, ← performed, List.filterMap_append, ← ih]
    cases operation with
    | switch enabled =>
      rw [recordOf?]
      split <;> exact (List.append_nil _).symm
    | register other tag check =>
      rw [Operation.perform, Registry.tagsUnder_place, recordOf?]
      cases placed : (performed settings history).isPlaced other tag with
      | true => simp [newUnder?]
      | false =>
        by_cases same : root = other
        · simp [newUnder?, same]
        · simp [newUnder?, same, Ne.symm same]

private theorem enabled_chronicle :
    (performed settings history).enabled = ((chronicle id settings history).getLast?.map leavesEnabled).getD settings.enabled := by
  induction history using List.reverseRecOn with
  | nil => rfl
  | append_singleton history operation ih =>
    rw [performed_append, chronicle, story_append, ← performed]
    cases operation with
    | register root tag check =>
      rw [recordOf?, Option.toList_some, List.getLast?_concat]
      split <;> rfl
    | switch enabled =>
      rw [recordOf?]
      split
      next same => rw [Option.toList_none, List.append_nil, ← ih]; exact same.symm
      next => rw [Option.toList_some, List.getLast?_concat]; rfl

private theorem registered_chronicle {root : BuiltinType} {tag : CustomType}
    (placed : (performed settings history).isPlaced root tag = true) :
    ∃ first, .registered id root tag first ∈ chronicle id settings history := by
  have listed := Registry.mem_tagsUnder.mpr placed
  rw [← (recorded settings history).complete, listed_chronicle id, List.mem_filterMap] at listed
  obtain ⟨event, member, new⟩ := listed
  have subject := subject_chronicle event member
  cases event with
  | registered registry other label check =>
    rw [newUnder?, Option.ite_none_right_eq_some] at new
    obtain ⟨rfl, new⟩ := new
    cases new
    cases subject
    exact ⟨check, member⟩
  | note | replaced | switched | guarding => cases new

private theorem replaced_chronicle {front root tag check later}
    (told : chronicle id settings history = front ++ .replaced id root tag check :: later) :
    ∃ first, .registered id root tag first ∈ front := by
  have each : ∀ history operation event, recordOf? id (performed settings history) operation = some event →
      ∀ root tag check, event = .replaced id root tag check → ∃ first, .registered id root tag first ∈ chronicle id settings history := by
    rintro history operation _ made root tag check rfl
    cases operation with
    | switch enabled => simp [recordOf?] at made
    | register other label latest =>
      cases placed : (performed settings history).isPlaced other label with
      | false => simp [recordOf?, placed] at made
      | true =>
        obtain ⟨rfl, rfl, rfl⟩ : other = root ∧ label = tag ∧ latest = check := by simpa [recordOf?, placed] using made
        exact registered_chronicle placed
  exact recorded_at (fun front event => ∀ root tag check, event = .replaced id root tag check →
    ∃ first, .registered id root tag first ∈ front) each told root tag check rfl

private theorem switched_chronicle {front enabled later}
    (told : chronicle id settings history = front ++ .switched id enabled :: later) :
    (front.getLast?.map leavesEnabled).getD settings.enabled ≠ enabled := by
  have each : ∀ history operation event, recordOf? id (performed settings history) operation = some event →
      ∀ enabled, event = .switched id enabled →
        ((chronicle id settings history).getLast?.map leavesEnabled).getD settings.enabled ≠ enabled := by
    rintro history operation _ made enabled rfl
    cases operation with
    | register root tag check =>
      rw [recordOf?, Option.some.injEq] at made
      split at made <;> cases made
    | switch latest =>
      rw [recordOf?, Option.ite_none_left_eq_some] at made
      obtain ⟨changes, made⟩ := made
      cases made
      rwa [← enabled_chronicle]
  exact recorded_at (fun front event => ∀ enabled, event = .switched id enabled →
    (front.getLast?.map leavesEnabled).getD settings.enabled ≠ enabled) each told enabled rfl

private theorem alternating_chronicle {front enabled between later}
    (told : chronicle id settings history = front ++ .switched id enabled :: (between ++ .switched id enabled :: later)) :
    ∃ event ∈ between, leavesEnabled event = !enabled := by
  rw [← List.cons_append, ← List.append_assoc] at told
  have turned := switched_chronicle told
  rcases List.eq_nil_or_concat between with rfl | ⟨earlier, last, rfl⟩
  · rw [List.getLast?_concat] at turned
    exact absurd rfl turned
  · rw [List.concat_eq_append, ← List.cons_append, ← List.append_assoc, List.getLast?_concat] at turned
    exact ⟨last, by simp, Bool.eq_not_of_ne turned⟩

theorem chronicled (id : RegistryId) (settings : Registry.Settings) (history : List Operation) :
    Chronicled settings id (story id (.ofSettings settings) history) (performed settings history) where
  subject := subject_chronicle
  listed := listed_chronicle id
  replaced _ _ _ _ _ told := replaced_chronicle told
  enabled := enabled_chronicle
  alternating _ _ _ _ told := alternating_chronicle told

section Worlds
variable {before : World}

private theorem records_record (world : World) (event : Event) :
    records id (world.record event) = records id world ++ if subject? event = some id then [event] else [] := by
  rw [records, World.record, Array.toList_push, List.filter_append, ← records, List.filter_cons, List.filter_nil]
  simp only [decide_eq_true_eq]

theorem records_take (world : World) (step : Step) :
    records id (step.take world) =
      records id world ++ ((step.operation? id).bind (recordOf? id (world.registries id))).toList := by
  have silent : records id world = records id world ++ [] := (List.append_nil _).symm
  cases step with
  | note text => exact records_record ..
  | guarding kind name signature => exact records_record ..
  | openRegistry | defer | setCell | identify | remember => exact silent
  | operate registry operation =>
    rw [Step.operation?]
    cases operation with
    | register root tag check =>
      rw [Step.take, World.register, records_record]
      change records id world ++ _ = _
      congr 1
      by_cases same : registry = id
      · subst same
        rw [if_pos rfl, Option.bind_some, recordOf?]
        split <;> exact if_pos rfl
      · have apart : some registry ≠ some id := fun equal => same (Option.some.inj equal)
        rw [if_neg same, Option.bind_none]
        split <;> exact if_neg apart
    | switch enabled =>
      rw [Step.take, World.setEnabled]
      by_cases same : registry = id
      · subst same
        rw [if_pos rfl, Option.bind_some, recordOf?]
        split
        · exact silent
        · rw [records_record]
          exact congrArg (records registry world ++ ·) (if_pos rfl)
      · have apart : some registry ≠ some id := fun equal => same (Option.some.inj equal)
        rw [if_neg same, Option.bind_none]
        split
        · exact silent
        · rw [records_record]
          exact congrArg (records id world ++ ·) (if_neg apart)

theorem records_taken {world : World} (opened : id.index < world.opened) (steps : List Step) :
    records id (taken world steps) = records id world ++ story id (world.registries id) (operations id steps) := by
  induction steps generalizing world with
  | nil => exact (List.append_nil _).symm
  | cons step steps ih =>
    have stays : id.index < (step.take world).opened := Nat.lt_of_lt_of_le opened (opened_le_take world step)
    rw [taken, List.foldl_cons, ← taken, ih stays, records_take, registries_take opened, operations, operations,
      List.filterMap_cons]
    cases step.operation? id with
    | none => rw [Option.bind_none, Option.toList_none, List.append_nil, Option.elim_none]
    | some operation => rw [Option.bind_some, Option.elim_some, story, List.append_assoc]

end Worlds

def Silent (id : RegistryId) {α : Type} (action : Action α) : Prop :=
  ∀ before value after, action before = some (value, after) → records id after = records id before

structure LibrarySilent (id : RegistryId) (dispatch : Dispatch) : Prop where
  classify : ∀ registry value, Silent id (classify dispatch registry value)
  check : ∀ registry signature args, Silent id (checkArguments dispatch registry signature args)
  build : ∀ registry signature target, Silent id (Guard.build dispatch registry signature target)
  call : ∀ guard args, Silent id (Guard.call dispatch guard args)
  launch : ∀ guard args, Silent id (Guard.launch dispatch guard args)
  invoke : ∀ callable args, Silent id (invoke dispatch callable args)

private theorem silent_sequential (id : RegistryId) : Sequential fun action _ => Silent id action where
  pure value := by
    intro before result after ran
    cases ran
    rfl
  bind := by
    intro α β first _ next _ silent rest before result after ran
    rw [bind_run] at ran
    obtain ⟨⟨value, middle⟩, started, ran⟩ := Option.bind_eq_some_iff.mp ran
    exact (rest value middle result after ran).trans (silent before value middle started)
  refinements registry root := by
    intro before result after ran
    cases ran
    rfl
  guarding kind name signature := by
    intro before result after ran
    cases ran
    exact (records_record ..).trans (List.append_nil _)

/-- Only what code of the host puts on record is put on record by a call of the library. -/
theorem library_silent {dispatch : Dispatch} (checks : ∀ check value, Silent id (dispatch.check check value))
    (bodies : ∀ function args, Silent id (dispatch.body function args)) : LibrarySilent id dispatch := by
  have sequential := silent_sequential id
  have code : CodeRelated (fun action _ => Silent id action) dispatch dispatch :=
    { check := checks
      body := bodies
      deferred := by
        intro callable args before result after ran
        cases ran
        rfl }
  exact
    { classify := classify_related sequential code
      check := checkArguments_related sequential code
      build := build_related sequential code
      call := call_related sequential code
      launch := launch_related sequential code
      invoke := invoke_related sequential code }

/-- The records of a registry tell its whole story, whatever is done to it since it was opened. At every point
the tags recorded as new under a built-in type are those that stand there, in the same order; a replacement
follows such a record of its tag and place; the last record tells whether custom types are switched on, and
switches to one side have something between them that leaves the other. Each registration is recorded once,
each switch just when it changes something, and nothing else is: what the library does besides is silent as
long as the checks and functions that it calls are. Whoever looks at a run on its way finds it where steps
lead, and so at such a point. -/
theorem registry_chronicle {id : RegistryId} {settings : Registry.Settings} {before : World}
    (opened : id.index < before.opened) (configured : before.registries id = .ofSettings settings) :
    (∀ steps, ∃ told, records id (taken before steps) = records id before ++ told ∧
      Chronicled settings id told ((taken before steps).registries id)) ∧
    (∀ steps step, records id (taken before (steps ++ [step])) = records id (taken before steps) ++
      ((step.operation? id).bind (recordOf? id ((taken before steps).registries id))).toList) ∧
    (∀ dispatch, (∀ check value, Silent id (dispatch.check check value)) →
      (∀ function args, Silent id (dispatch.body function args)) → LibrarySilent id dispatch) ∧
    ∀ (α : Type) (host : Host) (depth : Nat) (program : Program α) value after,
      host.run depth program before = some (value, after) →
        (∃ steps, taken before steps = after) ∧
        ∀ passes : World → Bool, (∀ steps, passes (taken before steps) = true) →
          runInspected passes (inspected host passes depth) program before = some (value, after) := by
  refine ⟨?_, ?_, fun dispatch => library_silent, ?_⟩
  · intro steps
    refine ⟨_, records_taken opened steps, ?_⟩
    rw [registries_taken opened, configured]
    exact chronicled id settings (operations id steps)
  · intro steps step
    rw [taken_append]
    exact records_take ..
  · intro α host depth program value after ran
    refine ⟨run_steps host depth program ran, fun passes passed => ?_⟩
    have sound : ∀ world, (∃ steps, taken before steps = world) → passes world = true := by
      rintro _ ⟨steps, rfl⟩
      exact passed steps
    exact inspected_run Change.reaches sound host depth program ⟨[], rfl⟩ ran

def noting : Host where
  check _ _ := .ask (.note "check") fun _ => .done none
  body _ _ := .ask (.note "body") fun _ => .done (.ok .undefined)
  routine _ _ := .finish (.ok .undefined)
  startPass _ := .done ()
  nextItem _ _ := .done none

/-- The check that the classification calls registers another one. -/
theorem registry_chronicle_registering :
    RegistryId.shared.index < World.start.opened ∧ World.start.registries .shared = .ofSettings {} ∧
    (∃ tag after, registeringChecks.host.run 1 registeringClassification World.start = some (tag, after) ∧
      Chronicled {} .shared [.registered .shared .string ⟨"early"⟩ ⟨0⟩, .registered .shared .string ⟨"late"⟩ ⟨1⟩]
        (after.registries .shared)) ∧
    (∀ check value, Silent .shared ((noting.dispatch 1).check check value)) ∧
    (∀ function args, Silent .shared ((noting.dispatch 1).body function args)) ∧
    LibrarySilent .shared (noting.dispatch 1) := by
  have opened : RegistryId.shared.index < World.start.opened := by decide
  have configured : World.start.registries .shared = .ofSettings {} := rfl
  obtain ⟨always, -, silent, runs⟩ := registry_chronicle opened configured
  have checks : ∀ check value, Silent .shared ((noting.dispatch 1).check check value) := by
    intro check value before answer after ran
    cases ran
    exact (records_record ..).trans (List.append_nil _)
  have bodies : ∀ function args, Silent .shared ((noting.dispatch 1).body function args) := by
    intro function args before outcome after ran
    cases ran
    exact (records_record ..).trans (List.append_nil _)
  refine ⟨opened, configured, ?_, checks, bodies, silent _ checks bodies⟩
  obtain ⟨after, ran, told⟩ : ∃ after,
      registeringChecks.host.run 1 registeringClassification World.start = some (.builtin .string, after) ∧
        records .shared after =
          [.registered .shared .string ⟨"early"⟩ ⟨0⟩, .registered .shared .string ⟨"late"⟩ ⟨1⟩] := ⟨_, rfl, rfl⟩
  obtain ⟨⟨steps, rfl⟩, -⟩ := runs _ _ _ _ _ _ ran
  obtain ⟨story, recorded, chronicled⟩ := always steps
  obtain rfl : story = _ := recorded.symm.trans told
  exact ⟨_, _, ran, chronicled⟩

end TypeGuard.Proofs
