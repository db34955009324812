import TypeGuard.Proofs.PromiseCells
import TypeGuard.Proofs.PromiseSteps

/-! Every run has a history of steps that treat promises as polls do. A run that is looked at on its way, and
that marks each start of a promise where it happens, goes through the worlds of that history and makes
the marks of its starts. -/

namespace TypeGuard.Proofs

variable {α β : Type}

/-- Marks stand in front of the journal, the newest first, where nothing that runs looks. -/
def marked (mark : PromiseId → Event) (log : List PromiseId) (world : World) : World :=
  { world with journal := (log.map mark).toArray ++ world.journal }

def markStart (mark : PromiseId → Event) (promise : PromiseId) (world : World) : World :=
  match world.cell? promise with
  | some (.unstarted _) => marked mark [promise] world
  | _ => world

def pollMarked (mark : PromiseId → Event) (passes : World → Bool) (dispatch : Dispatch) (promise : PromiseId) :
    Action Poll := do
  Action.change (markStart mark promise)
  pollInspected passes dispatch promise

def marking (host : Host) (mark : PromiseId → Event) (passes : World → Bool) : Nat → Dispatch
  | 0 => host.dispatch 0
  | depth + 1 =>
    { check := fun check value => runInspected passes (marking host mark passes depth) (host.check check value)
      body := fun function args => runInspected passes (marking host mark passes depth) (host.body function args)
      routine := host.routine
      startPass := fun producer => runInspected passes (marking host mark passes depth) (host.startPass producer)
      nextItem := fun producer place => runInspected passes (marking host mark passes depth) (host.nextItem producer place)
      poll := pollMarked mark passes (marking host mark passes depth) }

def startLog (world : World) (steps : List Step) : List PromiseId :=
  ((started world steps).map Prod.fst).reverse

theorem startLog_append (world : World) (steps later : List Step) :
    startLog world (steps ++ later) = startLog (taken world steps) later ++ startLog world steps := by
  rw [startLog, started, gathered_append, List.map_append, List.reverse_append]
  rfl

section Marks
variable (mark : PromiseId → Event) (log : List PromiseId) (world : World)

theorem marked_nil : marked mark [] world = world := by
  rw [marked, List.map_nil, Array.empty_append]

theorem marked_append (later : List PromiseId) : marked mark (later ++ log) world = marked mark later (marked mark log world) := by
  rw [marked, marked, marked, List.map_append, ← List.append_toArray, Array.append_assoc]

private theorem record_marked (event : Event) : (marked mark log world).record event = marked mark log (world.record event) := by
  simp only [World.record, marked, Array.push_append]

theorem take_marked (step : Step) : step.take (marked mark log world) = marked mark log (step.take world) := by
  cases step with
  | note text => exact record_marked ..
  | guarding kind name signature => exact record_marked ..
  | operate registry operation =>
    cases operation with
    | register root tag check =>
      exact record_marked mark log (world.setRegistry registry ((world.registries registry).place root tag check)) _
    | switch enabled =>
      have same : (marked mark log world).registries = world.registries := rfl
      simp only [Step.take, World.setEnabled, same]
      split
      · rfl
      · exact record_marked mark log (world.setRegistry registry { world.registries registry with enabled }) _
  | openRegistry | defer | setCell | identify | remember => rfl

end Marks

/-- What the first action does in this world is told by orderly steps that leave spared promises alone. If every
world on the way passes, marks included, the second action does the same and marks the starts among the steps. -/
def LedFrom (spared : PromiseId → Bool) (mark : PromiseId → Event) (passes : World → Bool) (before : World)
    (first second : Action α) : Prop :=
  ∀ value after, first before = some (value, after) →
    ∃ steps, Orderly before steps ∧ (∀ promise cell, .setCell promise cell ∈ steps → spared promise = false) ∧
      taken before steps = after ∧
      ∀ log, (∀ earlier, earlier <+: steps →
          passes (marked mark (startLog before earlier ++ log) (taken before earlier)) = true) →
        second (marked mark log before) = some (value, marked mark (startLog before steps ++ log) after)

def Led (spared : PromiseId → Bool) (mark : PromiseId → Event) (passes : World → Bool) (first second : Action α) : Prop :=
  ∀ before, LedFrom spared mark passes before first second

variable {spared : PromiseId → Bool} {mark : PromiseId → Event} {passes : World → Bool}

namespace LedFrom
variable {before : World} {first second : Action α}

theorem still {value : α} (stays : first before = some (value, before))
    (stays' : ∀ log, second (marked mark log before) = some (value, marked mark log before)) :
    LedFrom spared mark passes before first second := by
  intro result after ran
  rw [stays] at ran
  cases ran
  exact ⟨[], trivial, nofun, rfl, fun log _ => stays' log⟩

theorem congr {first' second' : Action α} (led : LedFrom spared mark passes before first' second')
    (same : first before = first' before) (same' : ∀ log, second (marked mark log before) = second' (marked mark log before)) :
    LedFrom spared mark passes before first second := by
  intro value after ran
  obtain ⟨steps, orderly, spares, reached, seen⟩ := led value after (same ▸ ran)
  exact ⟨steps, orderly, spares, reached, fun log passed => (same' log).trans (seen log passed)⟩

theorem step {second : Action Unit} {step : Step} (permitted : step.Permitted before)
    (spares : ∀ promise cell, step = .setCell promise cell → spared promise = false)
    (marks : ∀ log, second (marked mark log before) = some ((), marked mark (startLog before [step] ++ log) (step.take before))) :
    LedFrom spared mark passes before (Action.change step.take) second := by
  intro value after ran
  cases ran
  refine ⟨[step], ⟨permitted, trivial⟩, ?_, rfl, fun log _ => marks log⟩
  exact fun promise cell member => spares promise cell (List.mem_singleton.mp member).symm

theorem bind {next next' : α → Action β} (start : LedFrom spared mark passes before first second)
    (rest : ∀ value middle, first before = some (value, middle) →
      LedFrom spared mark passes middle (next value) (next' value)) :
    LedFrom spared mark passes before (first >>= next) (second >>= next') := by
  intro result after ran
  rw [bind_run] at ran
  obtain ⟨⟨value, middle⟩, began, ran⟩ := Option.bind_eq_some_iff.mp ran
  obtain ⟨steps, orderly, spares, rfl, seen⟩ := start value middle began
  obtain ⟨later, orderly', spares', rfl, seen'⟩ := rest value _ began result after ran
  refine ⟨steps ++ later, orderly_append orderly orderly', ?_, taken_append .., ?_⟩
  · intro promise cell member
    obtain member | member := List.mem_append.mp member
    · exact spares promise cell member
    · exact spares' promise cell member
  · intro log passed
    have first := seen log fun earlier inside => passed earlier (inside.trans (List.prefix_append _ _))
    rw [bind_run, first, startLog_append, List.append_assoc]
    apply seen'
    intro earlier inside
    have through := passed (steps ++ earlier) ((List.prefix_append_right_inj steps).mpr inside)
    rwa [startLog_append, List.append_assoc, taken_append] at through

end LedFrom

namespace Led

theorem exhausted (second : Action α) : Led spared mark passes .exhausted second := by
  intro before value after ran
  cases ran

theorem pure (value : α) : Led spared mark passes (Pure.pure value) (Pure.pure value) :=
  fun _ => .still rfl fun _ => rfl

theorem read {view : World → α} (blind : ∀ log world, view (marked mark log world) = view world) :
    Led spared mark passes (Action.read view) (Action.read view) :=
  fun before => .still rfl fun log => by rw [read_run, blind]

theorem bind {first second : Action α} {next next' : α → Action β} (start : Led spared mark passes first second)
    (rest : ∀ value, Led spared mark passes (next value) (next' value)) :
    Led spared mark passes (first >>= next) (second >>= next') :=
  fun before => (start before).bind fun value middle _ => rest value middle

/-- A change that is no poll's is a single step without a mark. -/
theorem change (step : Step) (apart : ∀ promise cell, step ≠ .setCell promise cell) :
    Led spared mark passes (Action.change step.take) (Action.change step.take) := by
  intro before
  apply LedFrom.step
  · cases step with
    | setCell promise cell => exact (apart promise cell rfl).elim
    | note | guarding | openRegistry | operate | defer | identify | remember => trivial
  · exact fun promise cell same => (apart promise cell same).elim
  · intro log
    have silent : startLog before [step] = [] := by
      cases step with
      | setCell promise cell => exact (apart promise cell rfl).elim
      | note | guarding | openRegistry | operate | defer | identify | remember => rfl
    rw [change_run, take_marked, silent, List.nil_append]

theorem defer (routine : Routine) : Led spared mark passes (Action.defer routine) (Action.defer routine) :=
  .bind (.read fun _ _ => rfl) fun promise => .bind (.change (.defer routine) nofun) fun _ => .pure promise

theorem freshIdentity : Led spared mark passes Action.freshIdentity Action.freshIdentity :=
  .bind (.read fun _ _ => rfl) fun identity => .bind (.change .identify nofun) fun _ => .pure identity

end Led

theorem led_compatible : Compatible (Led spared mark passes) where
  pure := .pure
  bind := .bind
  refinements _ _ := .read fun _ _ => rfl
  guarding kind name signature := .change (.guarding kind name signature) nofun
  defer := .defer

private theorem own_led (request : Request) {action} (own : ownAnswer? request = some action) :
    Led spared mark passes action action := by
  cases request with
  | note text => cases own; exact .change (.note text) nofun
  | openRegistry settings =>
    cases own
    exact .bind (.read fun _ _ => rfl) fun id => .bind (.change (.openRegistry settings) nofun) fun _ => .pure id
  | setEnabled registry enabled => cases own; exact .change (.operate registry (.switch enabled)) nofun
  | isEnabled registry => cases own; exact .read fun _ _ => rfl
  | register registry root tag check => cases own; exact .change (.operate registry (.register root tag check)) nofun
  | refinements registry root => cases own; exact .read fun _ _ => rfl
  | toFunction guard => cases own; exact .bind .freshIdentity fun identity => .pure _
  | defer outcome => cases own; exact .defer _
  | peek promise => cases own; exact .read fun _ _ => rfl
  | symbol description => cases own; exact .bind .freshIdentity fun identity => .pure _
  | «recall» key => cases own; exact .read fun _ _ => rfl
  | remember key value => cases own; exact .change (.remember key value) nofun
  | consult | classify | checkArguments | guard | call | launch | invoke | poll | startPass | nextItem => cases own

private theorem inspect_led {first second : Action α} (led : Led spared mark passes first second) :
    Led spared mark passes first (inspect passes >>= fun _ => second) := by
  intro before value after ran
  obtain ⟨steps, orderly, spares, rfl, seen⟩ := led before value after ran
  refine ⟨steps, orderly, spares, rfl, fun log passed => ?_⟩
  have here : passes (marked mark log before) = true := passed [] List.nil_prefix
  rw [bind_run, inspect, if_pos here]
  exact seen log passed

private theorem markStart_marked (log : List PromiseId) (world : World) (promise : PromiseId) :
    markStart mark promise (marked mark log world) =
      marked mark (startLog world [.setCell promise .running] ++ log) world := by
  have same : (marked mark log world).cell? promise = world.cell? promise := rfl
  rw [markStart, same, startLog, started, gathered, gathered, List.append_nil, Step.start?]
  cases world.cell? promise with
  | none => rfl
  | some cell =>
    cases cell with
    | unstarted routine => exact (marked_append mark log world [promise]).symm
    | suspended | running | settled => rfl

private theorem open_led {before : World} {promise : PromiseId} {routine : Routine} (free : spared promise = false)
    (held : before.cell? promise = some (.unstarted routine) ∨ before.cell? promise = some (.suspended routine)) :
    LedFrom spared mark passes before (Action.change (·.setCell promise .running))
      (Action.change (markStart mark promise) >>= fun _ => Action.change (·.setCell promise .running)) := by
  have permitted : (Step.setCell promise .running).Permitted before := ⟨routine, held⟩
  apply LedFrom.step permitted
  · rintro other cell same
    cases same
    exact free
  · intro log
    rw [bind_run, change_run, Option.bind_some, change_run, markStart_marked]
    rfl

private theorem close_led {before : World} {promise : PromiseId} (cell : Cell) (free : spared promise = false)
    (permitted : (Step.setCell promise cell).Permitted before) (ended : cell ≠ .running) (answer : Poll) :
    LedFrom spared mark passes before (do Action.change (·.setCell promise cell); return answer)
      (do Action.change (·.setCell promise cell); return answer) := by
  apply LedFrom.bind _ fun _ middle _ => Led.pure answer middle
  apply LedFrom.step permitted
  · rintro other cell same
    cases same
    exact free
  · intro log
    have silent : startLog before [.setCell promise cell] = [] := by
      cases cell with
      | running => exact (ended rfl).elim
      | unstarted | suspended | settled => rfl
    rw [silent]
    rfl

private theorem pollMarked_run (dispatch : Dispatch) (promise : PromiseId) (world : World) :
    pollMarked mark passes dispatch promise world =
      match world.cell? promise with
      | some (.settled outcome) => some (.settled outcome, world)
      | some (.unstarted routine) | some (.suspended routine) =>
        resumeInspected passes dispatch promise routine (markStart mark promise world)
      | some .running | none => some (.pending, world) := by
  rw [pollMarked, bind_run, change_run, Option.bind_some, pollInspected, bind_run, read_run, Option.bind_some]
  cases held : world.cell? promise with
  | none =>
    simp only [markStart, held]
    rfl
  | some cell =>
    cases cell with
    | settled | running =>
      simp only [markStart, held]
      rfl
    | suspended =>
      simp only [markStart, held]
    | unstarted =>
      have same : (marked mark [promise] world).cell? promise = world.cell? promise := rfl
      simp only [markStart, held, same]

theorem resumable_inside {world : World} {promise : PromiseId} {routine : Routine}
    (held : world.cell? promise = some (.unstarted routine) ∨ world.cell? promise = some (.suspended routine)) :
    promise.index < world.cells.size := by
  obtain held | held := held
  · exact (Array.getElem?_eq_some_iff.mp held).1
  · exact (Array.getElem?_eq_some_iff.mp held).1

section Polls
variable {first second : Dispatch} (ways : DispatchRelated (Led spared mark passes) first second)
include ways

private theorem runInspected_led (program : Program α) :
    Led spared mark passes (program.run first) (runInspected passes second program) := by
  induction program with
  | done result => exact inspect_led (.pure result)
  | ask request next ih =>
    apply inspect_led
    exact .bind (answer_related led_compatible.toSequential (ways.ways led_compatible) request fun _ own => own_led request own) ih

variable {promise : PromiseId} {routine : Routine} {before : World}
  (running : ∀ (α : Type) (program : Program α) before value after, program.run first before = some (value, after) →
    before.cell? promise = some .running → after.cell? promise = some .running)
  (free : spared promise = false)
include running free

private theorem resume_led (held : before.cell? promise = some (.unstarted routine) ∨
      before.cell? promise = some (.suspended routine)) :
    LedFrom spared mark passes before (first.resume promise routine)
      (Action.change (markStart mark promise) >>= fun _ => resumeInspected passes second promise routine) := by
  have inside := resumable_inside held
  rw [Dispatch.resume, resumeInspected, ← run_progress, ← bind_assoc (Action.change (markStart mark promise))]
  apply (open_led free held).bind
  intro _ opened began
  cases began
  apply (runInspected_led ways (progress routine) _).bind
  intro progress middle advanced
  have still : middle.cell? promise = some .running :=
    running _ _ _ _ _ advanced (World.cell?_setCell_self inside .running)
  cases progress with
  | finished outcome => exact close_led (.settled outcome) free still nofun _
  | paused rest => exact close_led (.suspended rest) free still nofun _

private theorem pollCell_led :
    Led spared mark passes (first.pollCell promise) (pollMarked mark passes second promise) := by
  intro before
  have shown log : (marked mark log before).cell? promise = before.cell? promise := rfl
  cases held : before.cell? promise with
  | none => exact .still (by rw [pollCell_run, held]) fun log => by rw [pollMarked_run, shown, held]
  | some cell =>
    cases cell with
    | settled outcome => exact .still (by rw [pollCell_run, held]) fun log => by rw [pollMarked_run, shown, held]
    | running => exact .still (by rw [pollCell_run, held]) fun log => by rw [pollMarked_run, shown, held]
    | unstarted routine =>
      apply LedFrom.congr (resume_led ways running free (.inl held))
      · rw [pollCell_run, held]
      · exact fun log => by rw [pollMarked_run, shown, held]; rfl
    | suspended routine =>
      apply LedFrom.congr (resume_led ways running free (.inr held))
      · rw [pollCell_run, held]
      · exact fun log => by rw [pollMarked_run, shown, held]; rfl

end Polls

private theorem marking_led (host : Host) (depth : Nat) :
    DispatchRelated (Led spared mark passes) (sparing host spared depth) (marking host mark passes depth) := by
  induction depth with
  | zero =>
    exact
      { check := fun _ _ => .exhausted _
        body := fun _ _ => .exhausted _
        routine := rfl
        startPass := fun _ => .exhausted _
        nextItem := fun _ _ => .exhausted _
        poll := fun _ => .exhausted _ }
  | succ depth ih =>
    exact
      { check := fun check value => runInspected_led ih (host.check check value)
        body := fun function args => runInspected_led ih (host.body function args)
        routine := rfl
        startPass := fun producer => runInspected_led ih (host.startPass producer)
        nextItem := fun producer place => runInspected_led ih (host.nextItem producer place)
        poll := fun promise => by
          change Led spared mark passes (if spared promise then .exhausted else _) _
          split
          · exact .exhausted _
          · next free =>
            apply pollCell_led ih _ (Bool.eq_false_iff.mpr free)
            intro β program before value after ran
            exact run_running host depth program (sparing_run host depth program ran).1 }

/-- A run is told by orderly steps that leave spared promises alone. If every world on the way passes, the run under
inspection does the same, and its marks are those of the starts among the steps. -/
def HasHistory (host : Host) (depth : Nat) (spared : PromiseId → Bool) (program : Program α) (before : World) (value : α)
    (after : World) : Prop :=
  ∀ mark passes, ∃ steps, Orderly before steps ∧
    (∀ promise cell, .setCell promise cell ∈ steps → spared promise = false) ∧ taken before steps = after ∧
    ((∀ earlier, earlier <+: steps → passes (marked mark (startLog before earlier) (taken before earlier)) = true) →
      runInspected passes (marking host mark passes depth) program before =
        some (value, marked mark (startLog before steps) after))

theorem sparing_history (host : Host) (depth : Nat) (program : Program α) {before after : World} {value}
    (ran : program.run (sparing host spared depth) before = some (value, after)) :
    HasHistory host depth spared program before value after := by
  intro mark passes
  have led : Led spared mark passes _ _ := runInspected_led (marking_led host depth) program
  obtain ⟨steps, orderly, spares, reached, seen⟩ := led before value after ran
  refine ⟨steps, orderly, spares, reached, fun passed => ?_⟩
  have result := seen [] fun earlier inside => by rw [List.append_nil, passed earlier inside]
  rwa [marked_nil, List.append_nil] at result

end TypeGuard.Proofs
