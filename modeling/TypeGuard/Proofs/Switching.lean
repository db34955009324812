import TypeGuard.Proofs.Following

/-! Switching custom types on or off decides nothing. Two runs that differ only in switches and in how registries are
set up in this respect take the same course: a run shows it only where it reads whether they are on. -/

namespace TypeGuard.Proofs

variable {α : Type}

inductive Counterparts : Request → Request → Prop
  | same (request) : Counterparts request request
  | openRegistry (settings settings') : Counterparts (.openRegistry settings) (.openRegistry settings')

/-- Answers are the same, but reads of whether custom types are on may be answered in any way. -/
inductive AnswersAgree : (request request' : Request) → request.Answer → request'.Answer → Prop
  | same (request answer) : AnswersAgree request request answer answer
  | openRegistry (settings settings' id) : AnswersAgree (.openRegistry settings) (.openRegistry settings') id id
  | isEnabled (registry answer answer') : AnswersAgree (.isEnabled registry) (.isEnabled registry) answer answer'

/-- The programs are the same but for switches and settings. A read of whether custom types are on makes no difference
to what they ask and how they end. -/
inductive ProgramsAgree : Program α → Program α → Prop
  | done (result) : ProgramsAgree (.done result) (.done result)
  | ask {request request' next next'} (counterparts : Counterparts request request')
      (rest : ∀ answer answer', AnswersAgree request request' answer answer' → ProgramsAgree (next answer) (next' answer')) :
      ProgramsAgree (.ask request next) (.ask request' next')
  | switchFirst (registry enabled) {next program} (rest : ProgramsAgree (next ()) program) :
      ProgramsAgree (.ask (.setEnabled registry enabled) next) program
  | switchSecond (registry enabled) {program next} (rest : ProgramsAgree program (next ())) :
      ProgramsAgree program (.ask (.setEnabled registry enabled) next)

inductive RoutinesAgree : Routine → Routine → Prop
  | finish (outcome) : RoutinesAgree (.finish outcome) (.finish outcome)
  | pause {next next'} (rest : RoutinesAgree next next') : RoutinesAgree (.pause next) (.pause next')
  | await (other) {next next'} (rest : ∀ outcome, RoutinesAgree (next outcome) (next' outcome)) :
      RoutinesAgree (.await other next) (.await other next')
  | ask {request request' next next'} (counterparts : Counterparts request request')
      (rest : ∀ answer answer', AnswersAgree request request' answer answer' → RoutinesAgree (next answer) (next' answer')) :
      RoutinesAgree (.ask request next) (.ask request' next')
  | switchFirst (registry enabled) {next routine} (rest : RoutinesAgree (next ()) routine) :
      RoutinesAgree (.ask (.setEnabled registry enabled) next) routine
  | switchSecond (registry enabled) {routine next} (rest : RoutinesAgree routine (next ())) :
      RoutinesAgree routine (.ask (.setEnabled registry enabled) next)

structure HostsAgree (first second : Host) : Prop where
  check : ∀ check value, ProgramsAgree (first.check check value) (second.check check value)
  body : ∀ function args, ProgramsAgree (first.body function args) (second.body function args)
  routine : ∀ function args, RoutinesAgree (first.routine function args) (second.routine function args)
  startPass : ∀ producer, ProgramsAgree (first.startPass producer) (second.startPass producer)
  nextItem : ∀ producer place, ProgramsAgree (first.nextItem producer place) (second.nextItem producer place)

inductive CellsAgree : Cell → Cell → Prop
  | unstarted {routine routine'} (routines : RoutinesAgree routine routine') :
      CellsAgree (.unstarted routine) (.unstarted routine')
  | suspended {routine routine'} (routines : RoutinesAgree routine routine') :
      CellsAgree (.suspended routine) (.suspended routine')
  | running : CellsAgree .running .running
  | settled (outcome) : CellsAgree (.settled outcome) (.settled outcome)

def unswitched (registry : Registry) : Registry :=
  { registry with enabled := false }

def tellsSwitch : Event → Bool
  | .switched _ _ => true
  | .note _ | .registered _ _ _ _ | .replaced _ _ _ _ | .guarding _ _ _ => false

/-- The journal without what it tells of switches. -/
def told (world : World) : List Event :=
  world.journal.toList.filter (!tellsSwitch ·)

/-- The worlds are the same but for whether custom types are on, what the journal tells of that, and switches that
promises have before them. -/
structure WorldsAgree (first second : World) : Prop where
  registries : ∀ id, unswitched (first.registries id) = unswitched (second.registries id)
  opened : first.opened = second.opened
  nextPromise : first.nextPromise = second.nextPromise
  cells : ∀ promise, Option.Rel CellsAgree (first.cell? promise) (second.cell? promise)
  memory : first.memory = second.memory
  identities : first.identities = second.identities
  told : told first = told second

/-- The program never reads whether custom types are on. -/
inductive Unreading : Program α → Prop
  | done (result) : Unreading (.done result)
  | ask {request next} (other : ∀ registry, request ≠ .isEnabled registry) (rest : ∀ answer, Unreading (next answer)) :
      Unreading (.ask request next)

theorem Unreading.agree {program : Program α} (unreading : Unreading program) : ProgramsAgree program program := by
  induction unreading with
  | done result => exact .done result
  | ask other _ ih =>
    apply ProgramsAgree.ask (.same _)
    intro answer answer' same
    cases same with
    | same => exact ih answer
    | openRegistry settings settings' id => exact ih id
    | isEnabled registry => exact absurd rfl (other registry)

theorem Counterparts.symm {request request' : Request} (counterparts : Counterparts request request') :
    Counterparts request' request := by
  cases counterparts with
  | same => exact .same request
  | openRegistry settings settings' => exact .openRegistry settings' settings

theorem AnswersAgree.symm {request request' : Request} {answer : request.Answer} {answer' : request'.Answer}
    (agree : AnswersAgree request request' answer answer') : AnswersAgree request' request answer' answer := by
  cases agree with
  | same => exact .same request answer
  | openRegistry settings settings' id => exact .openRegistry settings' settings id
  | isEnabled registry answer answer' => exact .isEnabled registry answer' answer

theorem ProgramsAgree.symm {program program' : Program α} (agree : ProgramsAgree program program') :
    ProgramsAgree program' program := by
  induction agree with
  | done result => exact .done result
  | ask counterparts _ ih => exact .ask counterparts.symm fun answer answer' agree => ih answer' answer agree.symm
  | switchFirst registry enabled _ ih => exact .switchSecond registry enabled ih
  | switchSecond registry enabled _ ih => exact .switchFirst registry enabled ih

theorem RoutinesAgree.symm {routine routine' : Routine} (agree : RoutinesAgree routine routine') :
    RoutinesAgree routine' routine := by
  induction agree with
  | finish outcome => exact .finish outcome
  | pause _ ih => exact .pause ih
  | await other _ ih => exact .await other ih
  | ask counterparts _ ih => exact .ask counterparts.symm fun answer answer' agree => ih answer' answer agree.symm
  | switchFirst registry enabled _ ih => exact .switchSecond registry enabled ih
  | switchSecond registry enabled _ ih => exact .switchFirst registry enabled ih

theorem HostsAgree.symm {first second : Host} (agree : HostsAgree first second) : HostsAgree second first where
  check check value := (agree.check check value).symm
  body function args := (agree.body function args).symm
  routine function args := (agree.routine function args).symm
  startPass producer := (agree.startPass producer).symm
  nextItem producer place := (agree.nextItem producer place).symm

theorem CellsAgree.symm {first second : Cell} (agree : CellsAgree first second) : CellsAgree second first := by
  cases agree with
  | unstarted routines => exact .unstarted routines.symm
  | suspended routines => exact .suspended routines.symm
  | running => exact .running
  | settled outcome => exact .settled outcome

theorem refinements_unswitched (registry : Registry) (root : BuiltinType) :
    (unswitched registry).refinements root = registry.refinements root := rfl

theorem isPlaced_unswitched (registry : Registry) (root : BuiltinType) (tag : CustomType) :
    (unswitched registry).isPlaced root tag = registry.isPlaced root tag := rfl

theorem unswitched_place {registry registry' : Registry} (same : unswitched registry = unswitched registry')
    (root : BuiltinType) (tag : CustomType) (check : CheckId) :
    unswitched (registry.place root tag check) = unswitched (registry'.place root tag check) :=
  congrArg (fun bare => unswitched (bare.place root tag check)) same

theorem told_record (world : World) (event : Event) : told (world.record event) = told world ++ [event].filter (!tellsSwitch ·) := by
  rw [told, World.record, Array.toList_push, List.filter_append, ← told]

namespace WorldsAgree

variable {first second : World}

section
variable (agree : WorldsAgree first second)
include agree

theorem symm : WorldsAgree second first where
  registries id := (agree.registries id).symm
  opened := agree.opened.symm
  nextPromise := agree.nextPromise.symm
  cells promise := by
    have cells := agree.cells promise
    generalize first.cell? promise = cell at cells ⊢
    generalize second.cell? promise = cell' at cells ⊢
    cases cells with
    | none => exact .none
    | some cells => exact .some cells.symm
  memory := agree.memory.symm
  identities := agree.identities.symm
  told := agree.told.symm

theorem refinements (registry : RegistryId) (root : BuiltinType) :
    (first.registries registry).refinements root = (second.registries registry).refinements root := by
  rw [← refinements_unswitched, agree.registries, refinements_unswitched]

theorem outcome? (promise : PromiseId) : first.outcome? promise = second.outcome? promise := by
  have cells := agree.cells promise
  rw [World.outcome?, World.outcome?]
  generalize first.cell? promise = cell at cells ⊢
  generalize second.cell? promise = cell' at cells ⊢
  cases cells with
  | none => rfl
  | some cells => cases cells <;> rfl

theorem record (event : Event) : WorldsAgree (first.record event) (second.record event) :=
  { agree with told := by rw [told_record, told_record, agree.told] }

private theorem setRegistry (id : RegistryId) {registry registry' : Registry}
    (same : unswitched registry = unswitched registry') :
    WorldsAgree (first.setRegistry id registry) (second.setRegistry id registry') :=
  { agree with
    registries := by
      intro other
      simp only [World.setRegistry]
      split
      · exact same
      · exact agree.registries other }

theorem openRegistry (settings settings' : Registry.Settings) :
    WorldsAgree (first.openRegistry settings) (second.openRegistry settings') := by
  have bare : unswitched (.ofSettings settings) = unswitched (.ofSettings settings') := rfl
  have set := agree.setRegistry ⟨first.opened⟩ bare
  rw [World.openRegistry, World.openRegistry, ← agree.opened]
  exact { set with opened := rfl }

theorem register (id : RegistryId) (root : BuiltinType) (tag : CustomType) (check : CheckId) :
    WorldsAgree (first.register id root tag check) (second.register id root tag check) := by
  have placed : (unswitched (first.registries id)).isPlaced root tag = (unswitched (second.registries id)).isPlaced root tag := by
    rw [agree.registries]
  have set := agree.setRegistry id (unswitched_place (agree.registries id) root tag check)
  rw [isPlaced_unswitched, isPlaced_unswitched] at placed
  simp only [World.register, placed]
  exact set.record _

theorem switchFirst (id : RegistryId) (enabled : Bool) : WorldsAgree (first.setEnabled id enabled) second := by
  have set : WorldsAgree (first.setRegistry id { first.registries id with enabled }) second :=
    { agree with
      registries := by
        intro other
        simp only [World.setRegistry]
        split
        next same => rw [same, ← agree.registries]; rfl
        next => exact agree.registries other }
  simp only [World.setEnabled]
  split
  · exact set
  · exact { set with told := by rw [told_record, ← set.told]; exact List.append_nil _ }

theorem switchSecond (id : RegistryId) (enabled : Bool) : WorldsAgree first (second.setEnabled id enabled) :=
  (agree.symm.switchFirst id enabled).symm

theorem addCell {cell cell' : Cell} (added : CellsAgree cell cell') : WorldsAgree (first.addCell cell) (second.addCell cell') :=
  { agree with
    nextPromise := by
      have sizes : first.cells.size = second.cells.size := congrArg PromiseId.index agree.nextPromise
      simp only [World.nextPromise, World.addCell, Array.size_push, sizes]
    cells := by
      intro promise
      rw [World.cell?_addCell_eq, World.cell?_addCell_eq, agree.nextPromise]
      split
      · exact .some added
      · exact agree.cells promise }

theorem setCell (promise : PromiseId) {cell cell' : Cell} (set : CellsAgree cell cell') :
    WorldsAgree (first.setCell promise cell) (second.setCell promise cell') :=
  { agree with
    nextPromise := by rw [World.nextPromise_setCell, World.nextPromise_setCell, agree.nextPromise]
    cells := by
      intro other
      have cells := agree.cells other
      rw [World.cell?_setCell_eq, World.cell?_setCell_eq]
      generalize first.cell? other = held at cells ⊢
      generalize second.cell? other = held' at cells ⊢
      split
      · cases cells with
        | none => exact .none
        | some _ => exact .some set
      · exact cells }

end

end WorldsAgree

theorem worldsAgree_alike : AlikeOutside WorldsAgree where
  opened agree := agree.opened
  refinements agree := agree.refinements
  outcome? promise _ _ agree := agree.outcome? promise
  memory agree := agree.memory
  identities agree := agree.identities
  note text _ _ agree := agree.record (.note text)
  guarding kind name signature _ _ agree := agree.record (.guarding kind name signature)
  openRegistry settings _ _ agree := agree.openRegistry settings settings
  setEnabled registry enabled _ _ agree := (agree.switchFirst registry enabled).switchSecond registry enabled
  register registry root tag check _ _ agree := agree.register registry root tag check
  identify agree := { agree with identities := congrArg (· + 1) agree.identities }
  remember key value _ _ agree := { agree with memory := by simp only [World.remember, agree.memory] }

end TypeGuard.Proofs
