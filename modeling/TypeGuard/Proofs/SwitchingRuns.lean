import TypeGuard.Proofs.Switching

/-! What runs have in common that differ only in switches of custom types and in settings of registries. -/

namespace TypeGuard.Proofs

variable {α β : Type}

theorem defer_agree {routine routine' : Routine} (routines : RoutinesAgree routine routine') :
    Follows WorldsAgree (Action.defer routine) (Action.defer routine') := by
  intro before before' agree promise after ran
  cases ran
  refine ⟨before'.addCell (.unstarted routine'), ?_, agree.addCell (.unstarted routines)⟩
  rw [agree.nextPromise]
  rfl

inductive ProgressAgrees : Progress → Progress → Prop
  | finished (outcome) : ProgressAgrees (.finished outcome) (.finished outcome)
  | paused {rest rest'} (routines : RoutinesAgree rest rest') : ProgressAgrees (.paused rest) (.paused rest')

section Runs
variable {first second : Dispatch} (ways : WaysRelated (Follows WorldsAgree) first second)
include ways

private theorem answer_agree {request request' : Request} (counterparts : Counterparts request request')
    {next : request.Answer → Action β} {next' : request'.Answer → Action β}
    (rest : ∀ answer answer', AnswersAgree request request' answer answer' → Follows WorldsAgree (next answer) (next' answer')) :
    Follows WorldsAgree (first.answer request >>= next) (second.answer request' >>= next') := by
  cases counterparts with
  | openRegistry settings settings' =>
    intro before before' agree value after ran
    have opened := rest ⟨before.opened⟩ ⟨before.opened⟩ (.openRegistry settings settings' _) _ _
      (agree.openRegistry settings settings') value after ran
    rw [agree.opened] at opened
    exact opened
  | same =>
    by_cases reads : ∃ registry, request = .isEnabled registry
    · obtain ⟨registry, rfl⟩ := reads
      intro before before' agree value after ran
      exact rest _ _ (.isEnabled registry _ _) before before' agree value after ran
    · refine .bind ?_ fun answer => rest answer answer (.same request answer)
      apply answer_related (follows_sequential worldsAgree_alike) ways
      intro action own
      apply own_follows worldsAgree_alike (fun outcome => defer_agree (.finish outcome)) request ?_ own
      intro registry same
      exact absurd ⟨registry, same⟩ reads

theorem run_agree {program program' : Program α} (agree : ProgramsAgree program program') :
    Follows WorldsAgree (program.run first) (program'.run second) := by
  induction agree with
  | done result => exact .pure result
  | ask counterparts _ ih => exact answer_agree ways counterparts ih
  | switchFirst registry enabled _ ih => exact fun _ _ agree => ih _ _ (agree.switchFirst registry enabled)
  | switchSecond registry enabled _ ih => exact fun _ _ agree => ih _ _ (agree.switchSecond registry enabled)

private theorem advance_agree {routine routine' : Routine} (agree : RoutinesAgree routine routine')
    {next next' : Progress → Action β}
    (rest : ∀ progress progress', ProgressAgrees progress progress' → Follows WorldsAgree (next progress) (next' progress')) :
    Follows WorldsAgree (routine.advance first >>= next) (routine'.advance second >>= next') := by
  induction agree with
  | finish outcome => exact rest _ _ (.finished outcome)
  | pause routines => exact rest _ _ (.paused routines)
  | await other routines ih =>
    rw [Routine.advance, Routine.advance, bind_assoc, bind_assoc]
    apply Follows.bind (ways.poll other)
    intro poll
    cases poll with
    | pending => exact rest _ _ (.paused (.await other routines))
    | settled outcome => exact ih outcome
  | ask counterparts _ ih =>
    rw [Routine.advance, Routine.advance, bind_assoc, bind_assoc]
    exact answer_agree ways counterparts ih
  | switchFirst registry enabled _ ih => exact fun _ _ agree => ih _ _ (agree.switchFirst registry enabled)
  | switchSecond registry enabled _ ih => exact fun _ _ agree => ih _ _ (agree.switchSecond registry enabled)

private theorem resume_agree (promise : PromiseId) {routine routine' : Routine} (agree : RoutinesAgree routine routine') :
    Follows WorldsAgree (first.resume promise routine) (second.resume promise routine') := by
  apply Follows.bind (Follows.change fun _ _ agree => agree.setCell promise .running)
  intro _
  apply advance_agree ways agree
  intro progress progress' same
  cases same with
  | finished outcome =>
    exact Follows.bind (Follows.change fun _ _ agree => agree.setCell promise (.settled outcome)) fun _ => .pure _
  | paused routines =>
    intro before before' agree value after ran
    cases ran
    exact ⟨_, rfl, agree.setCell promise (.suspended routines)⟩

private theorem pollCell_agree (promise : PromiseId) :
    Follows WorldsAgree (first.pollCell promise) (second.pollCell promise) := by
  intro before before' agree value after ran
  have cells := agree.cells promise
  rw [pollCell_run] at ran ⊢
  generalize before.cell? promise = cell at cells ran
  generalize before'.cell? promise = cell' at cells ⊢
  cases cells with
  | none =>
    cases ran
    exact ⟨before', rfl, agree⟩
  | some cells =>
    cases cells with
    | unstarted routines => exact resume_agree ways promise routines before before' agree value after ran
    | suspended routines => exact resume_agree ways promise routines before before' agree value after ran
    | running =>
      cases ran
      exact ⟨before', rfl, agree⟩
    | settled outcome =>
      cases ran
      exact ⟨before', rfl, agree⟩

end Runs

private theorem beginRoutine_agree {first second : Dispatch}
    (routines : ∀ function args, RoutinesAgree (first.routine function args) (second.routine function args))
    (callable : Callable) (args : List Value) :
    RoutinesAgree (beginRoutine first callable args) (beginRoutine second callable args) := by
  induction callable with
  | host kind name function => exact routines function args
  | guarded identity signature registry target ih =>
    rw [beginRoutine_guarded, beginRoutine_guarded]
    apply RoutinesAgree.ask (.same _)
    intro refused refused' same
    cases same
    cases refused with
    | some refusal => exact .finish _
    | none => exact ih

private theorem deferred_agree {first second : Host} (hosts : HostsAgree first second) (depth : Nat) (callable : Callable)
    (args : List Value) : Follows WorldsAgree (Action.defer (beginRoutine (first.dispatch depth) callable args))
      (Action.defer (beginRoutine (second.dispatch depth) callable args)) := by
  apply defer_agree
  apply beginRoutine_agree
  rw [dispatch_routine, dispatch_routine]
  exact hosts.routine

theorem dispatch_agree {first second : Host} (hosts : HostsAgree first second) (depth : Nat) :
    WaysRelated (Follows WorldsAgree) (first.dispatch depth) (second.dispatch depth) := by
  induction depth with
  | zero =>
    exact
      { check := fun _ _ => .exhausted _
        body := fun _ _ => .exhausted _
        deferred := deferred_agree hosts 0
        startPass := fun _ => .exhausted _
        nextItem := fun _ _ => .exhausted _
        poll := fun _ => .exhausted _ }
  | succ depth ih =>
    exact
      { check := fun check value => run_agree ih (hosts.check check value)
        body := fun function args => run_agree ih (hosts.body function args)
        deferred := deferred_agree hosts (depth + 1)
        startPass := fun producer => run_agree ih (hosts.startPass producer)
        nextItem := fun producer place => run_agree ih (hosts.nextItem producer place)
        poll := pollCell_agree ih }

/-- Either both runs are without a result, or they have the same one and leave agreeing worlds. -/
def SameCourse (first second : Option (α × World)) : Prop :=
  Option.Rel (fun result result' => result.1 = result'.1 ∧ WorldsAgree result.2 result'.2) first second

private theorem sameCourse_run {host host' : Host} (hosts : HostsAgree host host') {program program' : Program α}
    (programs : ProgramsAgree program program') {before before' : World} (worlds : WorldsAgree before before') (depth : Nat) :
    SameCourse (host.run depth program before) (host'.run depth program' before') :=
  (run_agree (dispatch_agree hosts depth) programs).both (run_agree (dispatch_agree hosts.symm depth) programs.symm)
    WorldsAgree.symm before before' worlds

inductive Incident
  | answered (request : Request) (answer : request.Answer)
  | check (check : CheckId) (value : Value)
  | body (function : FunctionId) (args : List Value)
  | routine (function : FunctionId) (args : List Value)
  | startPass (producer : GeneratorId)
  | nextItem (producer : GeneratorId) (place : Nat)

/-- The answer to a request as an incident. Switches are none, and neither are reads of whether custom types are on. -/
def incident? : (request : Request) → request.Answer → Option Incident
  | .setEnabled _ _, _ | .isEnabled _, _ => none
  | .openRegistry _, id => some (.answered (.openRegistry {}) id)
  | request, answer => some (.answered request answer)

variable (label : Incident → String)

def noteIncident : Option Incident → Program α → Program α
  | some incident, program => .ask (.note (label incident)) fun _ => program
  | none, program => program

def narrated : Program α → Program α
  | .done result => .done result
  | .ask request next => .ask request fun answer => noteIncident label (incident? request answer) (narrated (next answer))

def noteIncidentRoutine : Option Incident → Routine → Routine
  | some incident, routine => .ask (.note (label incident)) fun _ => routine
  | none, routine => routine

def narratedRoutine : Routine → Routine
  | .finish outcome => .finish outcome
  | .pause next => .pause (narratedRoutine next)
  | .await other next => .await other fun outcome => narratedRoutine (next outcome)
  | .ask request next => .ask request fun answer =>
    noteIncidentRoutine label (incident? request answer) (narratedRoutine (next answer))

/-- The host, with a note whenever its code is entered and of every answer that it gets. -/
def narrating (host : Host) : Host where
  check check value := noteIncident label (some (.check check value)) (narrated label (host.check check value))
  body function args := noteIncident label (some (.body function args)) (narrated label (host.body function args))
  routine function args :=
    noteIncidentRoutine label (some (.routine function args)) (narratedRoutine label (host.routine function args))
  startPass producer := noteIncident label (some (.startPass producer)) (narrated label (host.startPass producer))
  nextItem producer place := noteIncident label (some (.nextItem producer place)) (narrated label (host.nextItem producer place))

variable {label}

private theorem incident?_agree {request request' : Request} {answer : request.Answer} {answer' : request'.Answer}
    (same : AnswersAgree request request' answer answer') : incident? request answer = incident? request' answer' := by
  cases same <;> rfl

private theorem noteIncident_agree {program program' : Program α} (agree : ProgramsAgree program program')
    (incident : Option Incident) : ProgramsAgree (noteIncident label incident program) (noteIncident label incident program') := by
  cases incident with
  | none => exact agree
  | some incident => exact .ask (.same _) fun _ _ _ => agree

private theorem noteIncidentRoutine_agree {routine routine' : Routine} (agree : RoutinesAgree routine routine')
    (incident : Option Incident) :
    RoutinesAgree (noteIncidentRoutine label incident routine) (noteIncidentRoutine label incident routine') := by
  cases incident with
  | none => exact agree
  | some incident => exact .ask (.same _) fun _ _ _ => agree

private theorem narrated_agree {program program' : Program α} (agree : ProgramsAgree program program') :
    ProgramsAgree (narrated label program) (narrated label program') := by
  induction agree with
  | done result => exact .done result
  | ask counterparts _ ih =>
    apply ProgramsAgree.ask counterparts
    intro answer answer' same
    rw [incident?_agree same]
    exact noteIncident_agree (ih answer answer' same) _
  | switchFirst registry enabled _ ih => exact .switchFirst registry enabled ih
  | switchSecond registry enabled _ ih => exact .switchSecond registry enabled ih

private theorem narratedRoutine_agree {routine routine' : Routine} (agree : RoutinesAgree routine routine') :
    RoutinesAgree (narratedRoutine label routine) (narratedRoutine label routine') := by
  induction agree with
  | finish outcome => exact .finish outcome
  | pause _ ih => exact .pause ih
  | await other _ ih => exact .await other ih
  | ask counterparts _ ih =>
    apply RoutinesAgree.ask counterparts
    intro answer answer' same
    rw [incident?_agree same]
    exact noteIncidentRoutine_agree (ih answer answer' same) _
  | switchFirst registry enabled _ ih => exact .switchFirst registry enabled ih
  | switchSecond registry enabled _ ih => exact .switchSecond registry enabled ih

private theorem narrating_agree {first second : Host} (hosts : HostsAgree first second) :
    HostsAgree (narrating label first) (narrating label second) where
  check check value := noteIncident_agree (narrated_agree (hosts.check check value)) (some (.check check value))
  body function args := noteIncident_agree (narrated_agree (hosts.body function args)) (some (.body function args))
  routine function args :=
    noteIncidentRoutine_agree (narratedRoutine_agree (hosts.routine function args)) (some (.routine function args))
  startPass producer := noteIncident_agree (narrated_agree (hosts.startPass producer)) (some (.startPass producer))
  nextItem producer place :=
    noteIncident_agree (narrated_agree (hosts.nextItem producer place)) (some (.nextItem producer place))

/-- Runs that differ only in switches and settings take the same course, from worlds that differ only in whether custom
types are on: both have the same result or none, and the same journal but for what it tells of switches. This is so even
if every answer is noted there, but those to reads of whether custom types are on, and every call of a check or of a
function; so the same is called and answered, and in the same order. -/
theorem switches_decide_nothing {host host' : Host} (hosts : HostsAgree host host') {program program' : Program α}
    (programs : ProgramsAgree program program') {before before' : World} (worlds : WorldsAgree before before') (depth : Nat) :
    SameCourse (host.run depth program before) (host'.run depth program' before') ∧
      ∀ label : Incident → String, SameCourse ((narrating label host).run depth (narrated label program) before)
        ((narrating label host').run depth (narrated label program') before') :=
  ⟨sameCourse_run hosts programs worlds depth,
    fun _ => sameCourse_run (narrating_agree hosts) (narrated_agree programs) worlds depth⟩

def registeringThen (rest : Program (Option CustomType)) : Host where
  check _ _ := .ask (.register .shared .string ⟨"late"⟩ ⟨1⟩) fun _ => rest
  body _ _ := .done (.ok .undefined)
  routine _ _ := .finish (.ok .undefined)
  startPass _ := .done ()
  nextItem _ _ := .done none

def classifyingAfter (settings : Registry.Settings) (middle : RegistryId → Program Tag → Program Tag) : Program Tag :=
  .ask (.openRegistry settings) fun id => .ask (.register id .string ⟨"early"⟩ ⟨0⟩) fun _ =>
    middle id (.ask (.classify id (.string "x")) .done)

/-- In the second run custom types are on from the start, are switched off before a value is classified, and once more by
the check that is called then. -/
theorem switches_decide_nothing_in_check :
    HostsAgree (registeringThen (.done none)) (registeringThen (.ask (.setEnabled .shared false) fun _ => .done none)) ∧
    ProgramsAgree (classifyingAfter {} fun _ rest => rest)
      (classifyingAfter { enabled := true } fun id rest => .ask (.setEnabled id false) fun _ => rest) ∧
    WorldsAgree World.start (World.start.setEnabled .shared true) ∧
    SameCourse ((registeringThen (.done none)).run 1 (classifyingAfter {} fun _ rest => rest) World.start)
      ((registeringThen (.ask (.setEnabled .shared false) fun _ => .done none)).run 1
        (classifyingAfter { enabled := true } fun id rest => .ask (.setEnabled id false) fun _ => rest)
        (World.start.setEnabled .shared true)) ∧
    ((registeringThen (.done none)).run 1 (classifyingAfter {} fun _ rest => rest) World.start).map Prod.fst =
      some (.builtin .string) := by
  have hosts : HostsAgree (registeringThen (.done none))
      (registeringThen (.ask (.setEnabled .shared false) fun _ => .done none)) :=
    { check := fun _ _ => .ask (.same _) fun _ _ _ => .switchSecond .shared false (.done none)
      body := fun _ _ => .done _
      routine := fun _ _ => .finish _
      startPass := fun _ => .done _
      nextItem := fun _ _ => .done _ }
  have programs : ProgramsAgree (classifyingAfter {} fun _ rest => rest)
      (classifyingAfter { enabled := true } fun id rest => .ask (.setEnabled id false) fun _ => rest) := by
    apply ProgramsAgree.ask (.openRegistry _ _)
    intro id _ opened
    cases opened
    apply ProgramsAgree.ask (.same _)
    intro _ _ _
    apply ProgramsAgree.switchSecond
    apply Unreading.agree
    exact .ask (by simp) .done
  have start : WorldsAgree World.start World.start := ⟨fun _ => rfl, rfl, rfl, fun _ => .none, rfl, rfl, rfl⟩
  have worlds := start.switchSecond .shared true
  exact ⟨hosts, programs, worlds, (switches_decide_nothing hosts programs worlds 1).1, rfl⟩

end TypeGuard.Proofs
