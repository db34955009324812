import TypeGuard.Proofs.Actions
import TypeGuard.Proofs.Relating

/-! Runs that follow other runs. What holds between two worlds and outlasts every single change of
both is kept by all that the library does, however often it enters code of the host and is entered
again from there. -/

namespace TypeGuard.Proofs

variable {α β : Type} {alike : World → World → Prop}

/-- Started in a world alike, the second action does what the first one does: whenever the first
has a result, the second has the same one, and the worlds that they leave are alike again. -/
def Follows (alike : World → World → Prop) (first second : Action α) : Prop :=
  ∀ before before', alike before before' → ∀ value after, first before = some (value, after) →
    ∃ after', second before' = some (value, after') ∧ alike after after'

namespace Follows

theorem exhausted (second : Action α) : Follows alike .exhausted second := by
  intro before before' _ value after ran
  cases ran

theorem pure (value : α) : Follows alike (Pure.pure value) (Pure.pure value) := by
  intro before before' same result after ran
  cases ran
  exact ⟨before', rfl, same⟩

theorem bind {first second : Action α} {next next' : α → Action β} (start : Follows alike first second)
    (rest : ∀ value, Follows alike (next value) (next' value)) :
    Follows alike (first >>= next) (second >>= next') := by
  intro before before' same result after ran
  rw [bind_run] at ran
  obtain ⟨⟨value, middle⟩, started, ran⟩ := Option.bind_eq_some_iff.mp ran
  obtain ⟨middle', started', same⟩ := start before before' same value middle started
  obtain ⟨after', ran', same⟩ := rest value middle middle' same result after ran
  refine ⟨after', ?_, same⟩
  rw [bind_run, started']
  exact ran'

theorem read {view : World → α} (shown : ∀ before before', alike before before' → view before = view before') :
    Follows alike (Action.read view) (Action.read view) := by
  intro before before' same result after ran
  cases ran
  exact ⟨before', by rw [read_run, shown before before' same], same⟩

theorem change {update : World → World}
    (kept : ∀ before before', alike before before' → alike (update before) (update before')) :
    Follows alike (Action.change update) (Action.change update) := by
  intro before before' same result after ran
  cases ran
  exact ⟨update before', rfl, kept before before' same⟩

theorem both {back : World → World → Prop} {first second : Action α} (forward : Follows alike first second)
    (backward : Follows back second first) (turn : ∀ {before before'}, alike before before' → back before' before)
    (before before' : World) (same : alike before before') :
    Option.Rel (fun result result' => result.1 = result'.1 ∧ alike result.2 result'.2) (first before) (second before') := by
  cases ran : first before with
  | some result =>
    obtain ⟨after', ran', same⟩ := forward before before' same result.1 result.2 ran
    rw [ran']
    exact .some ⟨rfl, same⟩
  | none =>
    cases ran' : second before' with
    | none => exact .none
    | some result =>
      obtain ⟨after, ended, -⟩ := backward before' before (turn same) result.1 result.2 ran'
      cases ran.symm.trans ended

end Follows

/-- Worlds alike show the library the same, whether custom types are switched on or not and however far promises have
come, and stay alike under the same change outside promises. -/
structure AlikeOutside (alike : World → World → Prop) : Prop where
  opened : ∀ {before before'}, alike before before' → before.opened = before'.opened
  refinements : ∀ {before before'}, alike before before' → ∀ registry root,
    (before.registries registry).refinements root = (before'.registries registry).refinements root
  outcome? : ∀ promise {before before'}, alike before before' → before.outcome? promise = before'.outcome? promise
  memory : ∀ {before before'}, alike before before' → before.memory = before'.memory
  identities : ∀ {before before'}, alike before before' → before.identities = before'.identities
  note : ∀ text {before before'}, alike before before' →
    alike (before.record (.note text)) (before'.record (.note text))
  guarding : ∀ kind name signature {before before'}, alike before before' →
    alike (before.record (.guarding kind name signature)) (before'.record (.guarding kind name signature))
  openRegistry : ∀ settings {before before'}, alike before before' →
    alike (before.openRegistry settings) (before'.openRegistry settings)
  setEnabled : ∀ registry enabled {before before'}, alike before before' →
    alike (before.setEnabled registry enabled) (before'.setEnabled registry enabled)
  register : ∀ registry root tag check {before before'}, alike before before' →
    alike (before.register registry root tag check) (before'.register registry root tag check)
  identify : ∀ {before before'}, alike before before' →
    alike { before with identities := before.identities + 1 } { before' with identities := before'.identities + 1 }
  remember : ∀ key value {before before'}, alike before before' →
    alike (before.remember key value) (before'.remember key value)

/-- Worlds alike show the library the same, whether custom types are switched on or not, and stay
alike under the same change. Spared promises are not advanced. -/
structure Alike (spared : PromiseId → Bool) (alike : World → World → Prop) : Prop extends AlikeOutside alike where
  nextPromise : ∀ {before before'}, alike before before' → before.nextPromise = before'.nextPromise
  cell? : ∀ promise, spared promise = false → ∀ {before before'}, alike before before' →
    before.cell? promise = before'.cell? promise
  defer : ∀ routine {before before'}, alike before before' →
    alike (before.addCell (.unstarted routine)) (before'.addCell (.unstarted routine))
  setCell : ∀ promise, spared promise = false → ∀ cell {before before'}, alike before before' →
    alike (before.setCell promise cell) (before'.setCell promise cell)

abbrev DispatchFollows (alike : World → World → Prop) (first second : Dispatch) : Prop :=
  DispatchRelated (Follows alike) first second

variable {spared : PromiseId → Bool} {first second : Dispatch}

section Outside
variable (like : AlikeOutside alike)
include like

private theorem freshIdentity_follows : Follows alike Action.freshIdentity Action.freshIdentity := by
  apply Follows.bind
  · exact Follows.read fun _ _ same => by rw [like.identities same]
  · intro identity
    apply Follows.bind
    · exact Follows.change fun _ _ same => like.identify same
    · exact fun _ => .pure identity

theorem follows_sequential : Sequential (Follows alike) where
  pure := .pure
  bind := .bind
  refinements registry root := Follows.read fun _ _ same => like.refinements same registry root
  guarding kind name signature := Follows.change fun _ _ same => like.guarding kind name signature same

theorem own_follows (defer : ∀ outcome, Follows alike (Action.defer (.finish outcome)) (Action.defer (.finish outcome)))
    (request : Request)
    (shown : ∀ registry, request = .isEnabled registry → ∀ before before', alike before before' →
      (before.registries registry).enabled = (before'.registries registry).enabled) {action}
    (own : ownAnswer? request = some action) : Follows alike action action := by
  cases request with
  | note text =>
    cases own
    exact Follows.change fun _ _ same => like.note text same
  | openRegistry settings =>
    cases own
    apply Follows.bind
    · exact Follows.read fun _ _ same => by rw [like.opened same]
    · intro id
      exact Follows.bind (Follows.change fun _ _ same => like.openRegistry settings same) fun _ => .pure id
  | setEnabled registry enabled =>
    cases own
    exact Follows.change fun _ _ same => like.setEnabled registry enabled same
  | isEnabled registry =>
    cases own
    exact Follows.read (shown registry rfl)
  | register registry root tag check =>
    cases own
    exact Follows.change fun _ _ same => like.register registry root tag check same
  | refinements registry root =>
    cases own
    exact Follows.read fun _ _ same => like.refinements same registry root
  | toFunction guard =>
    cases own
    exact Follows.bind (freshIdentity_follows like) fun identity => .pure _
  | defer outcome =>
    cases own
    exact defer outcome
  | peek promise =>
    cases own
    exact Follows.read fun _ _ same => like.outcome? promise same
  | symbol description =>
    cases own
    exact Follows.bind (freshIdentity_follows like) fun identity => .pure _
  | «recall» key =>
    cases own
    exact Follows.read fun _ _ same => by rw [like.memory same]
  | remember key value =>
    cases own
    exact Follows.change fun _ _ same => like.remember key value same
  | consult | classify | checkArguments | guard | call | launch | invoke | poll | startPass | nextItem => cases own

end Outside

theorem defer_follows (like : Alike spared alike) (routine : Routine) :
    Follows alike (Action.defer routine) (Action.defer routine) := by
  apply Follows.bind
  · exact Follows.read fun _ _ same => like.nextPromise same
  · intro id
    apply Follows.bind
    · exact Follows.change fun _ _ same => like.defer routine same
    · exact fun _ => .pure id

theorem follows_compatible (like : Alike spared alike) : Compatible (Follows alike) :=
  { follows_sequential like.toAlikeOutside with defer := defer_follows like }

/-- The ways into code of a host that runs within given ways, and in which promises are polled as given. -/
def entering (host : Host) (within : Dispatch) (poll : PromiseId → Action Poll) : Dispatch where
  check check value := (host.check check value).run within
  body function args := (host.body function args).run within
  routine := host.routine
  startPass producer := (host.startPass producer).run within
  nextItem producer place := (host.nextItem producer place).run within
  poll := poll

section Requests
variable (like : Alike spared alike) (follows : DispatchFollows alike first second)
include like follows

theorem classify_follows (registry : RegistryId) (value : Value) :
    Follows alike (classify first registry value) (classify second registry value) :=
  have compatible := follows_compatible like
  classify_related compatible.toSequential (follows.code compatible) registry value

theorem checkArguments_follows (registry : RegistryId) (signature : Signature) (args : List Value) :
    Follows alike (checkArguments first registry signature args) (checkArguments second registry signature args) :=
  have compatible := follows_compatible like
  checkArguments_related compatible.toSequential (follows.code compatible) registry signature args

theorem answer_follows (request : Request)
    (shown : ∀ registry, request = .isEnabled registry → ∀ before before', alike before before' →
      (before.registries registry).enabled = (before'.registries registry).enabled) :
    Follows alike (first.answer request) (second.answer request) := by
  have compatible := follows_compatible like
  apply answer_related compatible.toSequential (follows.ways compatible)
  intro action own
  exact own_follows like.toAlikeOutside (fun outcome => defer_follows like _) request shown own

variable (shown : ∀ registry before before', alike before before' →
  (before.registries registry).enabled = (before'.registries registry).enabled)
include shown

theorem run_follows (program : Program α) : Follows alike (program.run first) (program.run second) := by
  have compatible := follows_compatible like
  apply run_related compatible.toSequential (follows.ways compatible)
  intro request action own
  exact own_follows like.toAlikeOutside (fun outcome => defer_follows like _) request (fun registry _ => shown registry) own

theorem advance_follows (routine : Routine) : Follows alike (routine.advance first) (routine.advance second) := by
  induction routine with
  | finish outcome => exact .pure _
  | pause next => exact .pure _
  | await other next ih =>
    rw [Routine.advance, Routine.advance]
    apply Follows.bind (follows.poll other)
    intro poll
    cases poll with
    | pending => exact .pure _
    | settled outcome => exact ih outcome
  | ask request next ih =>
    exact Follows.bind (answer_follows like follows request fun registry _ => shown registry) ih

private theorem resume_follows {promise : PromiseId} (permitted : spared promise = false) (routine : Routine) :
    Follows alike (first.resume promise routine) (second.resume promise routine) := by
  apply Follows.bind (Follows.change fun _ _ same => like.setCell promise permitted .running same)
  intro _
  apply Follows.bind (advance_follows like follows shown routine)
  intro progress
  cases progress with
  | finished outcome =>
    exact Follows.bind (Follows.change fun _ _ same => like.setCell promise permitted _ same) fun _ => .pure _
  | paused rest =>
    exact Follows.bind (Follows.change fun _ _ same => like.setCell promise permitted _ same) fun _ => .pure _

theorem pollCell_follows {promise : PromiseId} (permitted : spared promise = false) :
    Follows alike (first.pollCell promise) (second.pollCell promise) := by
  apply Follows.bind
  · exact Follows.read fun _ _ same => like.cell? promise permitted same
  · intro cell
    cases cell with
    | none => exact .pure _
    | some cell =>
      cases cell with
      | unstarted routine => exact resume_follows like follows shown permitted routine
      | suspended routine => exact resume_follows like follows shown permitted routine
      | running => exact .pure _
      | settled outcome => exact .pure _

theorem entering_follows (host : Host) {poll poll' : PromiseId → Action Poll}
    (polls : ∀ promise, Follows alike (poll promise) (poll' promise)) :
    DispatchFollows alike (entering host first poll) (entering host second poll') where
  check check value := run_follows like follows shown (host.check check value)
  body function args := run_follows like follows shown (host.body function args)
  routine := rfl
  startPass producer := run_follows like follows shown (host.startPass producer)
  nextItem producer place := run_follows like follows shown (host.nextItem producer place)
  poll := polls

end Requests

theorem pollCell_run (dispatch : Dispatch) (promise : PromiseId) (world : World) :
    dispatch.pollCell promise world =
      match world.cell? promise with
      | some (.settled outcome) => some (.settled outcome, world)
      | some (.unstarted routine) | some (.suspended routine) => dispatch.resume promise routine world
      | some .running | none => some (.pending, world) := by
  rw [Dispatch.pollCell, bind_run, read_run, Option.bind_some]
  cases world.cell? promise with
  | none => rfl
  | some cell => cases cell <;> rfl

theorem dispatch_routine (host : Host) (depth : Nat) : (host.dispatch depth).routine = host.routine := by
  cases depth <;> rfl

private theorem dispatch_zero_follows (host : Host) : DispatchFollows alike (host.dispatch 0) (host.dispatch 0) where
  check _ _ := .exhausted _
  body _ _ := .exhausted _
  routine := rfl
  startPass _ := .exhausted _
  nextItem _ _ := .exhausted _
  poll _ := .exhausted _

/-- The ways into code of a host in which some promises are spared: polling one of them has no
result, so that a run with a result has polled none. -/
def sparing (host : Host) (spared : PromiseId → Bool) : Nat → Dispatch
  | 0 => host.dispatch 0
  | depth + 1 => entering host (sparing host spared depth) fun promise =>
    if spared promise then .exhausted else (sparing host spared depth).pollCell promise

theorem sparing_none (host : Host) (depth : Nat) : sparing host (fun _ => false) depth = host.dispatch depth := by
  induction depth with
  | zero => rfl
  | succ depth ih =>
    rw [sparing, ih]
    rfl

section Hosts
variable (host : Host) (like : Alike spared alike)
  (shown : ∀ registry before before', alike before before' →
    (before.registries registry).enabled = (before'.registries registry).enabled)
include like shown

theorem sparing_follows (depth : Nat) : DispatchFollows alike (sparing host spared depth) (host.dispatch depth) := by
  induction depth with
  | zero => exact dispatch_zero_follows host
  | succ depth ih =>
    apply entering_follows like ih shown host
    intro promise
    split
    · exact .exhausted _
    · next permitted => exact pollCell_follows like ih shown (Bool.eq_false_iff.mpr permitted)

/-- If even polls of the promises that it should spare keep worlds alike, a host need not spare them. -/
theorem dispatch_follows (spare : ∀ (dispatch : Dispatch) promise, spared promise = true →
    Follows alike (dispatch.pollCell promise) (dispatch.pollCell promise)) (depth : Nat) :
    DispatchFollows alike (host.dispatch depth) (host.dispatch depth) := by
  induction depth with
  | zero => exact dispatch_zero_follows host
  | succ depth ih =>
    apply entering_follows like ih shown host
    intro promise
    cases seen : spared promise with
    | true => exact spare (host.dispatch depth) promise seen
    | false => exact pollCell_follows like ih shown seen

end Hosts

end TypeGuard.Proofs
