import TypeGuard.Execution

/-! Relations between actions. The library enters code of the host only through a dispatch, and does all else by
itself. So a relation that sequencing keeps and that holds of what the library does by itself holds of the
answers to all requests, and of all programs, as soon as it holds of the ways into the host. -/

namespace TypeGuard.Proofs

/-- The answer to a request for which no code of the host runs. -/
def ownAnswer? : (request : Request) → Option (Action request.Answer)
  | .note text => some (Action.change (·.record (.note text)))
  | .openRegistry settings => some do
    let id ← Action.read fun world => (⟨world.opened⟩ : RegistryId)
    Action.change (·.openRegistry settings)
    return id
  | .setEnabled registry enabled => some (Action.change (·.setEnabled registry enabled))
  | .isEnabled registry => some (Action.read fun world => (world.registries registry).enabled)
  | .register registry root tag check => some (Action.change (·.register registry root tag check))
  | .refinements registry root => some (Action.read fun world => (world.registries registry).refinements root)
  | .toFunction guard => some guard.toFunction
  | .defer outcome => some (Action.defer (.finish outcome))
  | .peek promise => some (Action.read (·.outcome? promise))
  | .symbol description => some do return .symbol (← Action.freshIdentity) description
  | .recall key => some (Action.read (·.memory key))
  | .remember key value => some (Action.change (·.remember key value))
  | .consult _ _ | .classify _ _ | .checkArguments _ _ _ | .guard _ _ _ | .call _ _ | .launch _ _ | .invoke _ _
  | .poll _ | .startPass _ | .nextItem _ _ => none

/-- Sequencing keeps the relation, and it holds of the single actions that classifications and checks are made of. -/
structure Sequential (related : ∀ {α : Type}, Action α → Action α → Prop) : Prop where
  pure : ∀ {α : Type} (value : α), related (Pure.pure value) (Pure.pure value)
  bind : ∀ {α β : Type} {first second : Action α} {next next' : α → Action β}, related first second →
    (∀ value, related (next value) (next' value)) → related (first >>= next) (second >>= next')
  refinements : ∀ registry root, related (Action.read fun world => (world.registries registry).refinements root)
    (Action.read fun world => (world.registries registry).refinements root)
  guarding : ∀ kind name signature, related (Action.change (·.record (.guarding kind name signature)))
    (Action.change (·.record (.guarding kind name signature)))

structure Compatible (related : ∀ {α : Type}, Action α → Action α → Prop) : Prop extends Sequential related where
  defer : ∀ routine, related (Action.defer routine) (Action.defer routine)

structure CallsRelated (related : ∀ {α : Type}, Action α → Action α → Prop) (first second : Dispatch) : Prop where
  check : ∀ check value, related (first.check check value) (second.check check value)
  body : ∀ function args, related (first.body function args) (second.body function args)
  routine : first.routine = second.routine

structure DispatchRelated (related : ∀ {α : Type}, Action α → Action α → Prop) (first second : Dispatch) : Prop
    extends CallsRelated related first second where
  startPass : ∀ producer, related (first.startPass producer) (second.startPass producer)
  nextItem : ∀ producer place, related (first.nextItem producer place) (second.nextItem producer place)
  poll : ∀ promise, related (first.poll promise) (second.poll promise)

/-- The checks and the functions of the hosts are related, and so are the promises that their asynchronous functions
give. -/
structure CodeRelated (related : ∀ {α : Type}, Action α → Action α → Prop) (first second : Dispatch) : Prop where
  check : ∀ check value, related (first.check check value) (second.check check value)
  body : ∀ function args, related (first.body function args) (second.body function args)
  deferred : ∀ callable args, related (Action.defer (beginRoutine first callable args))
    (Action.defer (beginRoutine second callable args))

/-- Every way into code of the one host is related to the one of the other, but for routines that are not advanced
yet. -/
structure WaysRelated (related : ∀ {α : Type}, Action α → Action α → Prop) (first second : Dispatch) : Prop
    extends CodeRelated related first second where
  startPass : ∀ producer, related (first.startPass producer) (second.startPass producer)
  nextItem : ∀ producer place, related (first.nextItem producer place) (second.nextItem producer place)
  poll : ∀ promise, related (first.poll promise) (second.poll promise)

theorem beginRoutine_congr {first second : Dispatch} (same : first.routine = second.routine) (callable : Callable)
    (args : List Value) : beginRoutine first callable args = beginRoutine second callable args := by
  induction callable with
  | host kind name function => rw [beginRoutine, beginRoutine, same]
  | guarded identity signature registry target ih => rw [beginRoutine, beginRoutine, ih]

variable {α : Type} {related : ∀ {α : Type}, Action α → Action α → Prop} {first second : Dispatch}

theorem CallsRelated.code (calls : CallsRelated related first second) (compatible : Compatible related) :
    CodeRelated related first second where
  check := calls.check
  body := calls.body
  deferred callable args := by
    rw [beginRoutine_congr calls.routine]
    exact compatible.defer _

theorem DispatchRelated.ways (dispatch : DispatchRelated related first second) (compatible : Compatible related) :
    WaysRelated related first second :=
  { dispatch.code compatible with
    startPass := dispatch.startPass
    nextItem := dispatch.nextItem
    poll := dispatch.poll }

section Library
variable (sequential : Sequential related) (code : CodeRelated related first second)
include sequential code

private theorem firstAnswering_related (value : Value) (entries : Refinements) :
    related (firstAnswering first value entries) (firstAnswering second value entries) := by
  induction entries with
  | nil => exact sequential.pure none
  | cons entry rest ih =>
    obtain ⟨tag, check⟩ := entry
    apply sequential.bind (code.check check value)
    intro answer
    split
    · exact sequential.pure (some tag)
    · exact ih

theorem classify_related (registry : RegistryId) (value : Value) :
    related (classify first registry value) (classify second registry value) := by
  apply sequential.bind (sequential.refinements registry value.builtinType)
  intro snapshot
  apply sequential.bind (firstAnswering_related sequential code value snapshot)
  intro found
  cases found with
  | none => exact sequential.pure _
  | some tag => exact sequential.pure _

private theorem checkArgument_related (registry : RegistryId) (spec : Spec) (position : Nat) (value : Value) :
    related (checkArgument first registry spec position value) (checkArgument second registry spec position value) := by
  apply sequential.bind (classify_related sequential code registry value)
  intro actual
  split
  · exact sequential.pure none
  · exact sequential.pure _

private theorem checkEach_related (registry : RegistryId) (position : Nat) (specs : List Spec) (args : List Value) :
    related (checkEach first registry position specs args) (checkEach second registry position specs args) := by
  induction specs generalizing position args with
  | nil => exact sequential.pure none
  | cons spec specs ih =>
    cases args with
    | nil => exact sequential.pure none
    | cons value values =>
      apply sequential.bind (checkArgument_related sequential code registry spec position value)
      intro refused
      cases refused with
      | none => exact ih (position + 1) values
      | some refusal => exact sequential.pure _

private theorem checkRest_related (registry : RegistryId) (spec : Spec) (position : Nat) (args : List Value) :
    related (checkRest first registry spec position args) (checkRest second registry spec position args) := by
  induction args generalizing position with
  | nil => exact sequential.pure none
  | cons value values ih =>
    apply sequential.bind (checkArgument_related sequential code registry spec position value)
    intro refused
    cases refused with
    | none => exact ih (position + 1)
    | some refusal => exact sequential.pure _

theorem checkArguments_related (registry : RegistryId) (signature : Signature) (args : List Value) :
    related (checkArguments first registry signature args) (checkArguments second registry signature args) := by
  cases signature with
  | positional specs =>
    simp only [checkArguments, checkPositions]
    split
    · exact sequential.pure _
    · exact checkEach_related sequential code registry 0 specs args
  | uniform spec => exact checkRest_related sequential code registry spec 0 args

private theorem callWith_related (registry : RegistryId) (signature : Signature)
    {target target' : List Value → Action Outcome} (called : ∀ args, related (target args) (target' args))
    (args : List Value) :
    related (callWith first registry signature target args) (callWith second registry signature target' args) := by
  apply sequential.bind (checkArguments_related sequential code registry signature args)
  intro refused
  cases refused with
  | none => exact sequential.bind (called args) fun outcome => sequential.pure _
  | some refusal => exact sequential.pure _

private theorem runSync_related (callable : Callable) (args : List Value) :
    related (runSync first callable args) (runSync second callable args) := by
  induction callable generalizing args with
  | host kind name function => exact code.body function args
  | guarded identity signature registry target ih =>
    exact sequential.bind (callWith_related sequential code registry signature ih args) fun result => sequential.pure _

theorem invoke_related (callable : Callable) (args : List Value) :
    related (invoke first callable args) (invoke second callable args) := by
  unfold invoke
  cases callable.kind with
  | sync => exact runSync_related sequential code callable args
  | async => exact sequential.bind (code.deferred callable args) fun promise => sequential.pure _

theorem build_related (registry : RegistryId) (signature : Signature) (target : Value) :
    related (Guard.build first registry signature target) (Guard.build second registry signature target) := by
  unfold Guard.build
  cases target.callable? with
  | none => exact sequential.bind (classify_related sequential code registry target) fun actual => sequential.pure _
  | some target => exact sequential.bind (sequential.guarding _ _ _) fun _ => sequential.pure _

theorem call_related (guard : Guard) (args : List Value) :
    related (guard.call first args) (guard.call second args) :=
  callWith_related sequential code guard.registry guard.signature (invoke_related sequential code guard.target) args

theorem launch_related (guard : Guard) (args : List Value) :
    related (guard.launch first args) (guard.launch second args) := by
  apply sequential.bind (checkArguments_related sequential code guard.registry guard.signature args)
  intro refused
  cases refused with
  | some refusal => exact sequential.pure _
  | none =>
    cases guard.target.kind with
    | sync => exact sequential.bind (runSync_related sequential code guard.target args) fun outcome => sequential.pure _
    | async => exact sequential.bind (code.deferred guard.target args) fun promise => sequential.pure _

end Library

section Requests
variable (sequential : Sequential related) (ways : WaysRelated related first second)
include sequential ways

theorem answer_related (request : Request)
    (own : ∀ action, ownAnswer? request = some action → related action action) :
    related (first.answer request) (second.answer request) := by
  cases request with
  | consult check value => exact ways.check check value
  | classify registry value => exact classify_related sequential ways.toCodeRelated registry value
  | checkArguments registry signature args => exact checkArguments_related sequential ways.toCodeRelated registry signature args
  | guard registry signature target => exact build_related sequential ways.toCodeRelated registry signature target
  | call guard args => exact call_related sequential ways.toCodeRelated guard args
  | launch guard args => exact launch_related sequential ways.toCodeRelated guard args
  | invoke callable args => exact invoke_related sequential ways.toCodeRelated callable args
  | poll promise => exact ways.poll promise
  | startPass producer => exact ways.startPass producer
  | nextItem producer place => exact ways.nextItem producer place
  | note | openRegistry | setEnabled | isEnabled | register | refinements | toFunction | defer | peek | symbol | «recall»
  | remember => exact own _ rfl

variable (own : ∀ request action, ownAnswer? request = some action → related action action)
include own

theorem run_related (program : Program α) : related (program.run first) (program.run second) := by
  induction program with
  | done result => exact sequential.pure result
  | ask request next ih => exact sequential.bind (answer_related sequential ways request (own request)) ih

end Requests

end TypeGuard.Proofs
