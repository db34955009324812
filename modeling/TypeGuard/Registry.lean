import TypeGuard.Assoc
import TypeGuard.Decimal.Basic
import TypeGuard.Handle
import TypeGuard.Tag

/-! Registries of custom types. A custom type is placed under each built-in type that it refines,
in the order of first placement. Its check is one for the whole registry, whatever the places, and
the latest one counts. Nothing is ever removed. -/

namespace TypeGuard

/-- Custom types with their checks, in the order in which they are consulted. -/
abbrev Refinements : Type := List (CustomType × CheckId)

structure Registry.Settings where
  /-- Whether custom types are switched on before any is registered. -/
  enabled : Bool := false
  deriving DecidableEq, Inhabited

@[ext]
structure Registry where
  checks : Refinements := []
  placements : List (BuiltinType × CustomType) := []
  enabled : Bool := false
  deriving DecidableEq, Inhabited

namespace Registry

def ofSettings (settings : Registry.Settings) : Registry :=
  { enabled := settings.enabled }

def isPlaced (registry : Registry) (root : BuiltinType) (tag : CustomType) : Bool :=
  decide ((root, tag) ∈ registry.placements)

/-- Registers a check. A tag that is placed already keeps its place. Custom types are switched
on. -/
def place (registry : Registry) (root : BuiltinType) (tag : CustomType) (check : CheckId) :
    Registry where
  checks := Assoc.put tag check registry.checks
  placements :=
    if registry.isPlaced root tag then registry.placements
    else registry.placements ++ [(root, tag)]
  enabled := true

def tagsUnder (registry : Registry) (root : BuiltinType) : List CustomType :=
  registry.placements.filterMap fun (type, tag) => if type = root then some tag else none

def refinements (registry : Registry) (root : BuiltinType) : Refinements :=
  (registry.tagsUnder root).filterMap fun tag =>
    (Assoc.get? tag registry.checks).map fun check => (tag, check)

def isRefined (registry : Registry) (root : BuiltinType) : Bool :=
  !(registry.tagsUnder root).isEmpty

def rootCount (registry : Registry) : Nat :=
  BuiltinType.all.countP registry.isRefined

def debug (registry : Registry) : String :=
  "TypeRegistry \x7b custom_type_count: " ++
    String.ofList (Decimal.digits registry.checks.length) ++ ", root_count: " ++
    String.ofList (Decimal.digits registry.rootCount) ++ ", enabled: " ++
    (if registry.enabled then "true" else "false") ++ " \x7d"

theorem isPlaced_iff {registry : Registry} {root : BuiltinType} {tag : CustomType} :
    registry.isPlaced root tag = true ↔ (root, tag) ∈ registry.placements :=
  decide_eq_true_iff

theorem mem_tagsUnder {registry : Registry} {root : BuiltinType} {tag : CustomType} :
    tag ∈ registry.tagsUnder root ↔ registry.isPlaced root tag = true := by
  rw [tagsUnder, List.mem_filterMap, isPlaced_iff]
  constructor
  · rintro ⟨⟨type, other⟩, placed, found⟩
    obtain ⟨rfl, rfl⟩ : type = root ∧ other = tag := by simpa using found
    exact placed
  · exact fun placed => ⟨(root, tag), placed, by simp⟩

theorem isPlaced_place {registry : Registry} {root other : BuiltinType} {tag label : CustomType} (check : CheckId) :
    (registry.place root tag check).isPlaced other label = true ↔
      registry.isPlaced other label = true ∨ (other, label) = (root, tag) := by
  simp only [isPlaced_iff, place]
  split
  next placed =>
    refine ⟨.inl, ?_⟩
    rintro (held | same)
    · exact held
    · rwa [same]
  next => rw [List.mem_append, List.mem_singleton]

/-- A tag that is new under a built-in type comes last there; all other places stay. -/
theorem tagsUnder_place (registry : Registry) (root other : BuiltinType) (tag : CustomType) (check : CheckId) :
    (registry.place root tag check).tagsUnder other =
      if other = root ∧ registry.isPlaced root tag = false then registry.tagsUnder other ++ [tag]
      else registry.tagsUnder other := by
  by_cases placed : registry.isPlaced root tag = true
  · simp [place, tagsUnder, placed]
  · by_cases same : other = root
    · subst same
      simp [place, tagsUnder, placed]
    · simp [place, tagsUnder, placed, same, Ne.symm same]

theorem mem_refinements {registry : Registry} {root : BuiltinType} {tag : CustomType} {check : CheckId} :
    (tag, check) ∈ registry.refinements root ↔
      tag ∈ registry.tagsUnder root ∧ Assoc.get? tag registry.checks = some check := by
  simp [refinements]

/-- Tags without a check are left out. -/
theorem keys_refinements (registry : Registry) (root : BuiltinType) :
    Assoc.keys (registry.refinements root) =
      (registry.tagsUnder root).filter fun tag => (Assoc.get? tag registry.checks).isSome := by
  rw [refinements, Assoc.keys]
  induction registry.tagsUnder root with
  | nil => rfl
  | cons tag tags ih => cases found : Assoc.get? tag registry.checks <;> simp [found, ih]

end Registry

end TypeGuard
