import TypeGuard.World

/-! Naming what a value is. The checks placed under its built-in type are taken down first; the
first one that answers the very tag it stands for decides. What checks register meanwhile counts
from the next classification on. -/

namespace TypeGuard

variable (dispatch : Dispatch)

/-- The first tag whose check answers that tag. No later check is consulted. -/
def firstAnswering (value : Value) : Refinements → Action (Option CustomType)
  | [] => pure none
  | (tag, check) :: rest => do
    if (← dispatch.check check value) = some tag then return some tag
    else firstAnswering value rest

def classify (registry : RegistryId) (value : Value) : Action Tag := do
  let snapshot ← Action.read fun world =>
    (world.registries registry).refinements value.builtinType
  match ← firstAnswering dispatch value snapshot with
  | some tag => return .custom tag
  | none => return .builtin value.builtinType

end TypeGuard
