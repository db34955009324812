/-! Handles of things that are not plain data. What a handle stands for is kept elsewhere: code in
the host, registries and promises in the world. Two handles are equal only if they stand for the
very same thing. -/

namespace TypeGuard

structure CheckId where
  index : Nat
  deriving DecidableEq, Inhabited

structure FunctionId where
  index : Nat
  deriving DecidableEq, Inhabited

structure GeneratorId where
  index : Nat
  deriving DecidableEq, Inhabited

structure RegistryId where
  index : Nat
  deriving DecidableEq, Inhabited

structure PromiseId where
  index : Nat
  deriving DecidableEq, Inhabited

/-- What tells two symbols, or two guarded callables, of one description apart. -/
structure Identity where
  index : Nat
  deriving DecidableEq, Inhabited

end TypeGuard
