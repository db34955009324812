import TypeGuard.Script.Body

/-! A library of checks, functions and sequences given as data, each known by the number of those
before it. It is a host: the code behind its handles is what the entries describe. -/

namespace TypeGuard.Script

structure Library where
  rules : Array Rule := #[]
  definitions : Array Definition := #[]
  sources : Array Source := #[]

namespace Library

def addRule (library : Library) (rule : Rule) : CheckId × Library :=
  (⟨library.rules.size⟩, { library with rules := library.rules.push rule })

def addDefinition (library : Library) (definition : Definition) : FunctionId × Library :=
  (⟨library.definitions.size⟩,
    { library with definitions := library.definitions.push definition })

def addSource (library : Library) (source : Source) : GeneratorId × Library :=
  (⟨library.sources.size⟩, { library with sources := library.sources.push source })

/-- A handle without an entry stands for code that does nothing. -/
def host (library : Library) : Host where
  check id value :=
    match library.rules[id.index]? with
    | some rule => rule.check value
    | none => pure none
  body id args :=
    match library.definitions[id.index]? with
    | some definition => definition.run args
    | none => pure (.ok .undefined)
  routine id args :=
    match library.definitions[id.index]? with
    | some definition => definition.routine args
    | none => .finish (.ok .undefined)
  startPass id :=
    match library.sources[id.index]? with
    | some source => source.startPass
    | none => pure ()
  nextItem id place :=
    match library.sources[id.index]? with
    | some source => source.nextItem place
    | none => pure none

end Library

end TypeGuard.Script
