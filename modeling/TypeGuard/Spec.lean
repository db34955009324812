import TypeGuard.Tag

/-! What an argument is expected to be: one tag, or any of several. A specification of one tag and
a choice among that one tag differ, although they allow the same values. -/

namespace TypeGuard

/-- Whether a value of this tag is one of the allowed ones. An array also passes for an iterable,
but not the other way round. -/
def Tag.satisfies (actual : Tag) (allowed : List Tag) : Bool :=
  (actual.name == BuiltinType.array.name &&
      allowed.any fun tag => tag.name == BuiltinType.iterable.name) ||
    allowed.any actual.same

inductive Spec
  | single (tag : Tag)
  | choice (tags : List Tag)
  deriving DecidableEq, Inhabited

namespace Spec

def tags : Spec → List Tag
  | .single tag => [tag]
  | .choice tags => tags

def allows (spec : Spec) (actual : Tag) : Bool :=
  actual.satisfies spec.tags

def text (spec : Spec) : String :=
  ",".intercalate (spec.tags.map Tag.name)

def debug : Spec → String
  | .single tag => "Single(" ++ tag.debug ++ ")"
  | .choice tags => "AnyOf([" ++ ", ".intercalate (tags.map Tag.debug) ++ "])"

/-- Whether two lists of tags have the same names in the same order. -/
def sameTags (a b : List Tag) : Bool :=
  a.map Tag.name == b.map Tag.name

/-- Equal shape, and the same tags in the same order. -/
def same : Spec → Spec → Bool
  | .single a, .single b => a.same b
  | .choice a, .choice b => sameTags a b
  | _, _ => false

end Spec

end TypeGuard
