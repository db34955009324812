import TypeGuard.Proofs.AllowedNames

/-! Broader specifications refuse no more and no earlier. The check by them is the check by the others, which goes on
behind a refusal of those where the broader one has none, so the two share all that happens up to that point. -/

namespace TypeGuard.Proofs

variable {dispatch : Dispatch} {registry : RegistryId} {spec wider : Spec} {signature broader : Signature} {args : List Value}
  {before : World}

def Broadens (spec wider : Spec) : Prop :=
  ∀ actual, spec.allows actual = true → wider.allows actual = true

theorem broadens_of_names (names : ∀ tag ∈ spec.tags, ∃ other ∈ wider.tags, other.name = tag.name) : Broadens spec wider := by
  have listed : ∀ name, (∃ tag ∈ spec.tags, tag.name = name) → ∃ other ∈ wider.tags, other.name = name := by
    rintro name ⟨tag, member, rfl⟩
    exact names tag member
  intro actual allowed
  rw [Spec.allows, satisfies_iff] at allowed ⊢
  exact allowed.imp (listed _) (And.imp_right (listed _))

/-- What checking by the given pairs makes of the answer of a narrower check. A value that was refused there may pass
here, and then the pairs behind it are checked. -/
def resumed (dispatch : Dispatch) (registry : RegistryId) (pairs : List (Spec × Value)) :
    Option Refusal → Action (Option Refusal)
  | some (.mismatch position expected actual) =>
    match pairs[position]? with
    | some (spec, _) =>
      if spec.allows actual then checkPairs dispatch registry (position + 1) (pairs.drop (position + 1))
      else return some (.mismatch position spec actual)
    | none => return some (.mismatch position expected actual)
  | refused => return refused

private theorem checkPairs_resumed {pairs narrower : List (Spec × Value)} (start : Nat)
    (each : List.Forall₂ (fun pair pair' => Broadens pair.1 pair'.1 ∧ pair.2 = pair'.2) narrower (pairs.drop start)) :
    checkPairs dispatch registry start (pairs.drop start) =
      checkPairs dispatch registry start narrower >>= resumed dispatch registry pairs := by
  induction narrower generalizing start with
  | nil =>
    rw [List.forall₂_nil_left_iff.mp each]
    rfl
  | cons pair narrower ih =>
    obtain ⟨spec, value⟩ := pair
    obtain ⟨⟨wider, value'⟩, rest, ⟨broadens, same⟩, tail, cut⟩ := List.forall₂_cons_left_iff.mp each
    obtain rfl : value = value' := same
    have here : pairs[start]? = some (wider, value) := by
      rw [← List.head?_drop, cut, List.head?_cons]
    have behind : rest = pairs.drop (start + 1) := by
      rw [← List.tail_drop, cut, List.tail_cons]
    subst behind
    rw [cut, checkPairs_cons, checkPairs_cons, ih (start + 1) tail, bind_assoc, checkArgument, checkArgument, bind_assoc, bind_assoc]
    congr 1
    funext actual
    cases allowed : spec.allows actual with
    | true => simp [broadens actual allowed]
    | false =>
      cases passes : wider.allows actual with
      | true => simp [passes, resumed, here, ih (start + 1) tail]
      | false => simp [passes, resumed, here]

theorem checkArguments_resumed (broadens : Pointwise Broadens signature broader) (args : List Value) :
    checkArguments dispatch registry broader args =
      checkArguments dispatch registry signature args >>= resumed dispatch registry (paired broader args) := by
  rw [checkArguments_eq, checkArguments_eq, broadens.surplus?_eq]
  split
  · rfl
  · exact checkPairs_resumed 0 (broadens.paired args)

structure CheckedBroader (dispatch : Dispatch) (registry : RegistryId) (signature broader : Signature) (args : List Value)
    (before : World) : Prop where
  accepted : ∀ after, checkArguments dispatch registry signature args before = some (none, after) →
    checkArguments dispatch registry broader args before = some (none, after)
  /-- A mismatch goes away, stays where it is or comes later, unless a check behind it nests its calls too deep. -/
  mismatch : ∀ position expected actual after,
    checkArguments dispatch registry signature args before = some (some (.mismatch position expected actual), after) →
      (∃ last, checkArguments dispatch registry broader args before = some (none, last)) ∨
      (∃ later expected' actual' last, position ≤ later ∧
        checkArguments dispatch registry broader args before = some (some (.mismatch later expected' actual'), last)) ∨
      checkArguments dispatch registry broader args before = none ∧
        PairsChecked dispatch registry (position + 1) ((paired broader args).drop (position + 1)) after none
  outOfBounds : ∀ position after,
    checkArguments dispatch registry signature args before = some (some (.outOfBounds position), after) ↔
      checkArguments dispatch registry broader args before = some (some (.outOfBounds position), after)
  nested : checkArguments dispatch registry signature args before = none →
    checkArguments dispatch registry broader args before = none

private theorem resumed_mismatch {pairs : List (Spec × Value)} {position : Nat} {expected : Spec} {actual : Tag} {middle : World}
    {result} (ran : resumed dispatch registry pairs (some (.mismatch position expected actual)) middle = result) :
    (∃ last, result = some (none, last)) ∨
    (∃ later expected' actual' last, position ≤ later ∧ result = some (some (.mismatch later expected' actual'), last)) ∨
    result = none ∧ PairsChecked dispatch registry (position + 1) (pairs.drop (position + 1)) middle none := by
  cases found : pairs[position]? with
  | none =>
    simp only [resumed, found] at ran
    exact .inr (.inl ⟨position, expected, actual, middle, Nat.le_refl _, ran.symm⟩)
  | some pair =>
    obtain ⟨spec, value⟩ := pair
    simp only [resumed, found] at ran
    split at ran
    · cases checkPairs_eq_iff.mp ran with
      | accepted => exact .inl ⟨_, rfl⟩
      | @mismatch index => exact .inr (.inl ⟨position + 1 + index, _, _, _, by omega, rfl⟩)
      | exhausted found earlier nested => exact .inr (.inr ⟨rfl, .exhausted found earlier nested⟩)
    · exact .inr (.inl ⟨position, spec, actual, middle, Nat.le_refl _, ran.symm⟩)

theorem checkedBroader (broadens : Pointwise Broadens signature broader) (args : List Value) (before : World) :
    CheckedBroader dispatch registry signature broader args before where
  accepted after accepted := by
    rw [checkArguments_resumed broadens, bind_run, accepted]
    rfl
  mismatch position expected actual after refused := by
    rw [checkArguments_resumed broadens, bind_run, refused]
    exact resumed_mismatch rfl
  outOfBounds position after := by
    rw [checkArguments_outOfBounds_iff, checkArguments_outOfBounds_iff, broadens.surplus?_eq]
  nested nested := by
    rw [checkArguments_resumed broadens, bind_run, nested, Option.bind_none]

theorem checkArguments_append {specs : List Spec} (enough : args.length ≤ specs.length) (further : List Spec) :
    checkArguments dispatch registry (.positional (specs ++ further)) args =
      checkArguments dispatch registry (.positional specs) args := by
  apply checkPositions_congr enough
  · rw [List.length_append]
    exact Nat.le_add_right_of_le enough
  · exact List.take_append_of_le_length enough

/-- Specifications that allow more at each position never refuse more, and never earlier. Their check makes that of the
others first: what is accepted there is accepted with the same effects, and behind a mismatch nothing but that position
and later ones is left to refuse. Arguments are out of bounds alike. A specification that lists all names of another one
allows more, and further specifications behind those that the arguments need make no difference at all. -/
theorem broader_specifications (dispatch : Dispatch) (registry : RegistryId) (args : List Value) :
    (∀ spec wider : Spec, (∀ tag ∈ spec.tags, ∃ other ∈ wider.tags, other.name = tag.name) → Broadens spec wider) ∧
    (∀ signature broader, Pointwise Broadens signature broader →
      (checkArguments dispatch registry broader args =
        checkArguments dispatch registry signature args >>= resumed dispatch registry (paired broader args)) ∧
      ∀ before, CheckedBroader dispatch registry signature broader args before) ∧
    ∀ specs further, args.length ≤ specs.length →
      checkArguments dispatch registry (.positional (specs ++ further)) args =
        checkArguments dispatch registry (.positional specs) args := by
  refine ⟨fun spec wider => broadens_of_names, ?_, fun specs further enough => checkArguments_append enough further⟩
  intro signature broader broadens
  exact ⟨checkArguments_resumed broadens args, checkedBroader broadens args⟩

/-- The check of the first text registers another type, which then names the second one. Only the broader specifications
let it come to that. -/
theorem broader_specifications_later :
    let dispatch := registeringChecks.host.dispatch 1
    let text : Spec := .single (.builtin .string)
    let number : Spec := .single (.builtin .number)
    let signature : Signature := .positional [text, text, number]
    let broader : Signature := .positional [text, .choice [.builtin .null, .builtin .string], number]
    let args : List Value := [.string "x", .null, .string "y"]
    Pointwise Broadens signature broader ∧
      (∃ after, checkArguments dispatch .shared signature args earlyRegistered =
        some (some (.mismatch 1 text (.builtin .null)), after)) ∧
      ∃ later expected last, 1 ≤ later ∧ checkArguments dispatch .shared broader args earlyRegistered =
        some (some (.mismatch later expected (.custom ⟨"late"⟩)), last) := by
  intro dispatch text number signature broader args
  obtain ⟨names, checked, -⟩ := broader_specifications dispatch .shared args
  have broadens : Pointwise Broadens signature broader :=
    .positional (.cons (names _ _ (by decide)) (.cons (names _ _ (by decide)) (.cons (names _ _ (by decide)) .nil)))
  obtain ⟨after, refused⟩ : ∃ after, checkArguments dispatch .shared signature args earlyRegistered =
      some (some (.mismatch 1 text (.builtin .null)), after) := ⟨_, rfl⟩
  refine ⟨broadens, ⟨after, refused⟩, ?_⟩
  obtain ⟨last, accepted⟩ | ⟨later, expected, actual, last, behind, mismatch⟩ | ⟨nested, -⟩ :=
    ((checked signature broader broadens).2 earlyRegistered).mismatch _ _ _ _ refused
  · cases accepted
  · obtain rfl : actual = .custom ⟨"late"⟩ := by
      cases mismatch
      rfl
    exact ⟨later, expected, last, behind, mismatch⟩
  · cases nested

end TypeGuard.Proofs
