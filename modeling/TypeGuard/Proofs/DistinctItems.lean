import TypeGuard.Proofs.ValueEquality

/-! The items of a set made from a list. Each value is compared only with those kept before it, yet what is kept
are the values that no earlier one is equal to, kept or not: equality carries over from a value that was
dropped to the one that it was dropped for. -/

namespace TypeGuard.Proofs
open Value

def occursFirst (values : List Value) (entry : Value × Nat) : Bool :=
  !(values.take entry.2).any (·.same entry.1)

/-- The values that no earlier one in the list is equal to, in the order of the list. -/
def firstOccurrences (values : List Value) : List Value :=
  (values.zipIdx.filter (occursFirst values)).map Prod.fst

def Different (a b : Value) : Prop :=
  a.same b = false ∧ b.same a = false

variable {kept seen values : List Value}

private def newAfter (seen values : List Value) : List Value :=
  ((values.zipIdx seen.length).filter (occursFirst (seen ++ values))).map Prod.fst

private theorem newAfter_cons (seen : List Value) (value : Value) (values : List Value) :
    newAfter seen (value :: values) =
      if seen.any (·.same value) then newAfter (seen ++ [value]) values
      else value :: newAfter (seen ++ [value]) values := by
  have here : occursFirst (seen ++ value :: values) (value, seen.length) = !seen.any (·.same value) := by
    rw [occursFirst, List.take_left]
  have rest : seen ++ value :: values = (seen ++ [value]) ++ values := List.append_cons ..
  have next : seen.length + 1 = (seen ++ [value]).length := by simp
  rw [newAfter, List.zipIdx_cons, List.filter_cons, here, rest, next]
  cases seen.any (·.same value) with
  | true => rfl
  | false => rfl

/-- What is kept excludes the same values as all that was seen, which is what carries the loop. -/
private theorem distinctFrom_eq (excluded : ∀ value, kept.any (·.same value) = seen.any (·.same value)) :
    distinctFrom kept values = newAfter seen values := by
  induction values generalizing kept seen with
  | nil => rfl
  | cons value values ih =>
    rw [distinctFrom, newAfter_cons, ← excluded]
    cases known : kept.any (·.same value) with
    | true =>
      apply ih
      intro other
      rw [List.any_append, List.any_cons, List.any_nil, Bool.or_false, ← excluded]
      cases equal : value.same other with
      | false => exact (Bool.or_false _).symm
      | true =>
        obtain ⟨item, member, same⟩ := List.any_eq_true.mp known
        rw [Bool.or_true]
        exact List.any_eq_true.mpr ⟨item, member, same_trans same equal⟩
    | false =>
      have next : distinctFrom (kept ++ [value]) values = newAfter (seen ++ [value]) values := by
        apply ih
        intro other
        rw [List.any_append, List.any_append, excluded]
      simp only [Bool.false_eq_true, if_false, next]

theorem distinctFrom_nil (values : List Value) : distinctFrom [] values = firstOccurrences values :=
  distinctFrom_eq fun _ => rfl

private theorem distinctFrom_sublist (kept values : List Value) : (distinctFrom kept values).Sublist values := by
  induction values generalizing kept with
  | nil => exact .slnil
  | cons value values ih =>
    rw [distinctFrom]
    split
    · exact .cons _ (ih kept)
    · exact .cons_cons _ (ih _)

private theorem distinctFrom_pairwise (distinct : kept.Pairwise fun earlier later => earlier.same later = false) :
    (kept ++ distinctFrom kept values).Pairwise fun earlier later => earlier.same later = false := by
  induction values generalizing kept with
  | nil => rwa [distinctFrom, List.append_nil]
  | cons value values ih =>
    rw [distinctFrom]
    split
    next => exact ih distinct
    next new =>
      rw [List.append_cons]
      apply ih
      apply List.pairwise_append.mpr
      refine ⟨distinct, List.pairwise_singleton _ _, ?_⟩
      intro earlier member later last
      rw [List.mem_singleton.mp last]
      rw [Bool.not_eq_true, List.any_eq_false] at new
      exact Bool.eq_false_iff.mpr (new earlier member)

private theorem distinctFrom_represents {value : Value} (member : value ∈ values) (proper : Equal value value) :
    ∃ item ∈ kept ++ distinctFrom kept values, Equal item value := by
  induction values generalizing kept with
  | nil => cases member
  | cons first values ih =>
    rw [distinctFrom]
    split
    next known =>
      rcases List.mem_cons.mp member with here | later
      · subst here
        obtain ⟨item, inside, equal⟩ := List.any_eq_true.mp known
        exact ⟨item, List.mem_append_left _ inside, equal⟩
      · exact ih later
    next =>
      rw [List.append_cons]
      rcases List.mem_cons.mp member with here | later
      · subst here
        exact ⟨value, by simp, proper⟩
      · exact ih later

private theorem distinctFrom_self (distinct : (kept ++ values).Pairwise fun earlier later => earlier.same later = false) :
    distinctFrom kept values = values := by
  induction values generalizing kept with
  | nil => rfl
  | cons value values ih =>
    have new : kept.any (·.same value) = false := by
      apply List.any_eq_false.mpr
      intro earlier member
      exact Bool.eq_false_iff.mp ((List.pairwise_append.mp distinct).2.2 earlier member value List.mem_cons_self)
    rw [List.append_cons] at distinct
    rw [distinctFrom, new, ih distinct]
    rfl

section DistinctKeys
variable (distinctKeys : ∀ value ∈ values, value.DistinctKeys)
include distinctKeys

private theorem same_false_symm {a b : Value} (member : b ∈ values) (apart : a.same b = false) : b.same a = false := by
  apply Bool.eq_false_iff.mpr
  intro equal
  rw [same_symm (distinctKeys b member) equal] at apart
  cases apart

/-- A value equal to anything at all is equal to itself, so that nothing else drops. -/
private theorem distinctFrom_improper (held : ∀ value ∈ kept, value.DistinctKeys) :
    (distinctFrom kept values).filter (fun value => !value.same value) = values.filter (fun value => !value.same value) := by
  induction values generalizing kept with
  | nil => rfl
  | cons value values ih =>
    have rest : ∀ value ∈ values, value.DistinctKeys := fun other member => distinctKeys other (List.mem_cons_of_mem _ member)
    rw [distinctFrom]
    split
    next known =>
      obtain ⟨item, member, equal⟩ := List.any_eq_true.mp known
      have proper : value.same value = true := same_trans (same_symm (held item member) equal) equal
      rw [ih rest held, List.filter_cons, proper]
      rfl
    next =>
      have kept' : ∀ other ∈ kept ++ [value], other.DistinctKeys := by
        intro other member
        rcases List.mem_append.mp member with earlier | last
        · exact held other earlier
        · rw [List.mem_singleton.mp last]
          exact distinctKeys value List.mem_cons_self
      rw [List.filter_cons, List.filter_cons, ih rest kept']

end DistinctKeys

private theorem countP_equal {items : List Value} (different : items.Pairwise fun earlier later => earlier.same later = false)
    (distinctKeys : ∀ item ∈ items, item.DistinctKeys) {item value : Value} (member : item ∈ items) (equal : Equal item value) :
    items.countP (·.same value) = 1 := by
  obtain ⟨earlier, later, rfl⟩ := List.append_of_mem member
  obtain ⟨-, last, first⟩ := List.pairwise_append.mp different
  have before : earlier.countP (·.same value) = 0 := by
    apply List.countP_eq_zero.mpr
    intro other inside equal'
    have same : other.same item = true := same_trans equal' (same_symm (distinctKeys item member) equal)
    rw [first other inside item List.mem_cons_self] at same
    cases same
  have after : later.countP (·.same value) = 0 := by
    apply List.countP_eq_zero.mpr
    intro other inside equal'
    have known : other.DistinctKeys := distinctKeys other (by simp [inside])
    have same : item.same other = true := same_trans equal (same_symm known equal')
    rw [(List.pairwise_cons.mp last).1 other inside] at same
    cases same
  have here : (item :: later).countP (·.same value) = later.countP (·.same value) + 1 := List.countP_cons_of_pos equal
  rw [List.countP_append, before, here, after]

/-- A set made from a list has just the first occurrences in it, in the order of the list. No two of its items are
equal, each value of the list that is equal to itself is equal to exactly one item, and each that is not, which
are those with something in them that is not a number, is an item as often as it occurs. A set made from the
items again has the same items. -/
theorem set_of_first_occurrences (values : List Value) :
    ofDistinct values = .set (firstOccurrences values) ∧
    ((∀ value ∈ values, value.DistinctKeys) →
      (firstOccurrences values).Pairwise Different ∧
      (∀ value ∈ values, value.same value = true → (firstOccurrences values).countP (·.same value) = 1) ∧
      (∀ value ∈ values, value.same value = false ↔ ∃ number, Within (.number number) value ∧ number.isNaN = true) ∧
      (firstOccurrences values).filter (fun value => !value.same value) = values.filter fun value => !value.same value) ∧
    ofDistinct (firstOccurrences values) = .set (firstOccurrences values) := by
  have items : distinctFrom [] values = firstOccurrences values := distinctFrom_nil values
  have apart : (firstOccurrences values).Pairwise fun earlier later => earlier.same later = false := by
    rw [← items]
    exact distinctFrom_pairwise .nil
  refine ⟨by rw [ofDistinct, items], ?_, by rw [ofDistinct, distinctFrom_self apart]⟩
  intro distinctKeys
  have listed : ∀ item ∈ firstOccurrences values, item ∈ values := by
    rw [← items]
    exact fun item member => (distinctFrom_sublist [] values).subset member
  refine ⟨?_, ?_, ?_, ?_⟩
  · apply apart.imp_of_mem
    intro earlier later _ member before
    exact ⟨before, same_false_symm distinctKeys (listed later member) before⟩
  · intro value member proper
    have represented : ∃ item ∈ [] ++ distinctFrom [] values, Equal item value := distinctFrom_represents member proper
    rw [List.nil_append, items] at represented
    obtain ⟨item, inside, equal⟩ := represented
    exact countP_equal apart (fun item member => distinctKeys item (listed item member)) inside equal
  · intro value member
    have proper : value.same value = true ↔ _ := same_self (distinctKeys value member)
    rw [← Bool.not_eq_true, proper]
    simp
  · rw [← items]
    exact distinctFrom_improper distinctKeys nofun

/-- What is not a number stands here by itself and in a list, and two objects differ only in the sign of a zero. -/
def repeatedValues : List Value :=
  [.number .nan, .object [("x", .number 0)], .array [.number .nan], .object [("x", .number (-0))], .promise ⟨3⟩,
    .number .nan, .promise ⟨3⟩]

theorem set_of_first_occurrences_repeated :
    ofDistinct repeatedValues = .set [.number .nan, .object [("x", .number 0)], .array [.number .nan], .promise ⟨3⟩, .number .nan] ∧
    (∀ value ∈ repeatedValues, value.DistinctKeys) ∧
    (firstOccurrences repeatedValues).countP (·.same (.object [("x", .number (-0))])) = 1 ∧
    (firstOccurrences repeatedValues).filter (fun value => !value.same value) = [.number .nan, .array [.number .nan], .number .nan] := by
  have distinctKeys : ∀ value ∈ repeatedValues, value.DistinctKeys := by
    simp only [repeatedValues, List.forall_mem_cons]
    have plain : ∀ value : Value, value.parts = [] → (∀ members, value ≠ .object members) → value.DistinctKeys := by
      intro value bare other
      refine distinctKeys_iff.mpr ⟨fun members same => absurd same (other members), ?_⟩
      simp [bare]
    have number : ∀ number, (Value.number number).DistinctKeys := fun number => plain _ rfl (by simp)
    have promise : ∀ promise, (Value.promise promise).DistinctKeys := fun promise => plain _ rfl (by simp)
    have object : ∀ number, (Value.object [("x", .number number)]).DistinctKeys := by
      intro inner
      refine distinctKeys_iff.mpr ⟨?_, by simp [parts, number]⟩
      intro members same
      cases same
      exact List.nodup_singleton _
    have array : (Value.array [.number .nan]).DistinctKeys := distinctKeys_iff.mpr (by simp [parts, number])
    simp [number, promise, object, array]
  obtain ⟨made, properties, -⟩ := set_of_first_occurrences repeatedValues
  obtain ⟨-, represented, -, kept⟩ := properties distinctKeys
  refine ⟨made.trans rfl, distinctKeys, represented _ (by simp [repeatedValues]) (by decide), kept.trans rfl⟩

end TypeGuard.Proofs
