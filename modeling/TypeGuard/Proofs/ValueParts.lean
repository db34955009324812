import TypeGuard.Value

/-! What a value is made of. Arrays, sets, objects and maps have parts, which are values again; whatever
carries a handle has none. -/

namespace TypeGuard.Value

/-- The values that stand directly in a value: items, members without their names, keys and entries. -/
def parts : Value → List Value
  | .array items | .set items => items
  | .object members => members.map Prod.snd
  | .map entries => entries.map Prod.fst ++ entries.map Prod.snd
  | _ => []

theorem member_part {members : List (String × Value)} {key part} (member : (key, part) ∈ members) :
    part ∈ (object members).parts :=
  List.mem_map_of_mem member

theorem key_part {entries : List (Value × Value)} {entry} (member : entry ∈ entries) :
    entry.1 ∈ (map entries).parts :=
  List.mem_append_left _ (List.mem_map_of_mem member)

theorem entry_part {entries : List (Value × Value)} {entry} (member : entry ∈ entries) :
    entry.2 ∈ (map entries).parts :=
  List.mem_append_right _ (List.mem_map_of_mem member)

private theorem sizeOf_part {value part : Value} (inside : part ∈ value.parts) : sizeOf part < sizeOf value := by
  cases value with
  | array items | set items =>
    have smaller : sizeOf part < sizeOf items := List.sizeOf_lt_of_mem inside
    simp only [array.sizeOf_spec, set.sizeOf_spec]
    omega
  | object members =>
    obtain ⟨⟨key, _⟩, member, rfl⟩ := List.mem_map.mp inside
    have smaller := List.sizeOf_lt_of_mem member
    simp only [object.sizeOf_spec, Prod.mk.sizeOf_spec] at smaller ⊢
    omega
  | map entries =>
    have smaller : ∃ entry ∈ entries, sizeOf part < sizeOf entry := by
      rcases List.mem_append.mp inside with key | value
      · obtain ⟨⟨_, value⟩, member, rfl⟩ := List.mem_map.mp key
        exact ⟨_, member, by simp only [Prod.mk.sizeOf_spec]; omega⟩
      · obtain ⟨⟨key, _⟩, member, rfl⟩ := List.mem_map.mp value
        exact ⟨_, member, by simp only [Prod.mk.sizeOf_spec]; omega⟩
    obtain ⟨entry, member, inEntry⟩ := smaller
    have smaller := List.sizeOf_lt_of_mem member
    simp only [map.sizeOf_spec]
    omega
  | _ => cases inside

@[elab_as_elim]
theorem parts_induction {motive : Value → Prop} (step : ∀ value, (∀ part ∈ value.parts, motive part) → motive value)
    (value : Value) : motive value :=
  step value fun part _ => parts_induction step part
termination_by sizeOf value
decreasing_by
  next inside => exact sizeOf_part inside

inductive Within (inner : Value) : Value → Prop where
  | here : Within inner inner
  | part {part outer} (inside : part ∈ outer.parts) (within : Within inner part) : Within inner outer

/-- No object in the value, at whatever depth, has a key twice. -/
def DistinctKeys (value : Value) : Prop :=
  ∀ members, Within (.object members) value → (Assoc.keys members).Nodup

theorem distinctKeys_iff {value : Value} :
    value.DistinctKeys ↔ (∀ members, value = .object members → (Assoc.keys members).Nodup) ∧
      ∀ part ∈ value.parts, part.DistinctKeys := by
  constructor
  · intro distinct
    refine ⟨?_, fun part inside members within => distinct members (.part inside within)⟩
    rintro members rfl
    exact distinct members .here
  · rintro ⟨top, parts⟩ members within
    cases within with
    | here => exact top members rfl
    | part inside within => exact parts _ inside members within

theorem DistinctKeys.part {value part : Value} (distinct : value.DistinctKeys) (inside : part ∈ value.parts) :
    part.DistinctKeys :=
  (distinctKeys_iff.mp distinct).2 part inside

end TypeGuard.Value
