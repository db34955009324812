import Mathlib
import TypeGuard.Proofs.ValueParts
import TypeGuard.Value.Equality

/-! Equality of values is symmetric and transitive, and a value is equal to itself unless something in it is
not a number. Equal values look alike to whoever takes them apart. -/

namespace TypeGuard.Proofs
open Value

private theorem number_symm {a b : Float} (equal : (a == b) = true) : (b == a) = true := by
  obtain ⟨left, right, same | ⟨zero, negative⟩ | ⟨negative, zero⟩⟩ := Float.beq_iff_ne_nan_and_eq.mp equal
  · exact Float.beq_iff_ne_nan_and_eq.mpr ⟨right, left, .inl same.symm⟩
  · exact Float.beq_iff_ne_nan_and_eq.mpr ⟨right, left, .inr (.inr ⟨negative, zero⟩)⟩
  · exact Float.beq_iff_ne_nan_and_eq.mpr ⟨right, left, .inr (.inl ⟨zero, negative⟩)⟩

/-- Only a zero is equal to anything but itself, so a zero in the middle has zeros on both sides. -/
private theorem number_trans {a b c : Float} (first : (a == b) = true) (second : (b == c) = true) : (a == c) = true := by
  obtain ⟨left, -, same⟩ := Float.beq_iff_ne_nan_and_eq.mp first
  obtain ⟨-, right, same'⟩ := Float.beq_iff_ne_nan_and_eq.mp second
  have ends : a = c ∨ a = 0 ∧ c = -0 ∨ a = -0 ∧ c = 0 := by
    rcases same with rfl | ⟨rfl, rfl⟩ | ⟨rfl, rfl⟩
    · exact same'
    · rcases same' with rfl | ⟨-, rfl⟩ | ⟨-, rfl⟩
      · exact .inr (.inl ⟨rfl, rfl⟩)
      · exact .inr (.inl ⟨rfl, rfl⟩)
      · exact .inl rfl
    · rcases same' with rfl | ⟨-, rfl⟩ | ⟨-, rfl⟩
      · exact .inr (.inr ⟨rfl, rfl⟩)
      · exact .inl rfl
      · exact .inr (.inr ⟨rfl, rfl⟩)
  exact Float.beq_iff_ne_nan_and_eq.mpr ⟨left, right, ends⟩

private theorem number_self {number : Float} : (number == number) = true ↔ number.isNaN = false := by
  rw [Float.beq_self_iff, Float.isNaN_eq_decide_eq_nan, decide_eq_false_iff_not]

private def handle : Callable → FunctionId ⊕ Identity
  | .host _ _ id => .inl id
  | .guarded identity _ _ _ => .inr identity

private theorem callable_same_iff {a b : Callable} : a.same b = true ↔ a.kind = b.kind ∧ handle a = handle b := by
  cases a <;> cases b <;> simp [Callable.same, handle]

def BothRelated (related : Value → Value → Prop) (a b : Value × Value) : Prop :=
  related a.1 b.1 ∧ related a.2 b.2

/-- Two values of one form whose parts are related place by place, or key by key. -/
inductive Corresponding (related : Value → Value → Prop) : Value → Value → Prop where
  | undefined : Corresponding related .undefined .undefined
  | null : Corresponding related .null .null
  | boolean (value) : Corresponding related (.boolean value) (.boolean value)
  | number {a b} (equal : (a == b) = true) : Corresponding related (.number a) (.number b)
  | bigint (value) : Corresponding related (.bigint value) (.bigint value)
  | string (text) : Corresponding related (.string text) (.string text)
  | symbol (identity description description') :
      Corresponding related (.symbol identity description) (.symbol identity description')
  | array {as bs} (items : List.Forall₂ related as bs) : Corresponding related (.array as) (.array bs)
  | object {as bs} (size : as.length = bs.length)
      (members : ∀ key a, (key, a) ∈ as → ∃ b, Assoc.get? key bs = some b ∧ related a b) :
      Corresponding related (.object as) (.object bs)
  | set {as bs} (items : List.Forall₂ related as bs) : Corresponding related (.set as) (.set bs)
  | map {as bs} (entries : List.Forall₂ (BothRelated related) as bs) : Corresponding related (.map as) (.map bs)
  | generator (producer) : Corresponding related (.generator producer) (.generator producer)
  | promise (promise) : Corresponding related (.promise promise) (.promise promise)
  | function {a b} (same : a.same b = true) : Corresponding related (.function a) (.function b)

abbrev Equal (a b : Value) : Prop :=
  a.same b = true

private theorem sameItems_iff {as bs : List Value} : sameItems as bs = true ↔ List.Forall₂ Equal as bs := by
  induction as generalizing bs with
  | nil => cases bs <;> simp [sameItems]
  | cons a as ih => cases bs <;> simp [sameItems, ih]

private theorem sameEntries_iff {as bs : List (Value × Value)} :
    sameEntries as bs = true ↔ List.Forall₂ (BothRelated Equal) as bs := by
  induction as generalizing bs with
  | nil => cases bs <;> simp [sameEntries]
  | cons a as ih => cases bs <;> simp [sameEntries, ih, BothRelated]

private theorem sameMembers_iff {as bs : List (String × Value)} :
    sameMembers as bs = true ↔ ∀ key a, (key, a) ∈ as → ∃ b, Assoc.get? key bs = some b ∧ Equal a b := by
  induction as with
  | nil => simp [sameMembers]
  | cons member as ih =>
    obtain ⟨key, a⟩ := member
    rw [sameMembers, Bool.and_eq_true, ih]
    constructor
    · rintro ⟨first, rest⟩ other value member
      rcases List.mem_cons.mp member with here | later
      · cases here
        cases found : Assoc.get? key bs with
        | none => simp [found] at first
        | some b => exact ⟨b, rfl, by simpa [found] using first⟩
      · exact rest other value later
    · intro members
      obtain ⟨b, found, equal⟩ := members key a List.mem_cons_self
      exact ⟨by simpa [found] using equal, fun other value later => members other value (List.mem_cons_of_mem _ later)⟩

private theorem corresponding {a b : Value} (equal : Equal a b) : Corresponding Equal a b := by
  unfold Equal at equal
  fun_cases Value.same a b with
  | case1 => exact .undefined
  | case2 => exact .null
  | case3 | case5 | case6 | case7 | case12 | case13 =>
    cases eq_of_beq equal
    constructor
  | case4 => exact .number equal
  | case8 => exact .array (sameItems_iff.mp equal)
  | case9 => exact .set (sameItems_iff.mp equal)
  | case10 =>
    obtain ⟨size, members⟩ := (Bool.and_eq_true _ _).mp equal
    exact .object (eq_of_beq size) (sameMembers_iff.mp members)
  | case11 => exact .map (sameEntries_iff.mp equal)
  | case14 => exact .function equal
  | case15 => simp_all [Value.same]

/-- Equality compares one layer and is equality again below it. -/
theorem same_iff {a b : Value} : a.same b = true ↔ Corresponding Equal a b := by
  refine ⟨corresponding, ?_⟩
  intro corresponding
  cases corresponding with
  | undefined | null => rfl
  | boolean | bigint | string | symbol | generator | promise => simp [Value.same]
  | number equal => exact equal
  | array items | set items => exact sameItems_iff.mpr items
  | object size members => exact (Bool.and_eq_true _ _).mpr ⟨beq_of_eq size, sameMembers_iff.mpr members⟩
  | map entries => exact sameEntries_iff.mpr entries
  | function same => exact same

private theorem forall₂_of_mem {related stronger : Value → Value → Prop} {as bs : List Value}
    (items : List.Forall₂ related as bs) (strengthen : ∀ a ∈ as, ∀ b, related a b → stronger a b) :
    List.Forall₂ stronger as bs := by
  have both := (List.forall₂_and_left as bs).mpr ⟨strengthen, items⟩
  exact both.imp fun a b held => held.1 b held.2

private theorem entries_of_mem {related stronger : Value → Value → Prop} {as bs : List (Value × Value)}
    (entries : List.Forall₂ (BothRelated related) as bs)
    (strengthen : ∀ a ∈ (map as).parts, ∀ b, related a b → stronger a b) :
    List.Forall₂ (BothRelated stronger) as bs := by
  have inside : ∀ a ∈ as, a.1 ∈ (map as).parts ∧ a.2 ∈ (map as).parts := by
    intro a member
    exact ⟨key_part member, entry_part member⟩
  have both := (List.forall₂_and_left as bs).mpr ⟨inside, entries⟩
  exact both.imp fun a b held => ⟨strengthen _ held.1.1 _ held.2.1, strengthen _ held.1.2 _ held.2.2⟩

private theorem forall₂_trans {α : Type} {first second whole : α → α → Prop} {as bs cs : List α}
    (left : List.Forall₂ first as bs) (right : List.Forall₂ second bs cs)
    (trans : ∀ a b c, first a b → second b c → whole a c) : List.Forall₂ whole as cs := by
  induction left generalizing cs with
  | nil =>
    cases right
    exact .nil
  | cons head _ ih =>
    cases right with
    | cons head' rest => exact .cons (trans _ _ _ head head') (ih rest)

section Members
variable {related : Value → Value → Prop} {as bs : List (String × Value)} (distinct : (Assoc.keys as).Nodup)
  (size : as.length = bs.length)
  (members : ∀ key a, (key, a) ∈ as → ∃ b, Assoc.get? key bs = some b ∧ related a b)
include distinct size members

private theorem keys_perm : (Assoc.keys as).Perm (Assoc.keys bs) := by
  have subset : Assoc.keys as ⊆ Assoc.keys bs := by
    intro key member
    obtain ⟨⟨_, a⟩, inside, rfl⟩ := List.mem_map.mp member
    obtain ⟨b, found, -⟩ := members _ a inside
    exact List.mem_map.mpr ⟨_, Assoc.mem_of_get?_eq_some found, rfl⟩
  apply (List.subperm_of_subset distinct subset).perm_of_length_le
  simp only [Assoc.keys, List.length_map, size, le_refl]

private theorem counterpart {key : String} {b : Value} (member : (key, b) ∈ bs) :
    ∃ a, Assoc.get? key as = some a ∧ related a b := by
  have perm := keys_perm distinct size members
  obtain ⟨⟨_, a⟩, inside, rfl⟩ := List.mem_map.mp (perm.mem_iff.mpr (List.mem_map_of_mem member))
  obtain ⟨b', found, held⟩ := members _ a inside
  have same := (Assoc.get?_eq_some_iff (perm.nodup_iff.mp distinct)).mpr member
  rw [found] at same
  cases same
  exact ⟨a, (Assoc.get?_eq_some_iff distinct).mpr inside, held⟩

end Members

theorem same_symm {a b : Value} (distinct : a.DistinctKeys) (equal : Equal a b) : Equal b a := by
  induction a using parts_induction generalizing b with
  | step a ih =>
    have swapped : ∀ part ∈ a.parts, ∀ b, Equal part b → Equal b part := by
      intro part inside b equal
      exact ih part inside (distinct.part inside) equal
    refine same_iff.mpr ?_
    cases same_iff.mp equal with
    | undefined | null | boolean | bigint | string | symbol | generator | promise => constructor
    | number equal => exact .number (number_symm equal)
    | array items => exact .array (forall₂_of_mem items swapped).flip
    | set items => exact .set (forall₂_of_mem items swapped).flip
    | map entries => exact .map (entries_of_mem entries swapped).flip
    | function same =>
      obtain ⟨kind, identical⟩ := callable_same_iff.mp same
      exact .function (callable_same_iff.mpr ⟨kind.symm, identical.symm⟩)
    | object size members =>
      refine .object size.symm fun key b member => ?_
      obtain ⟨a, found, equal⟩ := counterpart (distinct _ .here) size members member
      exact ⟨a, found, swapped a (member_part (Assoc.mem_of_get?_eq_some found)) b equal⟩

theorem same_trans {a b c : Value} (first : Equal a b) (second : Equal b c) : Equal a c := by
  induction a using parts_induction generalizing b c with
  | step a ih =>
    have extended : ∀ part ∈ a.parts, ∀ b, Equal part b → ∀ c, Equal b c → Equal part c := by
      intro part inside b equal c equal'
      exact ih part inside equal equal'
    refine same_iff.mpr ?_
    cases same_iff.mp first with
    | undefined | null | boolean | bigint | string | generator | promise => exact same_iff.mp second
    | symbol =>
      cases same_iff.mp second
      constructor
    | number equal =>
      cases same_iff.mp second with
      | number equal' => exact .number (number_trans equal equal')
    | array items =>
      cases same_iff.mp second with
      | array items' => exact .array (forall₂_trans (forall₂_of_mem items extended) items' fun _ _ c held => held c)
    | set items =>
      cases same_iff.mp second with
      | set items' => exact .set (forall₂_trans (forall₂_of_mem items extended) items' fun _ _ c held => held c)
    | map entries =>
      cases same_iff.mp second with
      | map entries' =>
        refine .map (forall₂_trans (entries_of_mem entries extended) entries' ?_)
        exact fun _ _ c held equal => ⟨held.1 c.1 equal.1, held.2 c.2 equal.2⟩
    | function same =>
      cases same_iff.mp second with
      | function same' =>
        obtain ⟨kind, identical⟩ := callable_same_iff.mp same
        obtain ⟨kind', identical'⟩ := callable_same_iff.mp same'
        exact .function (callable_same_iff.mpr ⟨kind.trans kind', identical.trans identical'⟩)
    | object size members =>
      cases same_iff.mp second with
      | object size' members' =>
        refine .object (size.trans size') fun key a member => ?_
        obtain ⟨b, found, equal⟩ := members key a member
        obtain ⟨c, found', equal'⟩ := members' key b (Assoc.mem_of_get?_eq_some found)
        exact ⟨c, found', extended a (member_part member) b equal c equal'⟩

private theorem same_self_iff {a : Value} (distinct : a.DistinctKeys) :
    Equal a a ↔ (∀ number, a = .number number → number.isNaN = false) ∧ ∀ part ∈ a.parts, Equal part part := by
  rw [Equal, same_iff]
  constructor
  · intro same
    cases same with
    | number equal =>
      refine ⟨?_, fun part inside => by cases inside⟩
      rintro number ⟨⟩
      exact number_self.mp equal
    | array items | set items => exact ⟨fun _ => nofun, List.forall₂_same.mp items⟩
    | map entries =>
      refine ⟨fun _ => nofun, fun part inside => ?_⟩
      have related := List.forall₂_same.mp entries
      rcases List.mem_append.mp inside with key | value
      · obtain ⟨entry, member, rfl⟩ := List.mem_map.mp key
        exact (related entry member).1
      · obtain ⟨entry, member, rfl⟩ := List.mem_map.mp value
        exact (related entry member).2
    | object size members =>
      refine ⟨fun _ => nofun, fun part inside => ?_⟩
      obtain ⟨⟨key, _⟩, member, rfl⟩ := List.mem_map.mp inside
      obtain ⟨b, found, equal⟩ := members key _ member
      rw [(Assoc.get?_eq_some_iff (distinct _ .here)).mpr member] at found
      cases found
      exact equal
    | _ => exact ⟨fun _ => nofun, fun part inside => by cases inside⟩
  · rintro ⟨proper, parts⟩
    cases a with
    | number number => exact .number (number_self.mpr (proper number rfl))
    | array items => exact .array (List.forall₂_same.mpr parts)
    | set items => exact .set (List.forall₂_same.mpr parts)
    | map entries =>
      refine .map (List.forall₂_same.mpr fun entry member => ?_)
      exact ⟨parts _ (key_part member), parts _ (entry_part member)⟩
    | object members =>
      refine .object rfl fun key a member => ⟨a, ?_, parts a (member_part member)⟩
      exact (Assoc.get?_eq_some_iff (distinct _ .here)).mpr member
    | function callable => exact .function (callable_same_iff.mpr ⟨rfl, rfl⟩)
    | _ => constructor

theorem same_self {a : Value} (distinct : a.DistinctKeys) :
    Equal a a ↔ ∀ number, Within (.number number) a → number.isNaN = false := by
  induction a using parts_induction with
  | step a ih =>
    rw [same_self_iff distinct]
    constructor
    · rintro ⟨proper, parts⟩ number within
      cases within with
      | here => exact proper number rfl
      | part inside within => exact (ih _ inside (distinct.part inside)).mp (parts _ inside) number within
    · intro proper
      refine ⟨?_, fun part inside => (ih part inside (distinct.part inside)).mpr ?_⟩
      · rintro number rfl
        exact proper number .here
      · exact fun number within => proper number (.part inside within)

theorem same_builtinType {a b : Value} (equal : Equal a b) : a.builtinType = b.builtinType := by
  cases same_iff.mp equal with
  | function same => rw [builtinType, builtinType, (callable_same_iff.mp same).1]
  | _ => rfl

theorem same_get? {a b : Value} (distinct : a.DistinctKeys) (equal : Equal a b) (key : String) :
    Option.Rel Equal (a.get? key) (b.get? key) := by
  cases same_iff.mp equal with
  | @object as bs size members =>
    rw [get?, get?]
    cases found : Assoc.get? key as with
    | some a =>
      obtain ⟨b, found', equal⟩ := members key a (Assoc.mem_of_get?_eq_some found)
      rw [found']
      exact .some equal
    | none =>
      have absent := (keys_perm (distinct _ .here) size members).mem_iff.not.mp (Assoc.get?_eq_none_iff.mp found)
      rw [Assoc.get?_eq_none_iff.mpr absent]
      exact .none
  | _ => exact .none

theorem same_items? {a b : Value} (equal : Equal a b) {items : List Value} (produced : a.items? = some (.listed items)) :
    ∃ others, b.items? = some (.listed others) ∧ List.Forall₂ Equal items others := by
  cases same_iff.mp equal with
  | array related | set related =>
    cases produced
    exact ⟨_, rfl, related⟩
  | map entries =>
    cases produced
    refine ⟨_, rfl, List.forall₂_map_left_iff.mpr (List.forall₂_map_right_iff.mpr (entries.imp ?_))⟩
    exact fun _ _ related => same_iff.mpr (.array (.cons related.1 (.cons related.2 .nil)))
  | _ => cases produced

theorem same_object_perm {as as' bs bs' : List (String × Value)} (left : as.Perm as') (right : bs.Perm bs')
    (distinct : (Assoc.keys bs).Nodup) : (object as).same (.object bs) = (object as').same (.object bs') := by
  have found (key : String) (b : Value) : Assoc.get? key bs = some b ↔ Assoc.get? key bs' = some b := by
    have distinct' : (Assoc.keys bs').Nodup := ((right.map Prod.fst).nodup_iff).mp distinct
    rw [Assoc.get?_eq_some_iff distinct, Assoc.get?_eq_some_iff distinct', right.mem_iff]
  rw [Value.same, Value.same, left.length_eq, right.length_eq]
  congr 1
  rw [Bool.eq_iff_iff, sameMembers_iff, sameMembers_iff]
  simp only [left.mem_iff, found]

/-- Equality is symmetric and transitive, and fails to be reflexive just where something in a value is not a
number. Equal values have the same built-in type, hold equal values under every key, and produce equal
items; the order of the keys of an object plays no part. -/
theorem same_partial_equivalence :
    (∀ a b : Value, a.DistinctKeys → a.same b = true → b.same a = true) ∧
    (∀ a b c : Value, a.same b = true → b.same c = true → a.same c = true) ∧
    (∀ a : Value, a.DistinctKeys →
      (a.same a = true ↔ ∀ number, Within (.number number) a → number.isNaN = false)) ∧
    (∀ a b : Value, a.DistinctKeys → a.same b = true →
      a.builtinType = b.builtinType ∧ (∀ key, Option.Rel Equal (a.get? key) (b.get? key)) ∧
      ∀ items, a.items? = some (.listed items) →
        ∃ others, b.items? = some (.listed others) ∧ List.Forall₂ Equal items others) ∧
    ∀ as as' bs bs' : List (String × Value), as.Perm as' → bs.Perm bs' → (Assoc.keys bs).Nodup →
      (object as).same (.object bs) = (object as').same (.object bs') := by
  refine ⟨?_, ?_, ?_, ?_, ?_⟩
  · intro a b distinct equal
    exact same_symm distinct equal
  · intro a b c first second
    exact same_trans first second
  · intro a distinct
    exact same_self distinct
  · intro a b distinct equal
    exact ⟨same_builtinType equal, same_get? distinct equal, fun items => same_items? equal⟩
  · intro as as' bs bs' left right distinct
    exact same_object_perm left right distinct

/-- Two objects with their keys in different order, one of them with a negative zero. -/
theorem same_partial_equivalence_reordered :
    let a : Value := .object [("x", .number 0), ("y", .array [.null])]
    let b : Value := .object [("y", .array [.null]), ("x", .number (-0))]
    a.DistinctKeys ∧ a.same b = true ∧ b.same a = true ∧ (∀ number, Within (.number number) a → number.isNaN = false) ∧
      Option.Rel Equal (a.get? "x") (b.get? "x") := by
  intro a b
  have distinct : a.DistinctKeys := by
    rw [distinctKeys_iff]
    refine ⟨fun members same => ?_, ?_⟩
    · obtain rfl := Value.object.inj same
      decide
    · simp only [a, parts, List.map_cons, List.map_nil, List.forall_mem_cons]
      refine ⟨distinctKeys_iff.mpr ⟨nofun, nofun⟩, distinctKeys_iff.mpr ⟨nofun, ?_⟩, nofun⟩
      simp only [parts, List.forall_mem_singleton]
      exact distinctKeys_iff.mpr ⟨nofun, nofun⟩
  have equal : a.same b = true := by decide
  obtain ⟨symm, trans, self, apart, -⟩ := same_partial_equivalence
  have swapped := symm a b distinct equal
  exact ⟨distinct, equal, swapped, (self a distinct).mp (trans a b a equal swapped), (apart a b distinct equal).2.1 "x"⟩

end TypeGuard.Proofs
