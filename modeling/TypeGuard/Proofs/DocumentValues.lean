import TypeGuard.Proofs.ValueEquality
import TypeGuard.Value.Document

/-! Documents as values. Two documents become equal values just when they have the same structure: the order of
members plays no part, and numbers count by what they are in floating-point arithmetic. What becomes of a
document is plain data through and through, and is taken apart as the document is. -/

namespace TypeGuard.Proofs
open Value

/-- Documents of the same structure, in which numbers may be written differently as long as they stand for equal
floating-point numbers. The members of objects are compared name by name, whatever their order, and of a
repeated name the last member counts. -/
inductive SameStructure : Json → Json → Prop where
  | null : SameStructure .null .null
  | bool (value) : SameStructure (.bool value) (.bool value)
  | number {a b} (equal : (a.toFloat == b.toFloat) = true) : SameStructure (.number a) (.number b)
  | string (text) : SameStructure (.string text) (.string text)
  | array {as bs} (items : List.Forall₂ SameStructure as bs) : SameStructure (.array as) (.array bs)
  | object {as bs} (members : ∀ name, Option.Rel SameStructure ((Json.object as).member? name) ((Json.object bs).member? name)) :
      SameStructure (.object as) (.object bs)

def documentParts : Json → List Json
  | .array items => items
  | .object members => members.map Prod.snd
  | _ => []

private theorem sizeOf_documentPart {json part : Json} (inside : part ∈ documentParts json) : sizeOf part < sizeOf json := by
  cases json with
  | array items =>
    have smaller : sizeOf part < sizeOf items := List.sizeOf_lt_of_mem inside
    simp only [Json.array.sizeOf_spec]
    omega
  | object members =>
    obtain ⟨⟨name, _⟩, member, rfl⟩ := List.mem_map.mp inside
    have smaller := List.sizeOf_lt_of_mem member
    simp only [Json.object.sizeOf_spec, Prod.mk.sizeOf_spec] at smaller ⊢
    omega
  | null | bool | number | string => cases inside

@[elab_as_elim]
private theorem document_induction {motive : Json → Prop}
    (step : ∀ json, (∀ part ∈ documentParts json, motive part) → motive json) (json : Json) : motive json :=
  step json fun part _ => document_induction step part
termination_by sizeOf json
decreasing_by
  next inside => exact sizeOf_documentPart inside

private theorem member?_part {json part : Json} {name : String} (found : json.member? name = some part) :
    part ∈ documentParts json := by
  cases json with
  | object members =>
    obtain ⟨before, after, split, -⟩ := List.lookup_eq_some_iff.mp found
    have member : (name, part) ∈ members := by
      rw [← List.mem_reverse, split]
      exact List.mem_append_right _ List.mem_cons_self
    exact List.mem_map_of_mem member
  | null | bool | number | string | array => cases found

private theorem ofJsonItems_eq (items : List Json) : ofJsonItems items = items.map ofJson := by
  induction items with
  | nil => rfl
  | cons item items ih => rw [ofJsonItems, ih, List.map_cons]

private theorem ofJsonMembers_eq (members : List (String × Json)) :
    ofJsonMembers members = members.map fun member => (member.1, ofJson member.2) := by
  induction members with
  | nil => rfl
  | cons member members ih => rw [ofJsonMembers, ih, List.map_cons]

private theorem nodup_sortMembers {members : List (String × Value)} (distinct : (Assoc.keys members).Nodup) :
    (Assoc.keys (sortMembers members)).Nodup :=
  ((List.mergeSort_perm members _).map Prod.fst).nodup_iff.mpr distinct

private theorem nodup_ofJson {members : List (String × Json)} {converted : List (String × Value)}
    (same : ofJson (.object members) = .object converted) : (Assoc.keys converted).Nodup := by
  cases same
  exact nodup_sortMembers (Assoc.nodup_keys_ofList _)

private theorem lookup_converted (name : String) (members : List (String × Json)) :
    (members.map fun member => (member.1, ofJson member.2)).lookup name = (members.lookup name).map ofJson := by
  induction members with
  | nil => rfl
  | cons member members ih =>
    rw [List.map_cons, List.lookup_cons, List.lookup_cons, ih]
    cases name == member.1 <;> rfl

/-- The value under a key is what becomes of the member of that name. -/
theorem get?_ofJson (json : Json) (name : String) : (ofJson json).get? name = (json.member? name).map ofJson := by
  cases json with
  | object members =>
    have sorted : (sortMembers (Assoc.ofList (ofJsonMembers members))).Perm (Assoc.ofList (ofJsonMembers members)) :=
      List.mergeSort_perm _ _
    rw [ofJson, get?, Assoc.get?_perm name sorted (nodup_sortMembers (Assoc.nodup_keys_ofList _)), Assoc.get?_ofList,
      ofJsonMembers_eq, ← List.map_reverse, lookup_converted]
    rfl
  | null | bool | number | string | array => rfl

theorem items?_ofJson (items : List Json) : (ofJson (.array items)).items? = some (.listed (items.map ofJson)) := by
  rw [ofJson, ofJsonItems_eq]
  rfl

private theorem part_ofJson {json : Json} {part : Value} (inside : part ∈ (ofJson json).parts) :
    ∃ document ∈ documentParts json, ofJson document = part := by
  cases json with
  | array items =>
    rw [ofJson, parts, ofJsonItems_eq] at inside
    exact List.mem_map.mp inside
  | object members =>
    obtain ⟨⟨name, _⟩, member, rfl⟩ := List.mem_map.mp inside
    have found : (ofJson (.object members)).get? name = some _ :=
      (Assoc.get?_eq_some_iff (nodup_ofJson rfl)).mpr member
    rw [get?_ofJson] at found
    obtain ⟨document, held, same⟩ := Option.map_eq_some_iff.mp found
    exact ⟨document, member?_part held, same⟩
  | null | bool | number | string => cases inside

private theorem within_ofJson {json : Json} {inner : Value} (within : Within inner (ofJson json)) :
    ∃ document, ofJson document = inner := by
  induction json using document_induction with
  | step json ih =>
    cases within with
    | here => exact ⟨json, rfl⟩
    | part inside within =>
      obtain ⟨document, member, rfl⟩ := part_ofJson inside
      exact ih document member within

def documentTypes : List BuiltinType :=
  [.null, .boolean, .number, .string, .array, .object]

private theorem builtinType_ofJson (json : Json) : (ofJson json).builtinType ∈ documentTypes := by
  cases json <;> simp [ofJson, builtinType, documentTypes]

private theorem finite_ofJson {json : Json} {number : Float} (same : ofJson json = .number number) :
    number.isNaN = false := by
  cases json with
  | number value =>
    cases same
    have finite := value.isFinite_toFloat
    rw [Float.isNaN_eq_decide_eq_nan, decide_eq_false_iff_not]
    intro none
    rw [none] at finite
    cases finite
  | null | bool | string | array | object => cases same

private theorem distinctKeys_ofJson (json : Json) : (ofJson json).DistinctKeys := by
  intro members within
  obtain ⟨document, same⟩ := within_ofJson within
  cases document with
  | object members => exact nodup_ofJson same
  | null | bool | number | string | array => cases same

private theorem same_items_iff {as bs : List Json}
    (each : ∀ a ∈ as, ∀ b, Equal (ofJson a) (ofJson b) ↔ SameStructure a b) :
    List.Forall₂ Equal (as.map ofJson) (bs.map ofJson) ↔ List.Forall₂ SameStructure as bs := by
  rw [List.forall₂_map_left_iff, List.forall₂_map_right_iff]
  induction as generalizing bs with
  | nil => cases bs <;> simp
  | cons a as ih =>
    cases bs with
    | nil => simp
    | cons b bs =>
      rw [List.forall₂_cons, List.forall₂_cons, each a List.mem_cons_self,
        ih fun a member => each a (List.mem_cons_of_mem _ member)]

private theorem same_arrays_iff (as bs : List Json) :
    Equal (ofJson (.array as)) (ofJson (.array bs)) ↔ List.Forall₂ Equal (as.map ofJson) (bs.map ofJson) := by
  rw [ofJson, ofJson, ofJsonItems_eq, ofJsonItems_eq, Equal, same_iff]
  constructor
  · intro same
    cases same with
    | array items => exact items
  · exact .array

private theorem same_objects_iff (as bs : List (String × Json)) :
    Equal (ofJson (.object as)) (ofJson (.object bs)) ↔
      ∀ name, Option.Rel Equal ((ofJson (.object as)).get? name) ((ofJson (.object bs)).get? name) := by
  refine ⟨same_get? (distinctKeys_ofJson _), ?_⟩
  intro related
  have distinct := @nodup_ofJson as _ rfl
  have distinct' := @nodup_ofJson bs _ rfl
  rw [ofJson, ofJson] at related ⊢
  generalize sortMembers (Assoc.ofList (ofJsonMembers as)) = left at related distinct
  generalize sortMembers (Assoc.ofList (ofJsonMembers bs)) = right at related distinct'
  have keys : ∀ name, name ∈ Assoc.keys left ↔ name ∈ Assoc.keys right := by
    intro name
    rw [← not_iff_not, ← Assoc.get?_eq_none_iff, ← Assoc.get?_eq_none_iff]
    generalize found : Assoc.get? name left = a
    generalize found' : Assoc.get? name right = b
    have held : Option.Rel Equal a b := found ▸ found' ▸ related name
    cases held <;> simp
  have perm : (Assoc.keys left).Perm (Assoc.keys right) := (List.perm_ext_iff_of_nodup distinct distinct').mpr keys
  refine same_iff.mpr (.object (by simpa [Assoc.keys] using perm.length_eq) ?_)
  intro name a member
  have found := (Assoc.get?_eq_some_iff distinct).mpr member
  generalize found' : Assoc.get? name right = b
  have held : Option.Rel Equal (some a) b := found ▸ found' ▸ related name
  cases held with
  | some equal => exact ⟨_, rfl, equal⟩

private theorem option_rel_map_iff {a b : Option Json}
    (each : ∀ document, a = some document → ∀ other, Equal (ofJson document) (ofJson other) ↔ SameStructure document other) :
    Option.Rel Equal (a.map ofJson) (b.map ofJson) ↔ Option.Rel SameStructure a b := by
  cases a with
  | none => cases b <;> simp
  | some document => cases b <;> simp [each document rfl]

private theorem same_ofJson_iff (a b : Json) : Equal (ofJson a) (ofJson b) ↔ SameStructure a b := by
  induction a using document_induction generalizing b with
  | step a ih =>
    cases a with
    | null =>
      cases b with
      | null => exact ⟨fun _ => .null, fun _ => rfl⟩
      | bool | number | string | array | object => exact ⟨nofun, nofun⟩
    | bool value =>
      cases b with
      | bool other =>
        constructor
        · intro equal
          obtain rfl : value = other := eq_of_beq equal
          exact .bool value
        · intro same
          cases same
          exact beq_self_eq_true value
      | null | number | string | array | object => exact ⟨nofun, nofun⟩
    | number value =>
      cases b with
      | number other =>
        constructor
        · exact .number
        · intro same
          cases same with
          | number equal => exact equal
      | null | bool | string | array | object => exact ⟨nofun, nofun⟩
    | string text =>
      cases b with
      | string other =>
        constructor
        · intro equal
          obtain rfl : text = other := eq_of_beq equal
          exact .string text
        · intro same
          cases same
          exact beq_self_eq_true text
      | null | bool | number | array | object => exact ⟨nofun, nofun⟩
    | array as =>
      cases b with
      | array bs =>
        have items : List.Forall₂ Equal (as.map ofJson) (bs.map ofJson) ↔ List.Forall₂ SameStructure as bs := same_items_iff ih
        rw [same_arrays_iff, items]
        exact ⟨.array, fun | .array items => items⟩
      | null | bool | number | string | object => exact ⟨nofun, nofun⟩
    | object as =>
      cases b with
      | object bs =>
        have members : ∀ name, Option.Rel Equal ((ofJson (.object as)).get? name) ((ofJson (.object bs)).get? name) ↔
            Option.Rel SameStructure ((Json.object as).member? name) ((Json.object bs).member? name) := by
          intro name
          rw [get?_ofJson, get?_ofJson]
          exact option_rel_map_iff fun document held => ih document (member?_part held)
        rw [same_objects_iff, forall_congr' members]
        exact ⟨.object, fun | .object members => members⟩
      | null | bool | number | string | array => exact ⟨nofun, nofun⟩

/-- Conversion is faithful. Two documents become equal values just when they have the same structure. So each converted
document is equal to itself, holds nothing but null, booleans, numbers, strings, arrays and objects at any
depth, and among the numbers none that is not a number; what is looked up in it, and what it produces as an
array, are the converted members and items of the document. -/
theorem documents_faithful :
    (∀ a b : Json, (ofJson a).same (ofJson b) = true ↔ SameStructure a b) ∧
    (∀ json : Json, (ofJson json).same (ofJson json) = true) ∧
    (∀ (json : Json) (inner : Value), Within inner (ofJson json) →
      inner.builtinType ∈ documentTypes ∧ ∀ number, inner = .number number → number.isNaN = false) ∧
    (∀ (json : Json) (name : String), (ofJson json).get? name = (json.member? name).map ofJson) ∧
    ∀ items : List Json, (ofJson (.array items)).items? = some (.listed (items.map ofJson)) := by
  have inside : ∀ (json : Json) (inner : Value), Within inner (ofJson json) →
      inner.builtinType ∈ documentTypes ∧ ∀ number, inner = .number number → number.isNaN = false := by
    intro json inner within
    obtain ⟨document, rfl⟩ := within_ofJson within
    exact ⟨builtinType_ofJson document, fun number => finite_ofJson⟩
  refine ⟨same_ofJson_iff, ?_, inside, get?_ofJson, items?_ofJson⟩
  intro json
  apply (same_self (distinctKeys_ofJson json)).mpr
  intro number within
  exact (inside json _ within).2 number rfl

/-- Whole numbers beyond the range of exact ones, and zeros of either sign. -/
example : SameStructure
    (.array [.number (.whole 9007199254740992 (by decide)), .number (.whole 0 (by decide))])
    (.array [.number (.whole 9007199254740993 (by decide)), .number (.fraction (-0) (by decide))]) :=
  .array (.cons (.number (by decide)) (.cons (.number (by decide)) .nil))

end TypeGuard.Proofs
