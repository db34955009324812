import Mathlib.Data.Set.List
import TypeGuard.Spec.Document
import TypeGuard.Proofs.JsonText

/-! Specifications as documents. A document is read as a specification just when it is a text or a list of
texts, and is then the very document that the specification is written as. What is written reads back in
the same shape with the same names; only a custom type that is named like a built-in one comes back as
that one. -/

namespace TypeGuard.Proofs

/-- What a document says as a specification. -/
inductive Denotes : Json → Spec → Prop where
  | single (name : String) : Denotes (.string name) (.single (.ofName name))
  | choice (names : List String) : Denotes (.array (names.map .string)) (.choice (names.map .ofName))

def OfTexts : Json → Prop
  | .string _ => True
  | .array items => ∀ item ∈ items, ∃ text, item = .string text
  | _ => False

/-- What comes back of a specification: the same shape, with the same names in the same order. -/
structure Reread (spec read : Spec) : Prop where
  same : spec.same read = true
  builtin : ∀ tag ∈ read.tags, (∃ type, tag = .builtin type) ↔ tag.name ∈ BuiltinType.all.map BuiltinType.name

private theorem mapM_ofJson?_iff {items : List Json} {tags : List Tag} :
    items.mapM Tag.ofJson? = some tags ↔ ∃ names : List String, items = names.map .string ∧ tags = names.map .ofName := by
  induction items generalizing tags with
  | nil =>
    constructor
    · intro read
      cases read
      exact ⟨[], rfl, rfl⟩
    · rintro ⟨names, none, rfl⟩
      rw [List.map_eq_nil_iff.mp none.symm]
      rfl
  | cons item items ih =>
    rw [List.mapM_cons]
    constructor
    · intro read
      obtain ⟨tag, first, read⟩ := Option.bind_eq_some_iff.mp read
      obtain ⟨others, rest, read⟩ := Option.bind_eq_some_iff.mp read
      cases read
      cases item with
      | string name =>
        cases first
        obtain ⟨names, rfl, rfl⟩ := ih.mp rest
        exact ⟨name :: names, rfl, rfl⟩
      | null | bool | number | array | object => cases first
    · rintro ⟨names, items, rfl⟩
      cases names with
      | nil => cases items
      | cons name names =>
        obtain ⟨rfl, rfl⟩ := List.cons_eq_cons.mp items
        rw [ih.mpr ⟨names, rfl, rfl⟩]
        rfl

theorem ofJson?_eq_some_iff {json : Json} {spec : Spec} : Spec.ofJson? json = some spec ↔ Denotes json spec := by
  constructor
  · intro read
    cases json with
    | string name =>
      cases read
      exact .single name
    | array items =>
      obtain ⟨tags, found, rfl⟩ := Option.map_eq_some_iff.mp read
      obtain ⟨names, rfl, rfl⟩ := mapM_ofJson?_iff.mp found
      exact .choice names
    | null | bool | number | object => cases read
  · intro denotes
    cases denotes with
    | single name => rfl
    | choice names => exact Option.map_eq_some_iff.mpr ⟨_, mapM_ofJson?_iff.mpr ⟨names, rfl, rfl⟩, rfl⟩

theorem Denotes.toJson {json : Json} {spec : Spec} (denotes : Denotes json spec) : spec.toJson = json := by
  have written (name : String) : (Tag.ofName name).toJson = .string name := congrArg Json.string (Tag.name_ofName name)
  cases denotes with
  | single name => exact written name
  | choice names =>
    rw [Spec.toJson, List.map_map]
    exact congrArg Json.array (List.map_congr_left fun name _ => written name)

theorem exists_denotes_iff {json : Json} : (∃ spec, Denotes json spec) ↔ OfTexts json := by
  constructor
  · rintro ⟨spec, denotes⟩
    cases denotes with
    | single name => trivial
    | choice names =>
      intro item member
      obtain ⟨name, -, rfl⟩ := List.mem_map.mp member
      exact ⟨name, rfl⟩
  · intro texts
    cases json with
    | string name => exact ⟨_, .single name⟩
    | array items =>
      have read : items ∈ Set.range (List.map Json.string) := by
        rw [Set.range_list_map]
        intro item member
        obtain ⟨name, rfl⟩ := texts item member
        exact ⟨name, rfl⟩
      obtain ⟨names, rfl⟩ := read
      exact ⟨_, .choice names⟩
    | null | bool | number | object => exact texts.elim

private theorem builtin_ofName_iff (name : String) :
    (∃ type, Tag.ofName name = .builtin type) ↔ name ∈ BuiltinType.all.map BuiltinType.name := by
  rw [List.mem_map]
  constructor
  · rintro ⟨type, read⟩
    refine ⟨type, BuiltinType.mem_all type, ?_⟩
    rw [← Tag.name_ofName name, read, Tag.name]
  · rintro ⟨type, -, rfl⟩
    exact ⟨type, by rw [Tag.ofName, BuiltinType.ofName?_name]⟩

private theorem toJson_choice (tags : List Tag) :
    (Spec.choice tags).toJson = .array ((tags.map Tag.name).map .string) := by
  rw [Spec.toJson, List.map_map]
  rfl

private theorem exists_reread (spec : Spec) : ∃ read, Denotes spec.toJson read ∧ Reread spec read := by
  cases spec with
  | single tag =>
    refine ⟨_, .single tag.name, ?_, ?_⟩
    · exact Tag.same_iff.mpr (Tag.name_ofName tag.name).symm
    · intro read member
      rw [List.mem_singleton.mp member, Tag.name_ofName]
      exact builtin_ofName_iff tag.name
  | choice tags =>
    refine ⟨.choice ((tags.map Tag.name).map .ofName), ?_, ?_, ?_⟩
    · rw [toJson_choice]
      exact .choice _
    · have same : (tags.map Tag.name).map (Tag.name ∘ Tag.ofName) = tags.map Tag.name :=
        (List.map_congr_left fun name _ => Tag.name_ofName name).trans (List.map_id _)
      rw [Spec.same, Spec.sameTags, beq_iff_eq, List.map_map, same]
    · intro read member
      obtain ⟨name, -, rfl⟩ := List.mem_map.mp member
      rw [Tag.name_ofName]
      exact builtin_ofName_iff name

private theorem parse?_written (spec : Spec) : Json.parse? spec.toJson.text = some spec.toJson := by
  cases spec with
  | single tag => exact parse?_text tag.name
  | choice tags =>
    rw [toJson_choice]
    exact parse?_texts _

/-- The text of every specification reads back in the same shape, with the same names in the same order, and
with a built-in type just where the name is one of a built-in type. A document is read just when it is a
text or a list of texts, and what is read is written as that very document; all other documents, and
all texts of others, are refused. -/
theorem spec_documents :
    (∀ spec : Spec, ∃ read, Spec.parse? spec.toJson.text = some read ∧ Reread spec read) ∧
    (∀ json spec, Spec.ofJson? json = some spec ↔ Denotes json spec ∧ spec.toJson = json) ∧
    (∀ json, (∃ spec, Spec.ofJson? json = some spec) ↔ OfTexts json) ∧
    ∀ text spec, Spec.parse? text = some spec ↔ ∃ json, Json.parse? text = some json ∧ Denotes json spec := by
  refine ⟨?_, ?_, ?_, ?_⟩
  · intro spec
    obtain ⟨read, denotes, reread⟩ := exists_reread spec
    refine ⟨read, ?_, reread⟩
    rw [Spec.parse?, parse?_written]
    exact ofJson?_eq_some_iff.mpr denotes
  · intro json spec
    rw [ofJson?_eq_some_iff]
    exact ⟨fun denotes => ⟨denotes, denotes.toJson⟩, And.left⟩
  · intro json
    simp only [ofJson?_eq_some_iff, exists_denotes_iff]
  · intro text spec
    rw [Spec.parse?, Option.bind_eq_bind, Option.bind_eq_some_iff]
    simp only [ofJson?_eq_some_iff]

end TypeGuard.Proofs
