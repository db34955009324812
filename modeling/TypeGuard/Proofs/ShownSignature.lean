import Mathlib.Data.List.Basic
import TypeGuard.Proofs.AllowedNames

/-! What a guard shows of itself can be read in one way only. Its text goes up to the last opening bracket for the name
of the function; behind that come names with commas between them, and a space at the front of a name begins the next
position. All that the text leaves open is whether there is no position or one without a tag. -/

namespace TypeGuard.Proofs

variable {spec other : Spec} {first second : Signature}

/-- A name that cannot be taken for more or less than one name where it is shown. -/
structure PlainName (name : String) : Prop where
  nonempty : name ≠ ""
  comma : ',' ∉ name.toList
  bracket : '(' ∉ name.toList
  space : ∀ rest, name ≠ " " ++ rest
  dots : ∀ rest, name ≠ "..." ++ rest

theorem plainName_builtin (type : BuiltinType) : PlainName type.name := by
  have apart : ∀ start ∈ [" ", "..."], ∀ rest, type.name ≠ start ++ rest := by
    intro start member rest same
    have chars := congrArg String.toList same
    simp only [List.mem_cons, List.not_mem_nil, or_false] at member
    rcases member with rfl | rfl <;> cases type <;> simp [BuiltinType.name] at chars
  refine ⟨?_, ?_, ?_, apart " " (by simp), apart "..." (by simp)⟩ <;> cases type <;> decide

def Plain (signature : Signature) : Prop :=
  ∀ spec ∈ declared signature, ∀ tag ∈ spec.tags, PlainName tag.name

/-- The specifications list the same names, each as often and in the same order. -/
def Listed (spec other : Spec) : Prop :=
  spec.tags.map Tag.name = other.tags.map Tag.name

private theorem intercalate_injective {parts others : List String} (some : parts ≠ []) (some' : others ≠ [])
    (apart : ∀ part ∈ parts, ',' ∉ part.toList) (apart' : ∀ part ∈ others, ',' ∉ part.toList)
    (same : ",".intercalate parts = ",".intercalate others) : parts = others := by
  have split := String.toList_split_intercalate apart
  have split' := String.toList_split_intercalate apart'
  have comma : String.singleton ',' = "," := rfl
  rw [if_neg some, comma] at split
  rw [if_neg some', comma] at split'
  rw [← split, ← split', same]

private theorem notMem_intercalate {c : Char} (different : c ≠ ',') {parts : List String}
    (absent : ∀ part ∈ parts, c ∉ part.toList) : c ∉ (",".intercalate parts).toList := by
  induction parts with
  | nil => simp
  | cons part parts ih =>
    have here : c ∉ part.toList := absent part List.mem_cons_self
    have behind : c ∉ (",".intercalate parts).toList := ih fun part member => absent part (List.mem_cons_of_mem _ member)
    cases parts with
    | nil => rwa [String.intercalate_singleton]
    | cons next parts =>
      rw [String.intercalate_cons_cons, String.toList_append, String.toList_append, List.mem_append, List.mem_append]
      rintro ((member | member) | member)
      · exact here member
      · exact different (List.mem_singleton.mp member)
      · exact behind member

def prefaced (start : String) (parts : List String) : List String :=
  parts.modifyHead (start ++ ·)

private theorem prefaced_ne_nil {parts : List String} (some : parts ≠ []) (start : String) : prefaced start parts ≠ [] :=
  fun none => some (List.modifyHead_eq_nil_iff.mp none)

private theorem intercalate_prefaced {parts : List String} (some : parts ≠ []) (start : String) :
    ",".intercalate (prefaced start parts) = start ++ ",".intercalate parts := by
  cases parts with
  | nil => exact absurd rfl some
  | cons part parts => exact String.intercalate_cons_append

private theorem prefaced_injective {start : String} {parts others : List String}
    (same : prefaced start parts = prefaced start others) : parts = others := by
  cases parts with
  | nil => exact (List.modifyHead_eq_nil_iff.mp same.symm).symm
  | cons part parts =>
    cases others with
    | nil => cases same
    | cons other others =>
      obtain ⟨heads, tails⟩ := List.cons.inj same
      rw [(String.append_right_inj start).mp heads, tails]

private theorem notMem_prefaced {c : Char} {start : String} {parts : List String} (outside : c ∉ start.toList)
    (absent : ∀ part ∈ parts, c ∉ part.toList) : ∀ part ∈ prefaced start parts, c ∉ part.toList := by
  cases parts with
  | nil => exact absent
  | cons head tail =>
    intro part member
    rcases List.mem_cons.mp member with rfl | behind
    · rw [String.toList_append, List.mem_append, not_or]
      exact ⟨outside, absent head List.mem_cons_self⟩
    · exact absent part (List.mem_cons_of_mem _ behind)

/-- The names of a specification as they are shown. Where there is none, an empty text stands in its place. -/
def shownNames (spec : Spec) : List String :=
  match spec.tags.map Tag.name with
  | [] => [""]
  | names => names

/-- The pieces of the positions behind the first one, each of which a space begins. -/
def laterPieces (specs : List Spec) : List String :=
  specs.flatMap fun spec => prefaced " " (shownNames spec)

def pieces : Signature → List String
  | .positional [] => [""]
  | .positional (spec :: later) => shownNames spec ++ laterPieces later
  | .uniform spec => prefaced "..." (shownNames spec)

private theorem shownNames_ne_nil (spec : Spec) : shownNames spec ≠ [] := by
  unfold shownNames
  split
  · exact List.cons_ne_nil "" []
  · assumption

private theorem text_shownNames (spec : Spec) : spec.text = ",".intercalate (shownNames spec) := by
  unfold shownNames Spec.text
  split
  next none => rw [none]; rfl
  next => rfl

private theorem mem_shownNames {part : String} (member : part ∈ shownNames spec) :
    part = "" ∨ ∃ tag ∈ spec.tags, tag.name = part := by
  unfold shownNames at member
  split at member
  · exact .inl (List.mem_singleton.mp member)
  · exact .inr (List.mem_map.mp member)

private theorem shownNames_apart {start : String} (visible : start ≠ "")
    (apart : ∀ tag ∈ spec.tags, ∀ rest, tag.name ≠ start ++ rest) : ∀ part ∈ shownNames spec, ∀ rest, part ≠ start ++ rest := by
  intro part member rest
  rcases mem_shownNames member with rfl | ⟨tag, here, rfl⟩
  · intro same
    exact visible (String.append_eq_empty_iff.mp same.symm).1
  · exact apart tag here rest

private theorem listed_of_shownNames (plain : ∀ tag ∈ spec.tags, PlainName tag.name)
    (plain' : ∀ tag ∈ other.tags, PlainName tag.name) (same : shownNames spec = shownNames other) : Listed spec other := by
  have named : ∀ {spec : Spec}, (∀ tag ∈ spec.tags, PlainName tag.name) → spec.tags.map Tag.name ≠ [""] := by
    intro spec plain same
    obtain ⟨tag, member, name⟩ := List.mem_map.mp (same ▸ List.mem_singleton_self "")
    exact (plain tag member).nonempty name
  unfold shownNames at same
  rw [Listed]
  split at same <;> split at same
  next none _ none' => rw [none, none']
  next => exact absurd same.symm (named plain')
  next => exact absurd same (named plain)
  next => exact same

private theorem laterPieces_cons (spec : Spec) (later : List Spec) :
    laterPieces (spec :: later) = prefaced " " (shownNames spec ++ laterPieces later) := by
  obtain ⟨part, parts, found⟩ := List.exists_cons_of_ne_nil (shownNames_ne_nil spec)
  rw [laterPieces, List.flatMap_cons, ← laterPieces, found]
  rfl

private theorem shownNames_append_ne_nil (spec : Spec) (later : List String) : shownNames spec ++ later ≠ [] :=
  List.append_ne_nil_of_left_ne_nil (shownNames_ne_nil spec) later

private theorem laterPieces_ne_nil (spec : Spec) (later : List Spec) : laterPieces (spec :: later) ≠ [] := by
  rw [laterPieces_cons]
  exact prefaced_ne_nil (shownNames_append_ne_nil spec _) " "

private theorem text_positions (spec : Spec) (later : List Spec) :
    ", ".intercalate ((spec :: later).map Spec.text) = ",".intercalate (shownNames spec ++ laterPieces later) := by
  induction later generalizing spec with
  | nil =>
    rw [List.map_singleton, String.intercalate_singleton, text_shownNames, laterPieces, List.flatMap_nil, List.append_nil]
  | cons next later ih =>
    have separator : ", " = "," ++ " " := rfl
    rw [List.map_cons, List.map_cons, String.intercalate_cons_cons, ← List.map_cons, ih, text_shownNames,
      String.intercalate_append_of_ne_nil (shownNames_ne_nil spec) (laterPieces_ne_nil next later), laterPieces_cons,
      intercalate_prefaced (shownNames_append_ne_nil next _), separator]
    simp only [String.append_assoc]

theorem text_pieces (signature : Signature) : signature.text = ",".intercalate (pieces signature) := by
  cases signature with
  | uniform spec => rw [Signature.text, pieces, intercalate_prefaced (shownNames_ne_nil spec), text_shownNames]
  | positional specs =>
    cases specs with
    | nil => rfl
    | cons spec later => exact text_positions spec later

private theorem pieces_ne_nil (signature : Signature) : pieces signature ≠ [] := by
  cases signature with
  | uniform spec => exact prefaced_ne_nil (shownNames_ne_nil spec) "..."
  | positional specs =>
    cases specs with
    | nil => exact List.cons_ne_nil "" []
    | cons spec later => exact shownNames_append_ne_nil spec _

private theorem notMem_pieces {c : Char} (space : c ≠ ' ') (dot : c ≠ '.')
    (absent : ∀ spec ∈ declared first, ∀ tag ∈ spec.tags, c ∉ tag.name.toList) : ∀ piece ∈ pieces first, c ∉ piece.toList := by
  have inside : ∀ spec ∈ declared first, ∀ part ∈ shownNames spec, c ∉ part.toList := by
    intro spec member part shown
    rcases mem_shownNames shown with rfl | ⟨tag, here, rfl⟩
    · exact List.not_mem_nil
    · exact absent spec member tag here
  cases first with
  | uniform spec => exact notMem_prefaced (by simp [dot]) (inside spec List.mem_cons_self)
  | positional specs =>
    cases specs with
    | nil =>
      intro piece member
      obtain rfl := List.mem_singleton.mp member
      exact List.not_mem_nil
    | cons spec later =>
      intro piece member
      rcases List.mem_append.mp member with here | behind
      · exact inside spec List.mem_cons_self piece here
      · obtain ⟨next, among, shown⟩ := List.mem_flatMap.mp behind
        exact notMem_prefaced (by simp [space]) (inside next (List.mem_cons_of_mem _ among)) piece shown

private theorem pieces_injective (plain : Plain first) (plain' : Plain second) (shown : first.text = second.text) :
    pieces first = pieces second := by
  rw [text_pieces, text_pieces] at shown
  refine intercalate_injective (pieces_ne_nil first) (pieces_ne_nil second) ?_ ?_ shown
  · exact notMem_pieces (by decide) (by decide) fun spec member tag here => (plain spec member tag here).comma
  · exact notMem_pieces (by decide) (by decide) fun spec member tag here => (plain' spec member tag here).comma

/-- Where what follows begins with a part of a kind that is not found in front of it, the whole tells the two apart. -/
private theorem append_unique {α : Type} {begins : α → Prop} {parts others later later' : List α}
    (inside : ∀ part ∈ parts, ¬begins part) (inside' : ∀ part ∈ others, ¬begins part)
    (begun : ∀ part ∈ later.head?, begins part) (begun' : ∀ part ∈ later'.head?, begins part)
    (same : parts ++ later = others ++ later') : parts = others ∧ later = later' := by
  induction parts generalizing others with
  | nil =>
    rw [List.nil_append] at same
    cases others with
    | nil => exact ⟨rfl, same⟩
    | cons other others => exact absurd (begun other (by simp [same])) (inside' other List.mem_cons_self)
  | cons part parts ih =>
    cases others with
    | nil =>
      rw [List.nil_append] at same
      exact absurd (begun' part (by simp [← same])) (inside part List.mem_cons_self)
    | cons other others =>
      obtain ⟨rfl, tails⟩ := List.cons.inj same
      obtain ⟨rfl, ends⟩ := ih (fun part member => inside part (List.mem_cons_of_mem _ member))
        (fun part member => inside' part (List.mem_cons_of_mem _ member)) tails
      exact ⟨rfl, ends⟩

private def Begins (piece : String) : Prop :=
  ∃ rest, piece = " " ++ rest

private theorem laterPieces_begun (specs : List Spec) : ∀ piece ∈ (laterPieces specs).head?, Begins piece := by
  intro piece first
  cases specs with
  | nil => cases first
  | cons spec later =>
    obtain ⟨head, tail, found⟩ := List.exists_cons_of_ne_nil (shownNames_append_ne_nil spec (laterPieces later))
    rw [laterPieces_cons, found] at first
    cases first
    exact ⟨head, rfl⟩

private theorem shownNames_inside (plain : ∀ tag ∈ spec.tags, PlainName tag.name) : ∀ part ∈ shownNames spec, ¬Begins part := by
  rintro part member ⟨rest, same⟩
  exact shownNames_apart (by decide) (fun tag here => (plain tag here).space) part member rest same

private theorem laterPieces_unique {later later' : List Spec} (plain : Plain (.positional later))
    (plain' : Plain (.positional later')) (same : laterPieces later = laterPieces later') :
    List.Forall₂ Listed later later' := by
  induction later generalizing later' with
  | nil =>
    cases later' with
    | nil => exact .nil
    | cons other later' => exact absurd same.symm (laterPieces_ne_nil other later')
  | cons spec later ih =>
    cases later' with
    | nil => exact absurd same (laterPieces_ne_nil spec later)
    | cons other later' =>
      have here := plain spec List.mem_cons_self
      have here' := plain' other List.mem_cons_self
      rw [laterPieces_cons, laterPieces_cons] at same
      obtain ⟨names, behind⟩ := append_unique (shownNames_inside here) (shownNames_inside here') (laterPieces_begun later)
        (laterPieces_begun later') (prefaced_injective same)
      refine .cons (listed_of_shownNames here here' names) (ih ?_ ?_ behind)
      · exact fun spec member => plain spec (List.mem_cons_of_mem _ member)
      · exact fun spec member => plain' spec (List.mem_cons_of_mem _ member)

private theorem positions_unique {later later' : List Spec} (plain : Plain (.positional (spec :: later)))
    (plain' : Plain (.positional (other :: later')))
    (same : shownNames spec ++ laterPieces later = shownNames other ++ laterPieces later') :
    List.Forall₂ Listed (spec :: later) (other :: later') := by
  apply laterPieces_unique plain plain'
  rw [laterPieces_cons, laterPieces_cons, same]

/-- The signatures list the same names at each position, or one has no position and the other one none with a tag. -/
inductive ShownAlike : Signature → Signature → Prop
  | listed {first second : Signature} (each : Pointwise Listed first second) : ShownAlike first second
  | untagged {spec : Spec} (none : spec.tags = []) : ShownAlike (.positional []) (.positional [spec])
  | untagged' {spec : Spec} (none : spec.tags = []) : ShownAlike (.positional [spec]) (.positional [])

private theorem untagged_of_pieces {later : List Spec} (plain : Plain (.positional (spec :: later)))
    (same : shownNames spec ++ laterPieces later = [""]) : spec.tags = [] ∧ later = [] := by
  have plain' : Plain (.positional [.choice []]) := by
    intro spec member tag here
    obtain rfl := List.mem_singleton.mp member
    cases here
  cases positions_unique plain plain' same with
  | cons listed rest => exact ⟨List.map_eq_nil_iff.mp listed, List.forall₂_nil_right_iff.mp rest⟩

private theorem shownNames_ne_dotted (plain : ∀ tag ∈ spec.tags, PlainName tag.name) (later : List String) :
    shownNames spec ++ later ≠ prefaced "..." (shownNames other) := by
  intro same
  have apart : ∀ part ∈ shownNames spec, ∀ rest, part ≠ "..." ++ rest :=
    shownNames_apart (by decide) fun tag here => (plain tag here).dots
  obtain ⟨part, parts, found⟩ := List.exists_cons_of_ne_nil (shownNames_ne_nil spec)
  obtain ⟨head, tail, found'⟩ := List.exists_cons_of_ne_nil (shownNames_ne_nil other)
  rw [found, found'] at same
  rw [found] at apart
  exact apart part List.mem_cons_self head (List.cons.inj same).1

private theorem positional_ne_uniform {specs : List Spec} (plain : Plain (.positional specs)) :
    pieces (.positional specs) ≠ pieces (.uniform other) := by
  cases specs with
  | nil =>
    have untagged : ∀ tag ∈ (Spec.choice []).tags, PlainName tag.name := fun tag here => absurd here List.not_mem_nil
    exact shownNames_ne_dotted untagged []
  | cons spec later => exact shownNames_ne_dotted (plain spec List.mem_cons_self) (laterPieces later)

private theorem positional_of_pieces {specs others : List Spec} (plain : Plain (.positional specs))
    (plain' : Plain (.positional others)) (same : pieces (.positional specs) = pieces (.positional others)) :
    ShownAlike (.positional specs) (.positional others) := by
  cases specs with
  | nil =>
    cases others with
    | nil => exact .listed (.positional .nil)
    | cons other later =>
      obtain ⟨none, rfl⟩ := untagged_of_pieces plain' same.symm
      exact .untagged none
  | cons spec later =>
    cases others with
    | nil =>
      obtain ⟨none, rfl⟩ := untagged_of_pieces plain same
      exact .untagged' none
    | cons other later' => exact .listed (.positional (positions_unique plain plain' same))

private theorem text_of_listed (listed : Listed spec other) : spec.text = other.text :=
  congrArg ",".intercalate listed

private theorem ShownAlike.text_eq (alike : ShownAlike first second) : first.text = second.text := by
  have empty : ∀ {spec : Spec}, spec.tags = [] → (Signature.positional [spec]).text = "" := by
    intro spec none
    rw [Signature.text, List.map_singleton, String.intercalate_singleton, Spec.text, none]
    rfl
  cases alike with
  | untagged none => exact (empty none).symm
  | untagged' none => exact empty none
  | listed each =>
    cases each with
    | uniform listed => rw [Signature.text, Signature.text, text_of_listed listed]
    | positional each =>
      have texts := List.forall₂_map_left_iff.mpr (List.forall₂_map_right_iff.mpr (each.imp fun _ _ => text_of_listed))
      rw [List.forall₂_eq_eq_eq] at texts
      rw [Signature.text, Signature.text, texts]

/-- Where all names are plain, the parameters that are shown tell the signature, but for whether it has no position or
one without a tag. -/
theorem signature_text_eq_iff (plain : Plain first) (plain' : Plain second) :
    first.text = second.text ↔ ShownAlike first second := by
  refine ⟨fun shown => ?_, ShownAlike.text_eq⟩
  have same := pieces_injective plain plain' shown
  cases first with
  | positional specs =>
    cases second with
    | positional others => exact positional_of_pieces plain plain' same
    | uniform other => exact absurd same (positional_ne_uniform plain)
  | uniform spec =>
    cases second with
    | positional others => exact absurd same.symm (positional_ne_uniform plain')
    | uniform other =>
      exact .listed (.uniform (listed_of_shownNames (plain spec List.mem_cons_self) (plain' other List.mem_cons_self)
        (prefaced_injective same)))

/-- A name that is not plain may be shown like several. -/
example : (Signature.positional [.single (.custom ⟨"a,b"⟩)]).text =
    (Signature.positional [.choice [.custom ⟨"a"⟩, .custom ⟨"b"⟩]]).text := by
  decide

private theorem notMem_text (plain : Plain first) : '(' ∉ first.text.toList := by
  rw [text_pieces]
  exact notMem_intercalate (by decide)
    (notMem_pieces (by decide) (by decide) fun spec member tag here => (plain spec member tag here).bracket)

/-- The name of a function may have brackets of its own, but the one that ends it is the last in the text. -/
theorem guard_text_eq_iff {guard other : Guard} (plain : Plain guard.signature) (plain' : Plain other.signature) :
    guard.text = other.text ↔ guard.name = other.name ∧ ShownAlike guard.signature other.signature := by
  rw [← signature_text_eq_iff plain plain']
  constructor
  · intro shown
    have closed := (String.append_left_inj ")").mp shown
    have chars : guard.name.toList ++ '(' :: guard.signature.text.toList =
        other.name.toList ++ '(' :: other.signature.text.toList := by
      simpa using congrArg String.toList closed
    have backwards := congrArg List.reverse chars
    simp only [List.reverse_append, List.reverse_cons, List.append_assoc, List.singleton_append] at backwards
    have outside : ∀ {signature}, Plain signature → ∀ c ∈ signature.text.toList.reverse, ¬c = '(' := by
      rintro signature plain c member rfl
      exact notMem_text plain (List.mem_reverse.mp member)
    obtain ⟨signatures, names⟩ := append_unique (outside plain) (outside plain') (by simp) (by simp) backwards
    obtain ⟨-, names⟩ := List.cons.inj names
    exact ⟨String.toList_inj.mp (List.reverse_injective names), String.toList_inj.mp (List.reverse_injective signatures)⟩
  · rintro ⟨name, signature⟩
    rw [Guard.text, Guard.text, name, signature]

end TypeGuard.Proofs
