import TypeGuard.Proofs.RegistryCopy

/-! What one more registration does to classification, where checks answer by the value alone. A tag that is new
under a built-in type comes last there and names only what had no custom type. A tag that stands there already
keeps its place, so that a new check for it never touches what an earlier tag names. -/

namespace TypeGuard.Proofs

def AnswersBy (dispatch : Dispatch) (answers : CheckId → Value → Option CustomType) (check : CheckId) : Prop :=
  ∀ value before, ∃ after, dispatch.check check value before = some (answers check value, after)

def nameBy (answers : CheckId → Value → Option CustomType) (value : Value) (entries : Refinements) : Tag :=
  match entries.find? fun entry => answers entry.2 value = some entry.1 with
  | some entry => .custom entry.1
  | none => .builtin value.builtinType

variable {dispatch : Dispatch} {answers : CheckId → Value → Option CustomType} {value : Value} {entries : Refinements}

private theorem firstAnswering_settled {kept : World → Prop} {before : World}
    (settled : ∀ entry ∈ entries, ∀ start, kept start →
      ∃ final, dispatch.check entry.2 value start = some (answers entry.2 value, final) ∧ kept final) (held : kept before) :
    ∃ after, firstAnswering dispatch value entries before =
      some ((entries.find? fun entry => answers entry.2 value = some entry.1).map Prod.fst, after) ∧ kept after := by
  induction entries generalizing before with
  | nil => exact ⟨before, rfl, held⟩
  | cons entry entries ih =>
    obtain ⟨tag, check⟩ := entry
    obtain ⟨middle, called, still⟩ := settled _ List.mem_cons_self before held
    rw [firstAnswering, bind_run, called, Option.bind_some, List.find?_cons]
    by_cases own : answers check value = some tag
    · exact ⟨middle, by simp [own, pure_run], still⟩
    · obtain ⟨after, ran, last⟩ := ih (fun entry member => settled entry (List.mem_cons_of_mem _ member)) still
      exact ⟨after, by simp [own, ran], last⟩

/-- Where checks answer by the value alone as long as something holds that they keep, a classification comes to an end,
and with the name that they give. -/
theorem classify_settled {kept : World → Prop} {registry : RegistryId} {before : World}
    (settled : ∀ entry ∈ (before.registries registry).refinements value.builtinType, ∀ start, kept start →
      ∃ final, dispatch.check entry.2 value start = some (answers entry.2 value, final) ∧ kept final) (held : kept before) :
    ∃ after, classify dispatch registry value before =
      some (nameBy answers value ((before.registries registry).refinements value.builtinType), after) ∧ kept after := by
  obtain ⟨after, ran, still⟩ := firstAnswering_settled settled held
  refine ⟨after, ?_, still⟩
  rw [classify, bind_run, read_run, Option.bind_some, bind_run, ran, nameBy]
  cases List.find? _ _ <;> rfl

theorem classify_pure {registry : RegistryId} {before : World}
    (settled : ∀ entry ∈ (before.registries registry).refinements value.builtinType, AnswersBy dispatch answers entry.2) :
    ∃ after, classify dispatch registry value before =
      some (nameBy answers value ((before.registries registry).refinements value.builtinType), after) := by
  have always : ∀ entry ∈ (before.registries registry).refinements value.builtinType, ∀ start, True →
      ∃ final, dispatch.check entry.2 value start = some (answers entry.2 value, final) ∧ True := by
    intro entry member start _
    obtain ⟨final, called⟩ := settled entry member value start
    exact ⟨final, called, trivial⟩
  obtain ⟨after, named, -⟩ := classify_settled always trivial
  exact ⟨after, named⟩

private theorem nameBy_append (first later : Refinements) :
    nameBy answers value (first ++ later) =
      match first.find? fun entry => answers entry.2 value = some entry.1 with
      | some entry => .custom entry.1
      | none => nameBy answers value later := by
  rw [nameBy, List.find?_append]
  cases first.find? fun entry => answers entry.2 value = some entry.1 <;> rfl

private theorem nameBy_cons (tag : CustomType) (check : CheckId) (later : Refinements) :
    nameBy answers value ((tag, check) :: later) =
      if answers check value = some tag then .custom tag else nameBy answers value later := by
  rw [nameBy, List.find?_cons]
  by_cases own : answers check value = some tag
  · simp [own]
  · simp [own, nameBy]

section Place
variable {registry : Registry} {root other : BuiltinType} {tag : CustomType} {check : CheckId}

private theorem refinements_place (reachable : Reachable registry) :
    (registry.place root tag check).refinements other = renewed [(tag, check)] (registry.refinements other) ++
      if other = root then unlisted (registry.refinements root) [(tag, check)] else [] := by
  have distinct : (Assoc.keys [(tag, check)]).Nodup := List.pairwise_singleton _ tag
  exact refinements_placedAll reachable distinct

private theorem mem_refinements_place {entry : CustomType × CheckId}
    (member : entry ∈ (registry.place root tag check).refinements other) :
    entry ∈ registry.refinements other ∨ entry = (tag, check) := by
  obtain ⟨label, given⟩ := entry
  obtain ⟨listed, checked⟩ := Registry.mem_refinements.mp member
  rw [Registry.mem_tagsUnder, Registry.isPlaced_place] at listed
  by_cases same : label = tag
  · subst same
    exact .inr (congrArg (label, ·) (Option.some.inj (checked.symm.trans (Assoc.get?_put_self ..))))
  · have placed : registry.isPlaced other label = true := listed.resolve_right fun pair => same (congrArg Prod.snd pair)
    refine .inl (Registry.mem_refinements.mpr ⟨Registry.mem_tagsUnder.mpr placed, ?_⟩)
    exact (Assoc.get?_put_of_ne same ..).symm.trans checked

private theorem renewed_of_notMem (absent : tag ∉ Assoc.keys entries) : renewed [(tag, check)] entries = entries := by
  refine (List.map_congr_left fun entry member => ?_).trans (List.map_id _)
  have different : tag ≠ entry.1 := by
    intro same
    exact absent (same ▸ List.mem_map_of_mem member)
  simp [Assoc.get?, different]

private theorem refinements_place_new (reachable : Reachable registry) (absent : tag ∉ Assoc.keys (registry.refinements root)) :
    (registry.place root tag check).refinements root = registry.refinements root ++ [(tag, check)] := by
  rw [refinements_place reachable, renewed_of_notMem absent, if_pos rfl]
  congr 1
  exact List.filter_eq_self.mpr (by simpa using absent)

private theorem refinements_place_known (reachable : Reachable registry) {front later : Refinements} {replaced : CheckId}
    (split : registry.refinements other = front ++ (tag, replaced) :: later) :
    (registry.place root tag check).refinements other = front ++ (tag, check) :: later := by
  have distinct := reachable.distinct other
  have known : tag ∈ Assoc.keys (registry.refinements other) := by simp [split, Assoc.keys]
  have nothing : (if other = root then unlisted (registry.refinements root) [(tag, check)] else []) = [] := by
    by_cases same : other = root
    · subst same
      rw [if_pos rfl]
      exact List.filter_eq_nil_iff.mpr (by simpa using known)
    · exact if_neg same
  rw [split, Assoc.keys, List.map_append, List.map_cons] at distinct
  obtain ⟨-, last, apart⟩ := List.nodup_append.mp distinct
  have before : renewed [(tag, check)] front = front :=
    renewed_of_notMem fun member => apart tag member tag List.mem_cons_self rfl
  have after : renewed [(tag, check)] later = later := renewed_of_notMem (List.nodup_cons.mp last).1
  have here : renewed [(tag, check)] [(tag, replaced)] = [(tag, check)] := by simp [renewed, Assoc.get?]
  rw [refinements_place reachable, nothing, List.append_nil, split, List.append_cons front, renewed, List.map_append,
    List.map_append, ← renewed, ← renewed, ← renewed, before, here, after, ← List.append_cons]

end Place

/-- How the name of a value goes from an old to a new one, as a tag is registered under a root with a check that gives
an answer on the value. -/
structure Conservative (before after : Registry) (root : BuiltinType) (tag : CustomType) (type : BuiltinType)
    (answer : Option CustomType) (old new : Tag) : Prop where
  elsewhere : tag ∉ after.tagsUnder type → new = old
  /-- A new tag takes over just what had no custom type, and of that just what its own check claims. -/
  added : tag ∉ before.tagsUnder type → type = root →
    new = if old = .builtin type ∧ answer = some tag then .custom tag else old
  preceding : ∀ front later earlier, before.tagsUnder type = front ++ tag :: later → earlier ∈ front →
    old = .custom earlier → new = .custom earlier
  replaced : tag ∈ before.tagsUnder type → new ≠ old → old = .custom tag ∨ new = .custom tag

section Names
variable {tag earlier : CustomType} {front later : Refinements} {replaced check : CheckId}

private theorem mem_keys_of_nameBy (named : nameBy answers value entries = .custom tag) : tag ∈ Assoc.keys entries := by
  rw [nameBy] at named
  split at named
  next entry found =>
    rw [← Tag.custom.inj named]
    exact List.mem_map_of_mem (List.mem_of_find?_eq_some found)
  next => cases named

private theorem nameBy_last (entries : Refinements) (tag : CustomType) (check : CheckId) :
    nameBy answers value (entries ++ [(tag, check)]) =
      if nameBy answers value entries = .builtin value.builtinType ∧ answers check value = some tag then .custom tag
      else nameBy answers value entries := by
  rw [nameBy_append]
  cases found : entries.find? fun entry => answers entry.2 value = some entry.1 with
  | some entry => simp [nameBy, found]
  | none =>
    have unnamed : nameBy answers value entries = .builtin value.builtinType := by rw [nameBy, found]
    rw [unnamed]
    by_cases own : answers check value = some tag <;> simp [nameBy, own]

private theorem nameBy_before (distinct : (Assoc.keys (front ++ (tag, replaced) :: later)).Nodup)
    (member : earlier ∈ Assoc.keys front) (named : nameBy answers value (front ++ (tag, replaced) :: later) = .custom earlier) :
    nameBy answers value (front ++ (tag, check) :: later) = .custom earlier := by
  rw [nameBy_append] at named ⊢
  cases found : front.find? fun entry => answers entry.2 value = some entry.1 with
  | some entry => simpa [found] using named
  | none =>
    rw [found] at named
    have behind : earlier ∈ Assoc.keys ((tag, replaced) :: later) := mem_keys_of_nameBy named
    rw [Assoc.keys, List.map_append] at distinct
    exact absurd rfl ((List.nodup_append.mp distinct).2.2 earlier member earlier behind)

private theorem nameBy_replaced (changed : nameBy answers value (front ++ (tag, check) :: later) ≠
      nameBy answers value (front ++ (tag, replaced) :: later)) :
    nameBy answers value (front ++ (tag, replaced) :: later) = .custom tag ∨
      nameBy answers value (front ++ (tag, check) :: later) = .custom tag := by
  rw [nameBy_append, nameBy_append] at *
  cases found : front.find? fun entry => answers entry.2 value = some entry.1 with
  | some entry => simp [found] at changed
  | none =>
    simp only [found, nameBy_cons] at changed ⊢
    by_cases first : answers replaced value = some tag
    · exact .inl (if_pos first)
    · by_cases second : answers check value = some tag
      · exact .inr (if_pos second)
      · exact absurd (by rw [if_neg first, if_neg second]) changed

end Names

private theorem refinements_split {registry : Registry} (reachable : Reachable registry) {type : BuiltinType}
    {front later : List CustomType} {tag : CustomType} (split : registry.tagsUnder type = front ++ tag :: later) :
    ∃ first replaced rest, registry.refinements type = first ++ (tag, replaced) :: rest ∧ Assoc.keys first = front := by
  rw [← reachable.complete, Assoc.keys, List.map_eq_append_iff] at split
  obtain ⟨first, second, parts, same, others⟩ := split
  obtain ⟨⟨label, replaced⟩, rest, rfl, rfl, -⟩ := List.map_eq_cons_iff.mp others
  exact ⟨first, replaced, rest, parts, same⟩

private theorem conservative_place (answers : CheckId → Value → Option CustomType) {registry : Registry}
    (reachable : Reachable registry) (root : BuiltinType) (tag : CustomType) (check : CheckId) (value : Value) :
    Conservative registry (registry.place root tag check) root tag value.builtinType (answers check value)
      (nameBy answers value (registry.refinements value.builtinType))
      (nameBy answers value ((registry.place root tag check).refinements value.builtinType)) where
  elsewhere absent := by
    rw [Registry.mem_tagsUnder, Registry.isPlaced_place, not_or, ← Registry.mem_tagsUnder, ← reachable.complete] at absent
    have other : value.builtinType ≠ root := fun same => absent.2 (by rw [same])
    rw [refinements_place reachable, renewed_of_notMem absent.1, if_neg other, List.append_nil]
  added absent here := by
    rw [← reachable.complete, here] at absent
    rw [here, refinements_place_new reachable absent, ← here]
    exact nameBy_last ..
  preceding front later earlier split member := by
    obtain ⟨first, replaced, rest, parts, rfl⟩ := refinements_split reachable split
    rw [refinements_place_known reachable parts, parts]
    exact nameBy_before (parts ▸ reachable.distinct value.builtinType) member
  replaced known := by
    obtain ⟨front, later, split⟩ := List.append_of_mem known
    obtain ⟨first, replaced, rest, parts, -⟩ := refinements_split reachable split
    rw [refinements_place_known reachable parts, parts]
    exact nameBy_replaced

/-- Where the checks of a registry and one that is registered answer by the value alone, every value has a name before
and one after the registration. The two are the same if the tag is not under the type of the value even then. A tag that
is new there takes over just what had no custom type and is claimed by its check; one that stood there already keeps
its place, so that names before it stay and no other name than its own comes or goes. -/
theorem registration_conservative (dispatch : Dispatch) (answers : CheckId → Value → Option CustomType) (steps : List Step)
    (id : RegistryId) (root : BuiltinType) (tag : CustomType) (check : CheckId) (value : Value)
    (settled : ∀ entry ∈ ((taken World.start steps).registries id).refinements value.builtinType,
      AnswersBy dispatch answers entry.2) (answering : AnswersBy dispatch answers check) :
    ∃ old new middle after, classify dispatch id value (taken World.start steps) = some (old, middle) ∧
      classify dispatch id value (taken World.start (steps ++ [.operate id (.register root tag check)])) = some (new, after) ∧
      Conservative ((taken World.start steps).registries id)
        ((taken World.start (steps ++ [.operate id (.register root tag check)])).registries id) root tag value.builtinType
        (answers check value) old new := by
  have reachable := reachable_taken steps id
  rw [taken_append]
  generalize taken World.start steps = world at *
  have placed : (taken world [.operate id (.register root tag check)]).registries id =
      (world.registries id).place root tag check := if_pos rfl
  have settled' : ∀ entry ∈ ((world.registries id).place root tag check).refinements value.builtinType,
      AnswersBy dispatch answers entry.2 := by
    intro entry member
    rcases mem_refinements_place member with held | rfl
    · exact settled entry held
    · exact answering
  rw [← placed] at settled'
  obtain ⟨middle, first⟩ := classify_pure settled
  obtain ⟨after, second⟩ := classify_pure settled'
  rw [placed] at second ⊢
  exact ⟨_, _, middle, after, first, second, conservative_place answers reachable root tag check value⟩

/-- Three checks of which the first claims nothing, and each other one everything for one tag. -/
def claimingChecks : Script.Library where
  rules := #[⟨"idle", [(.never, ⟨"tag"⟩)]⟩, ⟨"eager", [(.always, ⟨"tag"⟩)]⟩, ⟨"other", [(.always, ⟨"other"⟩)]⟩]

def claimed (check : CheckId) (_ : Value) : Option CustomType :=
  if check = ⟨1⟩ then some ⟨"tag"⟩ else if check = ⟨2⟩ then some ⟨"other"⟩ else none

def idleFirst : List Step :=
  [.operate .shared (.register .string ⟨"tag"⟩ ⟨0⟩), .operate .shared (.register .string ⟨"other"⟩ ⟨2⟩)]

/-- As the tag is registered for objects, its new check takes a string over from the other tag. -/
theorem registration_conservative_other_root :
    (∀ entry ∈ ((taken World.start idleFirst).registries .shared).refinements .string,
      AnswersBy (claimingChecks.host.dispatch 1) claimed entry.2) ∧
    AnswersBy (claimingChecks.host.dispatch 1) claimed ⟨1⟩ ∧
      Conservative ((taken World.start idleFirst).registries .shared)
        ((taken World.start (idleFirst ++ [.operate .shared (.register .object ⟨"tag"⟩ ⟨1⟩)])).registries .shared)
        .object ⟨"tag"⟩ .string (some ⟨"tag"⟩) (.custom ⟨"other"⟩) (.custom ⟨"tag"⟩) := by
  have answering : ∀ check, AnswersBy (claimingChecks.host.dispatch 1) claimed check := by
    intro check value before
    obtain ⟨_ | _ | _ | index⟩ := check
    · exact ⟨_, rfl⟩
    · exact ⟨_, rfl⟩
    · exact ⟨_, rfl⟩
    · exact ⟨_, rfl⟩
  have settled : ∀ entry ∈ ((taken World.start idleFirst).registries .shared).refinements .string,
      AnswersBy (claimingChecks.host.dispatch 1) claimed entry.2 := fun entry _ => answering entry.2
  obtain ⟨old, new, middle, after, first, second, conservative⟩ :=
    registration_conservative (claimingChecks.host.dispatch 1) claimed idleFirst .shared .object ⟨"tag"⟩ ⟨1⟩ (.string "x")
      settled (answering ⟨1⟩)
  cases first
  cases second
  exact ⟨settled, answering ⟨1⟩, conservative⟩

end TypeGuard.Proofs
