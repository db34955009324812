import Mathlib.Data.List.Induction
import TypeGuard.Registry

/-! What is done to a registry, and what has become of it then. Under each built-in type stand the tags
registered there, in the order of their first registration, and each has the check that came last for it
under any built-in type. The last operation settles whether custom types are switched on. -/

namespace TypeGuard.Proofs

inductive Operation
  | register (root : BuiltinType) (tag : CustomType) (check : CheckId)
  | switch (enabled : Bool)
  deriving DecidableEq

namespace Operation

def perform (registry : Registry) : Operation → Registry
  | .register root tag check => registry.place root tag check
  | .switch enabled => { registry with enabled }

def places (root : BuiltinType) (tag : CustomType) : Operation → Bool
  | .register type other _ => decide ((root, tag) = (type, other))
  | .switch _ => false

def checkFor? (tag : CustomType) : Operation → Option CheckId
  | .register _ other check => if other = tag then some check else none
  | .switch _ => none

def registers : Operation → Bool
  | .register _ _ _ => true
  | .switch _ => false

def enables : Operation → Bool
  | .register _ _ _ => true
  | .switch enabled => enabled

end Operation

/-- A registry opened with the settings, after the operations. -/
def performed (settings : Registry.Settings) (history : List Operation) : Registry :=
  history.foldl Operation.perform (.ofSettings settings)

variable {settings : Registry.Settings} {history : List Operation} {root : BuiltinType} {tag : CustomType}

theorem performed_append (operation : Operation) :
    performed settings (history ++ [operation]) = operation.perform (performed settings history) := by
  rw [performed, List.foldl_append]
  rfl

private theorem isPlaced_performed :
    (performed settings history).isPlaced root tag = history.any (Operation.places root tag) := by
  induction history using List.reverseRecOn with
  | nil => rfl
  | append_singleton history operation ih =>
    rw [performed_append, List.any_append, ← ih]
    cases operation with
    | switch enabled => exact (Bool.or_false _).symm
    | register type other check =>
      rw [Bool.eq_iff_iff, Operation.perform, Registry.isPlaced_place, Bool.or_eq_true, List.any_cons, List.any_nil,
        Bool.or_false, Operation.places, decide_eq_true_iff]

private theorem findIdx_append (placed : history.any (Operation.places root tag) = true) (operation : Operation) :
    (history ++ [operation]).findIdx (Operation.places root tag) = history.findIdx (Operation.places root tag) := by
  rw [List.findIdx_append, if_pos (List.findIdx_lt_length_of_exists (List.any_eq_true.mp placed))]

private theorem ordered_performed (settings : Registry.Settings) (history : List Operation) (root : BuiltinType) :
    ((performed settings history).tagsUnder root).Pairwise fun earlier later =>
      history.findIdx (Operation.places root earlier) < history.findIdx (Operation.places root later) := by
  induction history using List.reverseRecOn with
  | nil => exact .nil
  | append_singleton history operation ih =>
    have registered : ∀ tag ∈ (performed settings history).tagsUnder root,
        history.any (Operation.places root tag) = true := by
      intro tag member
      rw [← isPlaced_performed, Registry.mem_tagsUnder.mp member]
    have kept : ((performed settings history).tagsUnder root).Pairwise fun earlier later =>
        (history ++ [operation]).findIdx (Operation.places root earlier) <
          (history ++ [operation]).findIdx (Operation.places root later) := by
      refine ih.imp_of_mem fun {earlier later} first second before => ?_
      rwa [findIdx_append (registered earlier first), findIdx_append (registered later second)]
    rw [performed_append]
    cases operation with
    | switch enabled => exact kept
    | register type tag check =>
      rw [Operation.perform, Registry.tagsUnder_place]
      split
      next new =>
        obtain ⟨rfl, absent⟩ := new
        refine List.pairwise_append.mpr ⟨kept, List.pairwise_singleton _ _, ?_⟩
        intro earlier member later last
        obtain rfl := List.mem_singleton.mp last
        rw [isPlaced_performed] at absent
        have none : history.findIdx (Operation.places root later) = history.length :=
          List.findIdx_eq_length.mpr fun operation inside =>
            Bool.eq_false_iff.mpr (List.any_eq_false.mp absent operation inside)
        rw [findIdx_append (registered earlier member), List.findIdx_append, none, if_neg (Nat.lt_irrefl _)]
        exact Nat.lt_add_left _ (List.findIdx_lt_length_of_exists (List.any_eq_true.mp (registered earlier member)))
      next => exact kept

theorem checks_performed :
    Assoc.get? tag (performed settings history).checks = history.reverse.findSome? (Operation.checkFor? tag) := by
  induction history using List.reverseRecOn with
  | nil => rfl
  | append_singleton history operation ih =>
    rw [performed_append, List.reverse_append, List.reverse_singleton, List.singleton_append]
    cases operation with
    | switch enabled => exact ih
    | register type other check =>
      by_cases same : other = tag
      · subst same
        simp [Operation.perform, Registry.place, Operation.checkFor?]
      · simp [Operation.perform, Registry.place, Operation.checkFor?, same, Assoc.get?_put_of_ne (Ne.symm same), ih]

private theorem enabled_performed :
    (performed settings history).enabled = (history.getLast?.map Operation.enables).getD settings.enabled := by
  induction history using List.reverseRecOn with
  | nil => rfl
  | append_singleton history operation _ =>
    rw [performed_append, List.getLast?_concat]
    cases operation <;> rfl

private theorem registered_iff :
    history.any (Operation.places root tag) = true ↔ ∃ check, Operation.register root tag check ∈ history := by
  rw [List.any_eq_true]
  constructor
  · rintro ⟨operation, member, placed⟩
    cases operation with
    | switch enabled => cases placed
    | register type other check =>
      cases of_decide_eq_true placed
      exact ⟨check, member⟩
  · rintro ⟨check, member⟩
    exact ⟨_, member, decide_eq_true rfl⟩

/-- What the operations on a registry since it was opened say about it. -/
structure Recorded (settings : Registry.Settings) (history : List Operation) (registry : Registry) : Prop where
  listed : ∀ root tag, tag ∈ Assoc.keys (registry.refinements root) ↔ ∃ check, Operation.register root tag check ∈ history
  distinct : ∀ root, (Assoc.keys (registry.refinements root)).Nodup
  /-- What was registered earlier for the first time stands earlier. -/
  ordered : ∀ root, (Assoc.keys (registry.refinements root)).Pairwise fun earlier later =>
    history.findIdx (Operation.places root earlier) < history.findIdx (Operation.places root later)
  /-- The check is the last one registered for the tag, under any built-in type. -/
  latest : ∀ root tag check, (tag, check) ∈ registry.refinements root →
    history.reverse.findSome? (Operation.checkFor? tag) = some check
  /-- No tag is left out for want of a check. -/
  complete : ∀ root, Assoc.keys (registry.refinements root) = registry.tagsUnder root
  refined : ∀ root, registry.isRefined root = true ↔ registry.refinements root ≠ []
  enabled : registry.enabled = (history.getLast?.map Operation.enables).getD settings.enabled

private theorem complete_performed (settings : Registry.Settings) (history : List Operation) (root : BuiltinType) :
    Assoc.keys ((performed settings history).refinements root) = (performed settings history).tagsUnder root := by
  rw [Registry.keys_refinements, List.filter_eq_self]
  intro tag member
  rw [Registry.mem_tagsUnder, isPlaced_performed, registered_iff] at member
  obtain ⟨check, registered⟩ := member
  rw [checks_performed, List.findSome?_isSome_iff]
  exact ⟨_, List.mem_reverse.mpr registered, by simp [Operation.checkFor?]⟩

private theorem distinct_performed (settings : Registry.Settings) (history : List Operation) (root : BuiltinType) :
    ((performed settings history).tagsUnder root).Nodup := by
  apply (ordered_performed settings history root).imp
  rintro earlier later before rfl
  exact Nat.lt_irrefl _ before

theorem recorded (settings : Registry.Settings) (history : List Operation) :
    Recorded settings history (performed settings history) where
  listed root tag := by
    rw [complete_performed, Registry.mem_tagsUnder, isPlaced_performed, registered_iff]
  distinct root := by
    rw [complete_performed]
    exact distinct_performed settings history root
  ordered root := by
    rw [complete_performed]
    exact ordered_performed settings history root
  latest root tag check member := by
    rw [← checks_performed, (Registry.mem_refinements.mp member).2]
  complete := complete_performed settings history
  refined root := by
    rw [Registry.isRefined, ← complete_performed, Assoc.keys]
    cases (performed settings history).refinements root <;> simp
  enabled := enabled_performed

end TypeGuard.Proofs
