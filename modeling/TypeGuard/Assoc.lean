/-! Lists of key and value that remember the order in which keys arrived. Writing to a present key
changes its value and moves nothing; a new key goes to the end. -/

namespace TypeGuard.Assoc

variable {κ β : Type} [DecidableEq κ]

def keys (entries : List (κ × β)) : List κ :=
  entries.map Prod.fst

def get? (key : κ) : List (κ × β) → Option β
  | [] => none
  | (k, b) :: rest => if k = key then some b else get? key rest

def put (key : κ) (value : β) : List (κ × β) → List (κ × β)
  | [] => [(key, value)]
  | (k, b) :: rest => if k = key then (k, value) :: rest else (k, b) :: put key value rest

def erase (key : κ) : List (κ × β) → List (κ × β)
  | [] => []
  | (k, b) :: rest => if k = key then rest else (k, b) :: erase key rest

/-- Builds from left to right, so a repeated key keeps its first place and its last value. -/
def ofList (entries : List (κ × β)) : List (κ × β) :=
  entries.foldl (fun built (key, value) => put key value built) []

@[simp] theorem get?_nil (key : κ) : get? key ([] : List (κ × β)) = none := rfl

@[simp] theorem get?_put_self (key : κ) (value : β) (entries : List (κ × β)) :
    get? key (put key value entries) = some value := by
  induction entries with
  | nil => simp [put, get?]
  | cons entry rest ih =>
    obtain ⟨k, b⟩ := entry
    by_cases same : k = key <;> simp [put, get?, same, ih]

theorem get?_put_of_ne {key other : κ} (different : other ≠ key) (value : β)
    (entries : List (κ × β)) : get? other (put key value entries) = get? other entries := by
  induction entries with
  | nil => simp [put, get?, Ne.symm different]
  | cons entry rest ih =>
    obtain ⟨k, b⟩ := entry
    by_cases same : k = key
    · subst same
      simp [put, get?, Ne.symm different]
    · by_cases found : k = other
      · subst found
        simp [put, get?, same]
      · simp [put, get?, same, found, ih]

/-- A present key keeps its place and a new one comes last. -/
theorem keys_put (key : κ) (value : β) (entries : List (κ × β)) :
    keys (put key value entries) =
      if key ∈ keys entries then keys entries else keys entries ++ [key] := by
  induction entries with
  | nil => simp [put, keys]
  | cons entry rest ih =>
    obtain ⟨k, b⟩ := entry
    by_cases same : k = key
    · subst same
      simp [put, keys]
    · simp only [put, same, if_false]
      simp only [keys, List.map_cons] at ih ⊢
      rw [ih]
      by_cases member : key ∈ rest.map Prod.fst
      · simp [member]
      · simp [member, Ne.symm same]

theorem mem_of_get?_eq_some {key : κ} {value : β} {entries : List (κ × β)} (found : get? key entries = some value) :
    (key, value) ∈ entries := by
  induction entries with
  | nil => simp at found
  | cons entry rest ih =>
    obtain ⟨k, b⟩ := entry
    by_cases same : k = key
    · simp only [get?, same, if_true, Option.some.injEq] at found
      simp [same, found]
    · simp only [get?, same, if_false] at found
      exact List.mem_cons_of_mem _ (ih found)

theorem get?_eq_none_iff {key : κ} {entries : List (κ × β)} : get? key entries = none ↔ key ∉ keys entries := by
  induction entries with
  | nil => simp [keys]
  | cons entry rest ih =>
    obtain ⟨k, b⟩ := entry
    simp only [keys] at ih
    by_cases same : k = key
    · simp [get?, keys, same]
    · simp [get?, keys, same, ih, Ne.symm same]

/-- Where no key is repeated, look-up finds every entry. -/
theorem get?_eq_some_iff {key : κ} {value : β} {entries : List (κ × β)} (distinct : (keys entries).Nodup) :
    get? key entries = some value ↔ (key, value) ∈ entries := by
  refine ⟨mem_of_get?_eq_some, ?_⟩
  intro member
  induction entries with
  | nil => simp at member
  | cons entry rest ih =>
    obtain ⟨k, b⟩ := entry
    simp only [keys, List.map_cons, List.nodup_cons] at distinct
    rcases List.mem_cons.mp member with here | later
    · cases here
      simp [get?]
    · have different : k ≠ key := by
        rintro rfl
        exact distinct.1 (List.mem_map_of_mem later)
      simpa [get?, different] using ih distinct.2 later

theorem nodup_keys_put (key : κ) (value : β) {entries : List (κ × β)} (distinct : (keys entries).Nodup) :
    (keys (put key value entries)).Nodup := by
  rw [keys_put]
  split
  · exact distinct
  · next absent =>
    refine List.nodup_append.mpr ⟨distinct, List.pairwise_singleton _ _, ?_⟩
    intro earlier member last here same
    rw [List.mem_singleton.mp here] at same
    exact absent (same ▸ member)

theorem nodup_keys_ofList (entries : List (κ × β)) : (keys (ofList entries)).Nodup := by
  have built : ∀ start : List (κ × β), (keys start).Nodup →
      (keys (entries.foldl (fun built (key, value) => put key value built) start)).Nodup := by
    induction entries with
    | nil => exact fun start distinct => distinct
    | cons entry rest ih => exact fun start distinct => ih _ (nodup_keys_put entry.1 entry.2 distinct)
  exact built [] .nil

/-- The last entry of a key counts. -/
theorem get?_ofList (key : κ) (entries : List (κ × β)) : get? key (ofList entries) = entries.reverse.lookup key := by
  have built : ∀ start : List (κ × β),
      get? key (entries.foldl (fun built (key, value) => put key value built) start) =
        (entries.reverse.lookup key).or (get? key start) := by
    induction entries with
    | nil => exact fun start => rfl
    | cons entry rest ih =>
      intro start
      obtain ⟨k, b⟩ := entry
      rw [List.foldl_cons, ih, List.reverse_cons, List.lookup_append, Option.or_assoc]
      congr 1
      by_cases same : k = key
      · subst same
        simp
      · have other : (key == k) = false := beq_false_of_ne (Ne.symm same)
        simp [List.lookup_cons, other, get?_put_of_ne (Ne.symm same)]
  rw [ofList, built, get?_nil, Option.or_none]

/-- Where no key is repeated, the order of the entries makes no difference to look-up. -/
theorem get?_perm (key : κ) {entries others : List (κ × β)} (perm : entries.Perm others) (distinct : (keys entries).Nodup) :
    get? key entries = get? key others := by
  have distinct' : (keys others).Nodup := (perm.map Prod.fst).nodup_iff.mp distinct
  apply Option.ext
  intro value
  rw [get?_eq_some_iff distinct, get?_eq_some_iff distinct', perm.mem_iff]

/-- Lists of the same distinct keys, in the same order, are equal if look-up finds the same in them. -/
theorem ext_get? {entries others : List (κ × β)} (distinct : (keys entries).Nodup) (same : keys entries = keys others)
    (found : ∀ key, get? key entries = get? key others) : entries = others := by
  induction entries generalizing others with
  | nil => exact (List.map_eq_nil_iff.mp same.symm).symm
  | cons entry rest ih =>
    obtain ⟨key, value⟩ := entry
    obtain ⟨⟨other, last⟩, later, rfl, rfl, sameRest⟩ := List.map_eq_cons_iff.mp same.symm
    obtain ⟨absent, distinctRest⟩ : other ∉ keys rest ∧ (keys rest).Nodup := List.nodup_cons.mp distinct
    obtain rfl : value = last := by simpa [get?] using found other
    congr 1
    refine ih distinctRest sameRest.symm fun key => ?_
    by_cases here : other = key
    · subst here
      have absent' : other ∉ keys later := by rwa [keys, sameRest]
      rw [get?_eq_none_iff.mpr absent, get?_eq_none_iff.mpr absent']
    · simpa [get?, here] using found key

end TypeGuard.Assoc
