import Mathlib.Data.List.Induction

/-! Python dictionaries as lists of their items in the order of insertion. A key
that is set again keeps its place, and one that is removed and set again goes to
the end. -/

namespace Effects

variable {key : String}

/-- Assignment to a key of a Python dictionary: a known key keeps its place. -/
def Dict.set (key : String) (value : α) : List (String × α) → List (String × α)
  | [] => [(key, value)]
  | field :: rest => if field.1 = key then (key, value) :: rest else field :: Dict.set key value rest

def Dict.ofPairs (pairs : List (String × α)) : List (String × α) :=
  pairs.foldl (fun fields pair => Dict.set pair.1 pair.2 fields) []

/-- `fields.pop(key, None)` -/
def Dict.remove (key : String) (fields : List (String × α)) : List (String × α) :=
  fields.filter (fun field => field.1 ≠ key)

namespace Dict

variable {fields : List (String × α)} {value : α}

theorem set_fresh (fresh : key ∉ fields.map Prod.fst) : Dict.set key value fields = fields ++ [(key, value)] := by
  induction fields with
  | nil => rfl
  | cons field rest ih =>
    simp only [List.map_cons, List.mem_cons, not_or] at fresh
    simp [Dict.set, Ne.symm fresh.1, ih fresh.2]

theorem keys_set_known (known : key ∈ fields.map Prod.fst) :
    (Dict.set key value fields).map Prod.fst = fields.map Prod.fst := by
  induction fields with
  | nil => cases known
  | cons field rest ih =>
    simp only [Dict.set]
    split
    next same => simp [same]
    next different =>
      have later : key ∈ rest.map Prod.fst := by simpa [Ne.symm different] using known
      simp [ih later]

theorem mem_set {field : String × α} (member : field ∈ Dict.set key value fields) :
    field = (key, value) ∨ field ∈ fields := by
  induction fields with
  | nil => exact .inl (by simpa [Dict.set] using member)
  | cons first rest ih =>
    simp only [Dict.set] at member
    split at member <;> grind

theorem mem_keys_set {key other : String} :
    other ∈ (Dict.set key value fields).map Prod.fst ↔ other = key ∨ other ∈ fields.map Prod.fst := by
  induction fields with
  | nil => simp [Dict.set]
  | cons first rest ih =>
    simp only [Dict.set]
    split <;> grind

theorem nodup_set (nodup : (fields.map Prod.fst).Nodup) : ((Dict.set key value fields).map Prod.fst).Nodup := by
  induction fields with
  | nil => simp [Dict.set]
  | cons first rest ih =>
    simp only [List.map_cons, List.nodup_cons] at nodup
    simp only [Dict.set]
    split
    next same => simpa [← same] using nodup
    next different =>
      simp only [List.map_cons, List.nodup_cons]
      exact ⟨fun member => (mem_keys_set.mp member).elim different nodup.1, ih nodup.2⟩

theorem lookup_field (key : String) (field : String × α) (rest : List (String × α)) :
    (field :: rest).lookup key = if key = field.1 then some field.2 else rest.lookup key := by
  obtain ⟨name, value⟩ := field
  rw [List.lookup_cons]
  by_cases same : key = name
  · simp [same]
  · rw [beq_false_of_ne same, if_neg same]

theorem lookup_set (key other : String) (value : α) (fields : List (String × α)) :
    (Dict.set key value fields).lookup other = if other = key then some value else fields.lookup other := by
  induction fields with
  | nil => simp [Dict.set, lookup_field]
  | cons first rest ih =>
    simp only [Dict.set]
    split <;> simp only [lookup_field] <;> grind

theorem foldl_set_fresh {pairs fields : List (String × α)} (nodup : ((fields ++ pairs).map Prod.fst).Nodup) :
    pairs.foldl (fun fields pair => Dict.set pair.1 pair.2 fields) fields = fields ++ pairs := by
  induction pairs generalizing fields with
  | nil => simp
  | cons pair rest ih =>
    have fresh : pair.1 ∉ fields.map Prod.fst := by
      intro member
      rw [List.map_append, List.map_cons] at nodup
      exact (List.nodup_append.mp nodup).2.2 _ member _ (by simp) rfl
    rw [List.foldl_cons, set_fresh fresh, ih (by simpa using nodup)]
    simp

theorem ofPairs_of_nodup {pairs : List (String × α)} (nodup : (pairs.map Prod.fst).Nodup) :
    Dict.ofPairs pairs = pairs :=
  foldl_set_fresh (by simpa using nodup)

theorem ofPairs_invariant {pairs : List (String × α)} (invariant : List (String × α) → Prop) (empty : invariant [])
    (sets : ∀ pair ∈ pairs, ∀ fields, invariant fields → invariant (Dict.set pair.1 pair.2 fields)) :
    invariant (Dict.ofPairs pairs) := by
  unfold Dict.ofPairs
  induction pairs using List.reverseRecOn with
  | nil => exact empty
  | append_singleton pairs pair ih =>
    rw [List.foldl_append]
    exact sets pair (by simp) _ (ih (fun other member => sets other (by simp [member])))

theorem lookup_isSome {key : String} {fields : List (String × α)} :
    (fields.lookup key).isSome = true ↔ key ∈ fields.map Prod.fst := by
  rw [List.lookup_isSome_iff]
  simp only [beq_iff_eq, List.mem_map]
  constructor <;> exact fun ⟨field, member, same⟩ => ⟨field, member, same.symm⟩

theorem mem_of_lookup (found : fields.lookup key = some value) : (key, value) ∈ fields := by
  obtain ⟨before, after, split, -⟩ := List.lookup_eq_some_iff.mp found
  simp [split]

theorem lookup_of_mem (nodup : (fields.map Prod.fst).Nodup) (member : (key, value) ∈ fields) :
    fields.lookup key = some value := by
  induction fields with
  | nil => cases member
  | cons field rest ih =>
    simp only [List.map_cons, List.nodup_cons] at nodup
    rcases List.mem_cons.mp member with rfl | later
    · simp
    · have different : key ≠ field.1 := by
        rintro rfl
        exact nodup.1 (List.mem_map.mpr ⟨_, later, rfl⟩)
      rw [lookup_field, if_neg different]
      exact ih nodup.2 later

theorem mem_remove {field : String × α} : field ∈ Dict.remove key fields ↔ field ∈ fields ∧ field.1 ≠ key := by
  simp [Dict.remove]

theorem nodup_remove (nodup : (fields.map Prod.fst).Nodup) : ((Dict.remove key fields).map Prod.fst).Nodup :=
  nodup.sublist (List.filter_sublist.map _)

theorem lookup_remove (key other : String) (fields : List (String × α)) :
    (Dict.remove key fields).lookup other = if other = key then none else fields.lookup other := by
  unfold Dict.remove
  induction fields with
  | nil => simp
  | cons field rest ih =>
    by_cases same : field.1 = key <;> simp only [List.filter, lookup_field, same] <;> grind

/-- A dictionary comprehension keeps the last value of each key. -/
theorem lookup_ofPairs (key : String) (pairs : List (String × α)) :
    (Dict.ofPairs pairs).lookup key = pairs.reverse.lookup key := by
  unfold Dict.ofPairs
  induction pairs using List.reverseRecOn with
  | nil => rfl
  | append_singleton pairs pair ih =>
    rw [List.foldl_append, List.foldl_cons, List.foldl_nil, lookup_set, ih, List.reverse_append]
    rw [List.reverse_singleton, List.singleton_append, lookup_field]

end Dict
end Effects
