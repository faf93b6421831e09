import BucketRegion.LocationCache

/-!
# Laws of the location cache

What an association list with one entry a key holds after a value is put in or a key is erased,
and from it what the cache holds after a region is stored or a bucket is forgotten. Other buckets
keep their regions, and no bucket ever has two entries.
-/

set_option autoImplicit false

namespace BucketRegion.Fields

variable {α : Type}

theorem get?_cons (key : String) (field : String × α) (fields : List (String × α)) :
    get? key (field :: fields) = if key = field.1 then some field.2 else get? key fields := by
  obtain ⟨name, value⟩ := field
  by_cases same : key = name
  · subst same
    simp [get?]
  · have different : (key == name) = false := by simpa using same
    simp [get?, List.lookup_cons, different, same]

theorem get?_put (key other : String) (value : α) (fields : List (String × α)) :
    get? other (put key value fields) =
      if other = key then some value else get? other fields := by
  induction fields with
  | nil => simp [put, get?_cons]
  | cons field fields ih =>
      obtain ⟨name, held⟩ := field
      by_cases same : name = key
      · subst same
        simp only [put, beq_self_eq_true, if_true, get?_cons]
        split <;> rfl
      · have different : (name == key) = false := by simpa using same
        simp only [put, different, Bool.false_eq_true, if_false, get?_cons, ih]
        by_cases asked : other = name
        · subst asked
          simp [same]
        · simp [asked]

theorem get?_erase (key other : String) (fields : List (String × α)) :
    get? other (erase key fields) = if other = key then none else get? other fields := by
  induction fields with
  | nil => simp [erase, get?]
  | cons field fields ih =>
      have rest : erase key (field :: fields) =
          if field.1 = key then erase key fields else field :: erase key fields := by
        by_cases same : field.1 = key <;> simp [erase, same]
      rw [rest]
      by_cases same : field.1 = key
      · rw [if_pos same, ih, get?_cons]
        by_cases asked : other = key <;> simp [asked, same]
      · rw [if_neg same, get?_cons, get?_cons, ih]
        by_cases asked : other = field.1 <;> simp [asked, same]

/-- The keys of a list of fields, in their order. -/
def keys (fields : List (String × α)) : List String := fields.map (·.1)

theorem mem_keys_iff (key : String) (fields : List (String × α)) :
    key ∈ keys fields ↔ (get? key fields).isSome = true := by
  induction fields with
  | nil => simp [keys, get?]
  | cons field fields ih =>
      rw [get?_cons]
      by_cases same : key = field.1
      · simp [keys, same]
      · rw [if_neg same, ← ih]
        simp [keys, same]

theorem keys_put (key : String) (value : α) (fields : List (String × α)) :
    keys (put key value fields) =
      if key ∈ keys fields then keys fields else keys fields ++ [key] := by
  induction fields with
  | nil => simp [keys, put]
  | cons field fields ih =>
      obtain ⟨name, held⟩ := field
      by_cases same : name = key
      · subst same
        simp [keys, put]
      · have different : (name == key) = false := by simpa using same
        have other : ¬ key = name := fun equal => same equal.symm
        simp only [keys] at ih
        simp only [keys, put, different, Bool.false_eq_true, if_false, List.map_cons, ih,
          List.mem_cons, other, false_or]
        by_cases member : key ∈ fields.map (·.1) <;> simp [member]

theorem get?_of_mem {key : String} {value : α} {fields : List (String × α)}
    (unique : (keys fields).Nodup) (member : (key, value) ∈ fields) :
    get? key fields = some value := by
  induction fields with
  | nil => cases member
  | cons field fields ih =>
      obtain ⟨apart, unique⟩ := List.nodup_cons.mp unique
      rw [get?_cons]
      rcases List.mem_cons.mp member with first | later
      · simp [← first]
      · have different : key ≠ field.1 := by
          rintro rfl
          exact apart (List.mem_map.mpr ⟨_, later, rfl⟩)
        rw [if_neg different]
        exact ih unique later

theorem nodup_keys_put {key : String} {value : α} {fields : List (String × α)}
    (unique : (keys fields).Nodup) : (keys (put key value fields)).Nodup := by
  rw [keys_put]
  split
  · exact unique
  · next absent =>
      rw [List.nodup_append]
      refine ⟨unique, by simp, ?_⟩
      intro name member added equal same
      have sameKey : name = key := by simp_all
      exact absent (sameKey ▸ member)

theorem nodup_keys_erase {key : String} {fields : List (String × α)}
    (unique : (keys fields).Nodup) : (keys (erase key fields)).Nodup :=
  unique.sublist (List.filter_sublist.map _)

end BucketRegion.Fields

namespace BucketRegion.LocationCache

@[simp] theorem get?_empty (bucket : String) : empty.get? bucket = none := rfl

@[simp] theorem get?_set (cache : LocationCache) (bucket other region : String) :
    (cache.set bucket region).get? other =
      if other = bucket then some region else cache.get? other :=
  Fields.get?_put bucket other region cache.entries

@[simp] theorem get?_delete (cache : LocationCache) (bucket other : String) :
    (cache.delete bucket).get? other = if other = bucket then none else cache.get? other :=
  Fields.get?_erase bucket other cache.entries

/-- The buckets that have an entry, in order of first storing. -/
def buckets (cache : LocationCache) : List String := Fields.keys cache.entries

theorem mem_buckets_iff (cache : LocationCache) (bucket : String) :
    bucket ∈ cache.buckets ↔ (cache.get? bucket).isSome = true :=
  Fields.mem_keys_iff bucket cache.entries

theorem nodup_buckets_set {cache : LocationCache} {bucket region : String}
    (unique : cache.buckets.Nodup) : (cache.set bucket region).buckets.Nodup :=
  Fields.nodup_keys_put unique

theorem nodup_buckets_delete {cache : LocationCache} {bucket : String}
    (unique : cache.buckets.Nodup) : (cache.delete bucket).buckets.Nodup :=
  Fields.nodup_keys_erase unique

end BucketRegion.LocationCache
