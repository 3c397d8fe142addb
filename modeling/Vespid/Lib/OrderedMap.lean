import Mathlib.Data.List.Lookmap

/-!
# Insertion-ordered maps

Association lists in which writing a present key keeps its place and writing a new key
appends it. Lookup is `List.lookup`.
-/

namespace OrderedMap
variable {κ ν : Type} [DecidableEq κ]

/-- Write `value` under `key`, in place when the key is present. -/
def set : List (κ × ν) → κ → ν → List (κ × ν)
  | [], key, value => [(key, value)]
  | (k, v) :: rest, key, value =>
    if k = key then (key, value) :: rest else (k, v) :: set rest key value

/-- Write the entries of `overrides` in order. -/
def merge (base overrides : List (κ × ν)) : List (κ × ν) :=
  overrides.foldl (fun acc entry => set acc entry.1 entry.2) base

@[simp] theorem lookup_set_self (m : List (κ × ν)) (key : κ) (value : ν) :
    (set m key value).lookup key = some value := by
  induction m with
  | nil => simp [set]
  | cons entry rest ih =>
    obtain ⟨k, v⟩ := entry
    by_cases same : k = key
    · simp [set, same]
    · have miss : (key == k) = false := by simpa using Ne.symm same
      simp [set, same, List.lookup_cons, miss, ih]

theorem lookup_set_other (m : List (κ × ν)) {key other : κ} (value : ν) (different : other ≠ key) :
    (set m key value).lookup other = m.lookup other := by
  induction m with
  | nil =>
    have miss : (other == key) = false := by simpa using different
    simp [set, List.lookup_cons, miss]
  | cons entry rest ih =>
    obtain ⟨k, v⟩ := entry
    by_cases same : k = key
    · subst same
      have miss : (other == k) = false := by simpa using different
      simp [set, List.lookup_cons, miss]
    · simp only [set, same, ↓reduceIte, List.lookup_cons, ih]

theorem lookup_set (m : List (κ × ν)) (key other : κ) (value : ν) :
    (set m key value).lookup other = if other = key then some value else m.lookup other := by
  by_cases same : other = key
  · simp [same]
  · simp [same, lookup_set_other m value same]

/-- A key written once, after anything else, is read back. -/
theorem lookup_merge_append_single (base overrides : List (κ × ν)) (key : κ) (value : ν) :
    (merge base (overrides ++ [(key, value)])).lookup key = some value := by
  simp [merge, List.foldl_append]

theorem lookup_isSome_iff (m : List (κ × ν)) (key : κ) :
    (m.lookup key).isSome ↔ key ∈ m.map Prod.fst := by
  induction m with
  | nil => simp
  | cons entry rest ih =>
    obtain ⟨k, v⟩ := entry
    by_cases same : key = k
    · subst same
      simp
    · have miss : (key == k) = false := by simpa using same
      simp [List.lookup_cons, miss, ih, same]

theorem keys_set_of_mem {m : List (κ × ν)} {key : κ} (value : ν) (present : key ∈ m.map Prod.fst) :
    (set m key value).map Prod.fst = m.map Prod.fst := by
  induction m with
  | nil => cases present
  | cons entry rest ih =>
    obtain ⟨k, v⟩ := entry
    by_cases same : k = key
    · simp [set, same]
    · have later : key ∈ rest.map Prod.fst := by
        rcases List.mem_cons.mp present with here | later
        · exact (same here.symm).elim
        · exact later
      simp [set, same, ih later]

/-- A new key goes to the end. -/
theorem set_of_not_mem {m : List (κ × ν)} {key : κ} (value : ν) (absent : key ∉ m.map Prod.fst) :
    set m key value = m ++ [(key, value)] := by
  induction m with
  | nil => rfl
  | cons entry rest ih =>
    obtain ⟨k, v⟩ := entry
    simp only [List.map_cons, List.mem_cons, not_or] at absent
    have other : k ≠ key := Ne.symm absent.1
    simp [set, other, ih absent.2]

theorem nodup_keys_set {m : List (κ × ν)} (distinct : (m.map Prod.fst).Nodup) (key : κ) (value : ν) :
    ((set m key value).map Prod.fst).Nodup := by
  by_cases present : key ∈ m.map Prod.fst
  · rw [keys_set_of_mem value present]
    exact distinct
  · rw [set_of_not_mem value present, List.map_append]
    refine List.nodup_append.mpr ⟨distinct, by simp, ?_⟩
    rintro k mem other only rfl
    obtain rfl := List.mem_singleton.mp only
    exact present mem

theorem mem_set {m : List (κ × ν)} {key : κ} {value : ν} {entry : κ × ν}
    (mem : entry ∈ set m key value) : entry ∈ m ∨ entry = (key, value) := by
  induction m with
  | nil => exact .inr (List.mem_singleton.mp mem)
  | cons first rest ih =>
    obtain ⟨k, v⟩ := first
    rw [set] at mem
    split at mem
    · obtain here | later := List.mem_cons.mp mem
      · exact .inr here
      · exact .inl (List.mem_cons_of_mem _ later)
    · obtain here | later := List.mem_cons.mp mem
      · exact .inl (here ▸ List.mem_cons_self)
      · obtain old | new := ih later
        · exact .inl (List.mem_cons_of_mem _ old)
        · exact .inr new

theorem lookup_of_mem {m : List (κ × ν)} (distinct : (m.map Prod.fst).Nodup) {key : κ} {value : ν}
    (mem : (key, value) ∈ m) : m.lookup key = some value := by
  induction m with
  | nil => cases mem
  | cons entry rest ih =>
    obtain ⟨k, v⟩ := entry
    rw [List.map_cons, List.nodup_cons] at distinct
    rcases List.mem_cons.mp mem with same | later
    · cases same
      simp
    · have other : (key == k) = false := by
        have : key ≠ k := by
          intro same
          subst same
          exact distinct.1 (List.mem_map.mpr ⟨_, later, rfl⟩)
        simpa using this
      rw [List.lookup_cons, other]
      exact ih distinct.2 later

end OrderedMap
