import Mathlib.Data.List.Nodup

namespace SysadminAssistant.Python

/-! Insertion-ordered dictionaries.  Mathlib's `AList` keeps no order across an
update; the program iterates its dictionaries, so the order is part of the model.
The keys are distinct by construction. -/

structure Dict (κ ν : Type*) where
  entries : List (κ × ν)
  nodup : (entries.map Prod.fst).Nodup

namespace Dict

variable {κ ν : Type*} [DecidableEq κ]

def empty : Dict κ ν := ⟨[], List.nodup_nil⟩

def keys (dict : Dict κ ν) : List κ := dict.entries.map Prod.fst

def values (dict : Dict κ ν) : List ν := dict.entries.map Prod.snd

private def lookupIn (key : κ) : List (κ × ν) → Option ν
  | [] => none
  | (other, value) :: rest => if other = key then some value else lookupIn key rest

/-- `dict.get(key)`. -/
def get? (dict : Dict κ ν) (key : κ) : Option ν := lookupIn key dict.entries

private def setIn (key : κ) (value : ν) : List (κ × ν) → List (κ × ν)
  | [] => [(key, value)]
  | (other, old) :: rest =>
    if other = key then (key, value) :: rest else (other, old) :: setIn key value rest

private theorem setIn_keys (key : κ) (value : ν) (entries : List (κ × ν)) :
    (setIn key value entries).map Prod.fst =
      if key ∈ entries.map Prod.fst then entries.map Prod.fst
      else entries.map Prod.fst ++ [key] := by
  induction entries with
  | nil => simp [setIn]
  | cons entry rest ih =>
    obtain ⟨other, old⟩ := entry
    by_cases same : other = key
    · simp [setIn, same]
    · simp only [setIn, if_neg same, List.map_cons, ih, List.mem_cons, Ne.symm same, false_or]
      split <;> simp

/-- `dict[key] = value`: in place when the key is present, at the end otherwise. -/
def set (dict : Dict κ ν) (key : κ) (value : ν) : Dict κ ν where
  entries := setIn key value dict.entries
  nodup := by
    rw [setIn_keys]
    split
    · exact dict.nodup
    · rename_i fresh
      exact List.nodup_append.mpr ⟨dict.nodup, List.nodup_singleton key, by
        intro left member right single
        rw [List.mem_singleton.mp single]
        exact fun same => fresh (same ▸ member)⟩

/-- `del dict[key]`. -/
def erase (dict : Dict κ ν) (key : κ) : Dict κ ν where
  entries := dict.entries.filter fun entry => entry.1 ≠ key
  nodup := dict.nodup.sublist (List.filter_sublist.map _)

theorem keys_set (dict : Dict κ ν) (key : κ) (value : ν) :
    (dict.set key value).keys = if key ∈ dict.keys then dict.keys else dict.keys ++ [key] :=
  setIn_keys key value dict.entries

private theorem lookupIn_setIn (key other : κ) (value : ν) (entries : List (κ × ν)) :
    lookupIn other (setIn key value entries) =
      if key = other then some value else lookupIn other entries := by
  induction entries with
  | nil => simp [setIn, lookupIn]
  | cons entry rest ih =>
    obtain ⟨first, old⟩ := entry
    by_cases same : first = key
    · by_cases target : key = other <;> simp [setIn, lookupIn, same, target]
    · by_cases target : first = other
      · subst target
        simp [setIn, lookupIn, same, Ne.symm same]
      · simp only [setIn, if_neg same, lookupIn, if_neg target, ih]

theorem get?_set (dict : Dict κ ν) (key other : κ) (value : ν) :
    (dict.set key value).get? other = if key = other then some value else dict.get? other :=
  lookupIn_setIn key other value dict.entries

@[simp] theorem get?_set_self (dict : Dict κ ν) (key : κ) (value : ν) :
    (dict.set key value).get? key = some value := by simp [get?_set]

theorem get?_set_other (dict : Dict κ ν) {key other : κ} (value : ν) (different : key ≠ other) :
    (dict.set key value).get? other = dict.get? other := by simp [get?_set, different]

private theorem lookupIn_filter (key other : κ) (entries : List (κ × ν)) :
    lookupIn other (entries.filter fun entry => entry.1 ≠ key) =
      if key = other then none else lookupIn other entries := by
  induction entries with
  | nil => simp [lookupIn]
  | cons entry rest ih =>
    obtain ⟨first, value⟩ := entry
    by_cases same : first = key
    · subst same
      by_cases target : first = other
      · subst target
        simpa using ih
      · simpa [lookupIn, target] using ih
    · by_cases target : first = other
      · subst target
        simp [lookupIn, same, Ne.symm same]
      · simp only [ne_eq, same, not_false_eq_true, decide_true, List.filter_cons_of_pos,
          lookupIn, if_neg target]
        simpa using ih

theorem get?_erase (dict : Dict κ ν) (key other : κ) :
    (dict.erase key).get? other = if key = other then none else dict.get? other :=
  lookupIn_filter key other dict.entries

private theorem lookupIn_eq_some {key : κ} {value : ν} {entries : List (κ × ν)}
    (nodup : (entries.map Prod.fst).Nodup) :
    lookupIn key entries = some value ↔ (key, value) ∈ entries := by
  induction entries with
  | nil => simp [lookupIn]
  | cons entry rest ih =>
    obtain ⟨other, old⟩ := entry
    simp only [List.map_cons, List.nodup_cons] at nodup
    by_cases same : other = key
    · subst same
      have absent : (other, value) ∉ rest := fun member =>
        nodup.1 (List.mem_map.mpr ⟨_, member, rfl⟩)
      simp [lookupIn, absent, eq_comm]
    · simp [lookupIn, same, Ne.symm same, ih nodup.2]

theorem get?_eq_some {dict : Dict κ ν} {key : κ} {value : ν} :
    dict.get? key = some value ↔ (key, value) ∈ dict.entries :=
  lookupIn_eq_some dict.nodup

theorem mem_keys {dict : Dict κ ν} {key : κ} :
    key ∈ dict.keys ↔ ∃ value, dict.get? key = some value := by
  simp only [keys, List.mem_map, Prod.exists, exists_and_right, exists_eq_right, get?_eq_some]

theorem get?_isSome {dict : Dict κ ν} {key : κ} :
    (dict.get? key).isSome ↔ key ∈ dict.keys := by
  rw [mem_keys, Option.isSome_iff_exists]

theorem mem_values {dict : Dict κ ν} {value : ν} :
    value ∈ dict.values ↔ ∃ key, dict.get? key = some value := by
  simp only [values, List.mem_map, Prod.exists, exists_eq_right, get?_eq_some]

@[simp] theorem get?_empty (key : κ) : (empty : Dict κ ν).get? key = none := rfl

/-- A dictionary display, or a loop that assigns one entry after another. -/
def ofEntries (entries : List (κ × ν)) : Dict κ ν :=
  entries.foldl (fun dict entry => dict.set entry.1 entry.2) empty

private theorem get?_foldl_set {entries : List (κ × ν)} {key : κ} (dict : Dict κ ν)
    (absent : key ∉ entries.map Prod.fst) :
    (entries.foldl (fun dict entry => dict.set entry.1 entry.2) dict).get? key = dict.get? key := by
  induction entries generalizing dict with
  | nil => rfl
  | cons entry rest ih =>
    simp only [List.map_cons, List.mem_cons, not_or] at absent
    rw [List.foldl_cons, ih _ absent.2, get?_set_other _ _ (Ne.symm absent.1)]

theorem get?_ofEntries_absent {entries : List (κ × ν)} {key : κ}
    (absent : key ∉ entries.map Prod.fst) : (ofEntries entries).get? key = none :=
  get?_foldl_set empty absent

theorem get?_ofEntries {entries : List (κ × ν)} (nodup : (entries.map Prod.fst).Nodup)
    {key : κ} {value : ν} (member : (key, value) ∈ entries) :
    (ofEntries entries).get? key = some value := by
  obtain ⟨before, after, shape⟩ := List.append_of_mem member
  subst shape
  have later : key ∉ after.map Prod.fst := by
    simp only [List.map_append, List.map_cons, List.nodup_append, List.nodup_cons] at nodup
    exact nodup.2.1.1
  rw [ofEntries, List.foldl_append, List.foldl_cons, get?_foldl_set _ later, get?_set_self]

theorem get?_ofEntries_mem {entries : List (κ × ν)} {key : κ} {value : ν}
    (found : (ofEntries entries).get? key = some value) : (key, value) ∈ entries := by
  have grown : ∀ (rest : List (κ × ν)) (dict : Dict κ ν),
      (rest.foldl (fun dict entry => dict.set entry.1 entry.2) dict).get? key = some value →
        dict.get? key = some value ∨ (key, value) ∈ rest := by
    intro rest
    induction rest with
    | nil => exact fun dict found => Or.inl found
    | cons entry rest ih =>
      intro dict found
      rcases ih _ found with early | late
      · rw [get?_set] at early
        split at early
        · rename_i same
          exact Or.inr (by simp [← same, ← Option.some.inj early])
        · exact Or.inl early
      · exact Or.inr (List.mem_cons_of_mem _ late)
  rcases grown entries empty found with impossible | member
  · simp at impossible
  · exact member

theorem exists_get?_ofEntries {entries : List (κ × ν)} {key : κ} {value : ν}
    (member : (key, value) ∈ entries) : ∃ kept, (ofEntries entries).get? key = some kept := by
  have grown : ∀ (rest : List (κ × ν)) (dict : Dict κ ν), (∃ kept, dict.get? key = some kept) ∨
      (key, value) ∈ rest →
      ∃ kept, (rest.foldl (fun dict entry => dict.set entry.1 entry.2) dict).get? key = some kept := by
    intro rest
    induction rest with
    | nil => exact fun dict known => known.resolve_right List.not_mem_nil
    | cons entry rest ih =>
      intro dict known
      refine ih _ ?_
      rw [get?_set]
      by_cases same : entry.1 = key
      · exact Or.inl ⟨entry.2, if_pos same⟩
      · rw [if_neg same]
        refine known.imp_right fun inside => (List.mem_cons.mp inside).resolve_left ?_
        intro here
        exact same (congrArg Prod.fst here).symm
  exact grown entries empty (Or.inr member)

/-- `dict.update(newer)`. -/
def update (dict newer : Dict κ ν) : Dict κ ν :=
  newer.entries.foldl (fun dict entry => dict.set entry.1 entry.2) dict

private theorem get?_foldl_set_nodup {entries : List (κ × ν)} (nodup : (entries.map Prod.fst).Nodup)
    (dict : Dict κ ν) (key : κ) :
    (entries.foldl (fun dict entry => dict.set entry.1 entry.2) dict).get? key =
      (lookupIn key entries).or (dict.get? key) := by
  induction entries generalizing dict with
  | nil => rfl
  | cons entry rest ih =>
    obtain ⟨first, value⟩ := entry
    obtain ⟨fresh, distinct⟩ := List.nodup_cons.mp nodup
    rw [List.foldl_cons]
    by_cases same : first = key
    · subst same
      simp [get?_foldl_set _ fresh, lookupIn]
    · rw [ih distinct, get?_set_other _ _ same]
      simp [lookupIn, same]

theorem get?_update (dict newer : Dict κ ν) (key : κ) :
    (dict.update newer).get? key = (newer.get? key).or (dict.get? key) :=
  get?_foldl_set_nodup newer.nodup dict key

theorem get?_foldl_erase (removed : List κ) (dict : Dict κ ν) (key : κ) :
    (removed.foldl erase dict).get? key = if key ∈ removed then none else dict.get? key := by
  induction removed generalizing dict with
  | nil => simp
  | cons first rest ih =>
    rw [List.foldl_cons, ih, get?_erase]
    by_cases later : key ∈ rest
    · simp [later]
    · by_cases same : first = key
      · simp [same]
      · simp [later, same, Ne.symm same]

/-- Every value rewritten where it stands. -/
def mapValues (dict : Dict κ ν) (change : κ → ν → ν) : Dict κ ν where
  entries := dict.entries.map fun entry => (entry.1, change entry.1 entry.2)
  nodup := by simpa [Function.comp_def] using dict.nodup

theorem get?_mapValues (dict : Dict κ ν) (change : κ → ν → ν) (key : κ) :
    (dict.mapValues change).get? key = (dict.get? key).map (change key) := by
  have rewritten : ∀ entries : List (κ × ν),
      lookupIn key (entries.map fun entry => (entry.1, change entry.1 entry.2)) =
        (lookupIn key entries).map (change key) := by
    intro entries
    induction entries with
    | nil => rfl
    | cons entry rest ih =>
      obtain ⟨first, value⟩ := entry
      by_cases same : first = key
      · simp [lookupIn, same]
      · simp [lookupIn, same, ih]
  exact rewritten dict.entries

theorem countP_entries (dict : Dict κ ν) (key : κ) (taken : ν → Bool) :
    dict.entries.countP (fun entry => entry.1 = key && taken entry.2) =
      if (dict.get? key).any taken then 1 else 0 := by
  obtain ⟨entries, nodup⟩ := dict
  change _ = if (lookupIn key entries).any taken then 1 else 0
  induction entries with
  | nil => rfl
  | cons entry rest ih =>
    obtain ⟨first, value⟩ := entry
    obtain ⟨fresh, distinct⟩ := List.nodup_cons.mp nodup
    have later := ih distinct
    rw [List.countP_cons]
    by_cases same : first = key
    · have absent : lookupIn key rest = none := by
        cases found : lookupIn key rest with
        | none => rfl
        | some other =>
          have member := (lookupIn_eq_some distinct).mp found
          exact absurd (List.mem_map.mpr ⟨_, member, rfl⟩) (same ▸ fresh)
      rw [later, absent]
      simp [lookupIn, same]
    · rw [later]
      simp [lookupIn, same]

theorem countP_set_le (dict : Dict κ ν) (key : κ) (value : ν) (taken : ν → Bool) :
    (dict.set key value).values.countP taken ≤ dict.values.countP taken + if taken value then 1
      else 0 := by
  obtain ⟨entries, nodup⟩ := dict
  simp only [values, set]
  clear nodup
  induction entries with
  | nil => simp [setIn, List.countP_cons]
  | cons entry rest ih =>
    obtain ⟨other, old⟩ := entry
    simp only [setIn]
    split
    · simp only [List.map_cons, List.countP_cons]
      omega
    · simp only [List.map_cons, List.countP_cons]
      omega

theorem countP_foldl_erase_le (removed : List κ) (dict : Dict κ ν) (taken : ν → Bool) :
    (removed.foldl erase dict).values.countP taken ≤ dict.values.countP taken := by
  induction removed generalizing dict with
  | nil => exact Nat.le_refl _
  | cons key rest ih =>
    exact Nat.le_trans (ih (dict.erase key)) (List.filter_sublist.map Prod.snd).countP_le

omit [DecidableEq κ] in
theorem countP_mapValues (dict : Dict κ ν) (change : κ → ν → ν) (taken : ν → Bool)
    (same : ∀ key value, taken (change key value) = taken value) :
    (dict.mapValues change).values.countP taken = dict.values.countP taken := by
  simp only [values, mapValues, List.map_map, List.countP_map]
  apply List.countP_congr
  intro entry _
  simp [same]

end Dict

end SysadminAssistant.Python
