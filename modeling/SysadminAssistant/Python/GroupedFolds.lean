import Mathlib.Data.List.Dedup
import Mathlib.Data.List.Sort
import SysadminAssistant.Library.RaisingLoops
import SysadminAssistant.Python.Dict

namespace SysadminAssistant.Python.Dict

/-! A loop that joins each item to the entry of its key, and a listing of the entries it leaves. -/

variable {κ ν ι ρ : Type*} [DecidableEq κ]

def joinAt (key : ι → κ) (join : Option ν → ι → ν) (dict : Dict κ ν) (item : ι) : Dict κ ν :=
  dict.set (key item) (join (dict.get? (key item)) item)

theorem get?_foldl_joinAt {key : ι → κ} {join : Option ν → ι → ν} (items : List ι) (dict : Dict κ ν)
    (wanted : κ) : (items.foldl (joinAt key join) dict).get? wanted =
      (items.filter fun item => key item = wanted).foldl (fun old item => some (join old item))
        (dict.get? wanted) := by
  induction items generalizing dict with
  | nil => rfl
  | cons item rest ih =>
    rw [List.foldl_cons, ih, joinAt]
    by_cases same : key item = wanted
    · rw [List.filter_cons_of_pos (by simpa using same), List.foldl_cons, ← same, get?_set_self]
    · rw [List.filter_cons_of_neg (by simpa using same), get?_set_other _ _ same]

theorem exists_of_get?_foldl_joinAt {key : ι → κ} {join : Option ν → ι → ν} {items : List ι}
    {wanted : κ} {value : ν}
    (found : (items.foldl (joinAt key join) empty).get? wanted = some value) :
    ∃ item ∈ items, key item = wanted := by
  by_contra none
  have absent : items.filter (fun item => key item = wanted) = [] := by
    refine List.filter_eq_nil_iff.mpr ?_
    intro item member same
    exact none ⟨item, member, of_decide_eq_true same⟩
  rw [get?_foldl_joinAt, absent] at found
  cases found

theorem entries_filter {dict : Dict κ ν} {key : κ} {value : ν} (found : dict.get? key = some value) :
    dict.entries.filter (fun entry => entry.1 = key) = [(key, value)] := by
  obtain ⟨before, after, shape⟩ := List.append_of_mem (get?_eq_some.mp found)
  have distinct := dict.nodup
  rw [shape, List.map_append, List.map_cons] at distinct
  have absent := List.nodup_middle.mp distinct
  have none : ∀ entry ∈ before ++ after, entry.1 ≠ key := by
    intro entry member same
    refine (List.nodup_cons.mp absent).1 ?_
    rw [← List.map_append]
    exact List.mem_map.mpr ⟨entry, member, same⟩
  have front : before.filter (fun entry => entry.1 = key) = [] := by
    simpa [List.filter_eq_nil_iff] using fun entry member => none entry (List.mem_append_left _ member)
  have back : after.filter (fun entry => entry.1 = key) = [] := by
    simpa [List.filter_eq_nil_iff] using fun entry member =>
      none entry (List.mem_append_right _ member)
  rw [shape, List.filter_append, front, List.filter_cons_of_pos (by simp), back, List.nil_append]

theorem rows_filter {dict : Dict κ ν} {row : κ → ν → ρ} {name : ρ → κ}
    (named : ∀ key value, name (row key value) = key) {rows : List ρ}
    (made : rows.Perm (dict.entries.map fun entry => row entry.1 entry.2)) {key : κ} {value : ν}
    (found : dict.get? key = some value) :
    rows.filter (fun listed => name listed = key) = [row key value] := by
  have filtered := made.filter fun listed => name listed = key
  rw [List.filter_map] at filtered
  have keys : (fun entry : κ × ν => decide (name (row entry.1 entry.2) = key)) = fun entry =>
      decide (entry.1 = key) := by
    funext entry
    rw [named]
  change (rows.filter _).Perm ((dict.entries.filter fun entry =>
    decide (name (row entry.1 entry.2) = key)).map _) at filtered
  rw [keys, entries_filter found] at filtered
  exact List.perm_singleton.mp filtered

/-! A table of lists: each value is appended to the list of its key. -/

/-- `table.setdefault(key, []).append(value)` for each pair. -/
def gather (pairs : List (κ × ν)) : Dict κ (List ν) :=
  pairs.foldl (joinAt Prod.fst fun old pair => old.getD [] ++ [pair.2]) empty

/-- The values of a key. -/
def valuesAt (pairs : List (κ × ν)) (key : κ) : List ν :=
  (pairs.filter fun pair => pair.1 = key).map Prod.snd

theorem mem_valuesAt {pairs : List (κ × ν)} {key : κ} {value : ν} :
    value ∈ valuesAt pairs key ↔ (key, value) ∈ pairs := by
  simp [valuesAt]

theorem get?_gather (pairs : List (κ × ν)) (key : κ) :
    (gather pairs).get? key = if valuesAt pairs key = [] then none else some (valuesAt pairs key) := by
  have joined : ∀ (those : List (κ × ν)) (start : Option (List ν)),
      those.foldl (fun old pair => some (old.getD [] ++ [pair.2])) start =
        if those = [] then start else some (start.getD [] ++ those.map Prod.snd) := by
    intro those
    induction those with
    | nil => intro start; simp
    | cons pair rest ih =>
      intro start
      rw [List.foldl_cons, ih]
      by_cases last : rest = [] <;> simp [last]
  rw [gather, get?_foldl_joinAt, joined, get?_empty]
  simp only [valuesAt, List.map_eq_nil_iff, Option.getD_none, List.nil_append]

theorem getD_gather (pairs : List (κ × ν)) (key : κ) :
    ((gather pairs).get? key).getD [] = valuesAt pairs key := by
  rw [get?_gather]
  split
  · rename_i none
    rw [none]
    rfl
  · rfl

theorem mem_gather {pairs : List (κ × ν)} {key : κ} {values : List ν} :
    (key, values) ∈ (gather pairs).entries ↔ values ≠ [] ∧ values = valuesAt pairs key := by
  rw [← get?_eq_some, get?_gather]
  split
  · rename_i none
    simp only [none, reduceCtorEq, false_iff, not_and]
    exact fun nonempty empty => nonempty empty
  · rename_i some
    rw [Option.some.injEq]
    constructor
    · intro same
      exact ⟨same ▸ some, same.symm⟩
    · exact fun named => named.2.symm

theorem sorted_gather [LinearOrder κ] (pairs : List (κ × ν)) :
    ((gather pairs).entries.insertionSort fun left right => left.1 ≤ right.1) =
      ((pairs.map Prod.fst).dedup.insertionSort (· ≤ ·)).map fun key => (key, valuesAt pairs key) := by
  have keysDistinct : ((pairs.map Prod.fst).dedup.insertionSort (· ≤ ·)).Nodup :=
    (List.perm_insertionSort _ _).nodup_iff.mpr (List.nodup_dedup _)
  have same : ((gather pairs).entries).Perm
      (((pairs.map Prod.fst).dedup.insertionSort (· ≤ ·)).map fun key =>
        (key, valuesAt pairs key)) := by
    refine (List.perm_ext_iff_of_nodup (List.Nodup.of_map Prod.fst (gather pairs).nodup) ?_).mpr ?_
    · exact keysDistinct.map fun left right pair => (Prod.mk.inj pair).1
    · intro entry
      obtain ⟨key, values⟩ := entry
      rw [mem_gather]
      simp only [List.mem_map, List.mem_insertionSort, List.mem_dedup, Prod.mk.injEq]
      constructor
      · intro listed
        obtain ⟨nonempty, rfl⟩ := listed
        obtain ⟨value, member⟩ := List.exists_mem_of_ne_nil _ nonempty
        exact ⟨key, ⟨(key, value), mem_valuesAt.mp member, rfl⟩, rfl, rfl⟩
      · intro listed
        obtain ⟨key, ⟨pair, member, rfl⟩, rfl, rfl⟩ := listed
        exact ⟨List.ne_nil_of_mem (mem_valuesAt.mpr member), rfl⟩
  refine List.Perm.eq_of_pairwise ?_ (List.pairwise_insertionSort _ _) ?_
    ((List.perm_insertionSort _ _).trans same)
  · intro left right leftMember rightMember before after
    have inside := same.mem_iff.mp ((List.mem_insertionSort _).mp leftMember)
    obtain ⟨key, _, rfl⟩ := List.mem_map.mp inside
    obtain ⟨other, _, rfl⟩ := List.mem_map.mp rightMember
    have here : key = other := le_antisymm before after
    rw [here]
  · rw [List.pairwise_map]
    exact List.pairwise_insertionSort _ _

/-! The same loop where joining may raise. -/

section

variable {ε : Type*} {key : ι → κ} {join : Option ν → ι → Except ε ν}

def joinAtM (key : ι → κ) (join : Option ν → ι → Except ε ν) (dict : Dict κ ν) (item : ι) :
    Except ε (Dict κ ν) :=
  (join (dict.get? (key item)) item).map (dict.set (key item))

/-- What is joined of the items of one key, one after another. -/
def joinedM (join : Option ν → ι → Except ε ν) (items : List ι) (start : Option ν) :
    Except ε (Option ν) :=
  items.foldlM (fun old item => (join old item).map some) start

theorem joinAtM_ok {dict next : Dict κ ν} {item : ι} : joinAtM key join dict item = .ok next ↔
    ∃ value, join (dict.get? (key item)) item = .ok value ∧ next = dict.set (key item) value := by
  rw [joinAtM]
  cases join (dict.get? (key item)) item <;> simp [Except.map, eq_comm]

theorem joinedM_cons_ok {item : ι} {rest : List ι} {start last : Option ν} :
    joinedM join (item :: rest) start = .ok last ↔
    ∃ value, join start item = .ok value ∧ joinedM join rest (some value) = .ok last := by
  rw [joinedM, Library.foldlM_cons_ok]
  cases join start item <;> simp [Except.map, joinedM]

theorem joinedM_of_foldlM {items : List ι} {dict last : Dict κ ν}
    (ran : items.foldlM (joinAtM key join) dict = .ok last) (wanted : κ) :
    joinedM join (items.filter fun item => key item = wanted) (dict.get? wanted) = .ok
    (last.get? wanted) := by
  induction items generalizing dict with
  | nil =>
    cases ran
    rfl
  | cons item rest ih =>
    obtain ⟨next, stepped, later⟩ := Library.foldlM_cons_ok.mp ran
    obtain ⟨value, joined, rfl⟩ := joinAtM_ok.mp stepped
    have after := ih later
    by_cases same : key item = wanted
    · subst same
      rw [get?_set_self] at after
      rw [List.filter_cons_of_pos (by simp)]
      exact joinedM_cons_ok.mpr ⟨value, joined, after⟩
    · rw [get?_set_other _ _ same] at after
      rwa [List.filter_cons_of_neg (by simpa using same)]

theorem exists_foldlM_joinAtM {items : List ι} {dict : Dict κ ν}
    (each : ∀ wanted, ∃ value, joinedM join (items.filter fun item => key item = wanted)
    (dict.get? wanted) = .ok value) :
    ∃ last, items.foldlM (joinAtM key join) dict = .ok last := by
  induction items generalizing dict with
  | nil => exact ⟨dict, rfl⟩
  | cons item rest ih =>
    obtain ⟨reached, here⟩ := each (key item)
    rw [List.filter_cons_of_pos (by simp)] at here
    obtain ⟨value, joined, others⟩ := joinedM_cons_ok.mp here
    have later : ∀ wanted, ∃ reached, joinedM join (rest.filter fun item => key item = wanted)
        ((dict.set (key item) value).get? wanted) = .ok reached := by
      intro wanted
      by_cases same : key item = wanted
      · subst same
        rw [get?_set_self]
        exact ⟨reached, others⟩
      · obtain ⟨found, ran⟩ := each wanted
        rw [List.filter_cons_of_neg (by simpa using same)] at ran
        rw [get?_set_other _ _ same]
        exact ⟨found, ran⟩
    obtain ⟨last, ran⟩ := ih later
    exact ⟨last, Library.foldlM_cons_ok.mpr ⟨_, joinAtM_ok.mpr ⟨value, joined, rfl⟩, ran⟩⟩

theorem keys_foldlM_joinAtM [BEq κ] [LawfulBEq κ] {items : List ι} {dict last : Dict κ ν}
    (ran : items.foldlM (joinAtM key join) dict = .ok last) :
    last.keys = dict.keys ++ ((items.map key).removeAll dict.keys).eraseDups := by
  induction items generalizing dict with
  | nil =>
    cases ran
    simp [List.removeAll]
  | cons item rest ih =>
    obtain ⟨next, stepped, later⟩ := Library.foldlM_cons_ok.mp ran
    obtain ⟨value, _, rfl⟩ := joinAtM_ok.mp stepped
    rw [ih later, keys_set, List.map_cons, List.cons_removeAll]
    by_cases known : key item ∈ dict.keys
    · simp [known]
    · have fresh : (rest.map key).removeAll (dict.keys ++ [key item]) =
          ((rest.map key).removeAll dict.keys).filter fun other => !other == key item := by
        rw [List.removeAll, List.removeAll, List.filter_filter]
        refine List.filter_congr fun other _ => ?_
        by_cases same : other = key item
        · simp [same]
        · simp [same]
      simp [known, fresh, List.eraseDups_cons]

end

end SysadminAssistant.Python.Dict
