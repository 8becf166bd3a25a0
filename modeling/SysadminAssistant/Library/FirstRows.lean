import Mathlib.Algebra.BigOperators.Group.List.Basic
import Mathlib.Data.List.Count
import Mathlib.Data.List.Dedup
import Mathlib.Data.List.Nodup
import Mathlib.Data.List.Sort
import Mathlib.Tactic.Linarith

namespace SysadminAssistant.Library

/-! The first page of a list, largest rank first, ties in any order. -/

section

variable {α : Type*} {rank : α → Int}

/-- A way to arrange every list by falling rank. -/
structure NewestFirst (rank : α → Int) where
  arrange : List α → List α
  perm : ∀ rows, (arrange rows).Perm rows
  falling : ∀ rows, (arrange rows).Pairwise fun first second => rank second ≤ rank first

theorem mem_take_append {before after : List α} {item : α} {limit : Nat}
    (nodup : (before ++ item :: after).Nodup) :
    item ∈ (before ++ item :: after).take limit ↔ before.length < limit := by
  have fresh : item ∉ before := fun member =>
    (List.nodup_append.mp nodup).2.2 item member item List.mem_cons_self rfl
  rw [List.take_append]
  constructor
  · intro member
    by_contra short
    rw [Nat.sub_eq_zero_of_le (not_lt.mp short), List.take_zero, List.append_nil] at member
    exact fresh (List.mem_of_mem_take member)
  · intro long
    obtain ⟨rest, split⟩ := Nat.exists_eq_succ_of_ne_zero (Nat.sub_ne_zero_of_lt long)
    rw [split, List.take_succ_cons]
    exact List.mem_append_right _ List.mem_cons_self

theorem NewestFirst.nodup (order : NewestFirst rank) {rows : List α} (nodup : rows.Nodup) :
    (order.arrange rows).Nodup := (order.perm rows).nodup_iff.mpr nodup

/-- An item is on the page if no more than a page of items, itself among them, have its rank
or a larger one. -/
theorem NewestFirst.mem_page (order : NewestFirst rank) {rows : List α} (nodup : rows.Nodup)
    {item : α} (member : item ∈ rows) {limit : Nat}
    (few : rows.countP (fun other => rank item ≤ rank other) ≤ limit) :
    item ∈ (order.arrange rows).take limit := by
  have arranged := order.nodup nodup
  have falling := order.falling rows
  rw [← (order.perm rows).countP_eq] at few
  obtain ⟨before, after, split⟩ := List.append_of_mem ((order.perm rows).mem_iff.mpr member)
  rw [split] at arranged falling few ⊢
  have larger : ∀ other ∈ before, decide (rank item ≤ rank other) = true := fun other inside =>
    decide_eq_true ((List.pairwise_append.mp falling).2.2 other inside item List.mem_cons_self)
  rw [List.countP_append, List.countP_cons_of_pos (by simp), List.countP_eq_length.mpr larger] at few
  exact (mem_take_append arranged).mpr (by omega)

/-- Larger ranks first, and the item after all others of its rank. -/
def Ahead (rank : α → Int) (item first second : α) : Prop :=
  rank second < rank first ∨ (rank second = rank first ∧ (first = item → second = item))

instance [DecidableEq α] (item first second : α) : Decidable (Ahead rank item first second) :=
  inferInstanceAs (Decidable (_ ∨ _))

theorem mergeSort_ahead [DecidableEq α] (rank : α → Int) (item : α) (rows : List α) :
    (rows.mergeSort fun first second => decide (Ahead rank item first second)).Pairwise
      (Ahead rank item) := by
  refine (List.pairwise_mergeSort ?_ ?_ rows).imp of_decide_eq_true
  · intro first second third
    simp only [Ahead]
    grind
  · intro first second
    simp only [Bool.or_eq_true, Ahead]
    grind

def NewestFirst.putLast [DecidableEq α] (rank : α → Int) (item : α) : NewestFirst rank where
  arrange rows := rows.mergeSort fun first second => decide (Ahead rank item first second)
  perm rows := List.mergeSort_perm rows _
  falling rows := by
    refine (mergeSort_ahead rank item rows).imp ?_
    intro first second ahead
    rcases ahead with larger | tie
    · exact larger.le
    · exact tie.1.le

theorem NewestFirst.not_mem_page [DecidableEq α] {rows : List α} (nodup : rows.Nodup) {item : α}
    (member : item ∈ rows) {limit : Nat}
    (many : limit < rows.countP fun other => rank item ≤ rank other) :
    item ∉ ((putLast rank item).arrange rows).take limit := by
  have arranged := (putLast rank item).nodup nodup
  have perm := (putLast rank item).perm rows
  have sorted : ((putLast rank item).arrange rows).Pairwise (Ahead rank item) :=
    mergeSort_ahead rank item rows
  rw [← perm.countP_eq] at many
  obtain ⟨before, after, split⟩ := List.append_of_mem (perm.mem_iff.mpr member)
  rw [split] at arranged sorted many ⊢
  have smaller : ∀ other ∈ after, ¬ decide (rank item ≤ rank other) = true := by
    intro other inside
    have fresh : other ≠ item := fun same =>
      (List.nodup_cons.mp (List.nodup_append.mp arranged).2.1).1 (same ▸ inside)
    have order := (List.pairwise_cons.mp (List.pairwise_append.mp sorted).2.1).1 other inside
    have behind := order.resolve_right fun tie => fresh (tie.2 rfl)
    simpa using behind
  rw [List.countP_append, List.countP_cons_of_pos (by simp), List.countP_eq_zero.mpr smaller] at many
  have bound : before.countP (fun other => decide (rank item ≤ rank other)) ≤ before.length :=
    List.countP_le_length
  rw [mem_take_append arranged]
  omega

end

/-! The first row of each group of a table, and a table without the rows that are old and not
the first of their group. -/

section

variable {α κ : Type*} [DecidableEq κ] {rank : α → Int}

def NewestFirst.sorting (rank : α → Int) : NewestFirst rank where
  arrange rows := rows.mergeSort fun first second => decide (rank second ≤ rank first)
  perm rows := List.mergeSort_perm rows _
  falling rows := by
    refine (List.pairwise_mergeSort ?_ ?_ rows).imp of_decide_eq_true
    · intro first second third ahead behind
      simp only [decide_eq_true_eq] at ahead behind ⊢
      omega
    · intro first second
      simp only [Bool.or_eq_true, decide_eq_true_eq]
      omega

/-- `SELECT DISTINCT ON (key) … ORDER BY key, rank DESC`. -/
def NewestFirst.firstPer (order : NewestFirst rank) (key : α → κ) (rows : List α) : List α :=
  (rows.map key).dedup.filterMap fun value =>
    (order.arrange (rows.filter fun row => key row = value)).head?

theorem NewestFirst.head_arrange {rows : List α} {item : α} (order : NewestFirst rank)
    (first : (order.arrange rows).head? = some item) :
    item ∈ rows ∧ ∀ other ∈ rows, rank other ≤ rank item := by
  have falling := order.falling rows
  have perm := order.perm rows
  cases arranged : order.arrange rows with
  | nil =>
    rw [arranged] at first
    cases first
  | cons head rest =>
    rw [arranged] at first falling perm
    cases first
    refine ⟨perm.mem_iff.mp List.mem_cons_self, ?_⟩
    intro other inside
    rcases List.mem_cons.mp (perm.mem_iff.mpr inside) with same | behind
    · exact same ▸ le_refl _
    · exact (List.pairwise_cons.mp falling).1 other behind

theorem NewestFirst.mem_firstPer {order : NewestFirst rank} {key : α → κ} {rows : List α} {item : α} :
    item ∈ order.firstPer key rows ↔
      (order.arrange (rows.filter fun row => key row = key item)).head? = some item := by
  simp only [firstPer, List.mem_filterMap, List.mem_dedup, List.mem_map]
  constructor
  · intro chosen
    obtain ⟨value, -, first⟩ := chosen
    have inGroup := (order.head_arrange first).1
    simp only [List.mem_filter, decide_eq_true_eq] at inGroup
    rw [inGroup.2]
    exact first
  · intro first
    have inGroup := (order.head_arrange first).1
    exact ⟨key item, ⟨item, (List.mem_filter.mp inGroup).1, rfl⟩, first⟩

theorem NewestFirst.firstPer_newest {order : NewestFirst rank} {key : α → κ}
    {rows : List α} {item : α} (chosen : item ∈ order.firstPer key rows) :
    item ∈ rows ∧ ∀ other ∈ rows, key other = key item → rank other ≤ rank item := by
  obtain ⟨inGroup, newest⟩ := order.head_arrange (mem_firstPer.mp chosen)
  refine ⟨(List.mem_filter.mp inGroup).1, ?_⟩
  intro other inside same
  exact newest other (List.mem_filter.mpr ⟨inside, decide_eq_true same⟩)

theorem NewestFirst.exists_firstPer (order : NewestFirst rank) (key : α → κ)
    {rows : List α} {row : α} (inside : row ∈ rows) :
    ∃ item ∈ order.firstPer key rows, key item = key row := by
  have inGroup : row ∈ order.arrange (rows.filter fun other => key other = key row) :=
    (order.perm _).mem_iff.mpr (List.mem_filter.mpr ⟨inside, decide_eq_true rfl⟩)
  obtain ⟨item, first⟩ :=
    Option.isSome_iff_exists.mp (List.isSome_head?.mpr (List.ne_nil_of_mem inGroup))
  have same : key item = key row := by
    simpa using (List.mem_filter.mp (order.head_arrange first).1).2
  exact ⟨item, mem_firstPer.mpr (by rw [same]; exact first), same⟩

theorem NewestFirst.firstPer_unique {order : NewestFirst rank} {key : α → κ} {rows : List α}
    {left right : α} (leftChosen : left ∈ order.firstPer key rows)
    (rightChosen : right ∈ order.firstPer key rows) (same : key left = key right) : left = right := by
  have leftFirst := mem_firstPer.mp leftChosen
  rw [same, mem_firstPer.mp rightChosen] at leftFirst
  exact (Option.some.inj leftFirst).symm

/-- `LIMIT 1` takes the first row of the one group that a whole table is. -/
theorem NewestFirst.take_one (order : NewestFirst rank) (value : κ) (rows : List α) :
    (order.arrange rows).take 1 = order.firstPer (fun _ => value) rows := by
  cases rows with
  | nil =>
    have perm := order.perm ([] : List α)
    rw [List.perm_nil] at perm
    rw [perm]
    rfl
  | cons row rest =>
    have single : ((row :: rest).map fun _ => value).dedup = [value] := by
      have nodup := List.nodup_dedup ((row :: rest).map fun _ => value)
      have holds : value ∈ ((row :: rest).map fun _ => value).dedup := by simp
      have only : ∀ other ∈ ((row :: rest).map fun _ => value).dedup, other = value := by simp
      match ((row :: rest).map fun _ => value).dedup, nodup, holds, only with
      | [first], _, _, only => rw [only first List.mem_cons_self]
      | first :: second :: _, nodup, _, only =>
        have same : first = second := by rw [only first (by simp), only second (by simp)]
        simp [same] at nodup
    have oneGroup : ((row :: rest).filter fun _ => decide True) = row :: rest := by simp
    rw [NewestFirst.firstPer, single]
    simp only [List.filterMap_cons, List.filterMap_nil, oneGroup]
    cases order.arrange (row :: rest) with
    | nil => rfl
    | cons head others => rfl

variable {ident : α → Nat}

/-- `DELETE … WHERE old AND id NOT IN (kept)`. -/
def sparing (ident : α → Nat) (old : α → Bool) (kept rows : List α) : List α :=
  rows.filter fun row => !(old row && decide (ident row ∉ kept.map ident))

theorem mem_sparing {old : α → Bool} {kept rows : List α} {row : α}
    (distinct : (rows.map ident).Nodup) (within : ∀ item ∈ kept, item ∈ rows) :
    row ∈ sparing ident old kept rows ↔ row ∈ rows ∧ (old row = true → row ∈ kept) := by
  simp only [sparing, List.mem_filter, Bool.not_eq_true', Bool.and_eq_false_imp,
    decide_eq_false_iff_not, not_not, List.mem_map]
  refine and_congr_right fun inside => forall_congr' fun _ => ?_
  constructor
  · intro named
    obtain ⟨item, member, same⟩ := named
    exact List.inj_on_of_nodup_map distinct (within item member) inside same ▸ member
  · intro member
    exact ⟨row, member, rfl⟩

theorem sparing_of_spared {old : α → Bool} {kept rows : List α}
    (spared : ∀ row ∈ rows, old row = true → row ∈ kept) : sparing ident old kept rows = rows := by
  refine List.filter_eq_self.mpr ?_
  intro row inside
  simp only [Bool.not_eq_true', Bool.and_eq_false_imp, decide_eq_false_iff_not, not_not]
  intro isOld
  exact List.mem_map_of_mem (spared row inside isOld)

theorem sparing_again (key : α → κ) {old : α → Bool} (scope : α → Bool) {rows : List α}
    (distinct : (rows.map ident).Nodup) (order again : NewestFirst rank)
    (closed : ∀ item row, scope item = true → old row = true → rank item ≤ rank row →
      old item = true) :
    let rest := sparing ident old (order.firstPer key (rows.filter scope)) rows
    sparing ident old (again.firstPer key (rest.filter scope)) rest = rest := by
  intro rest
  have within : ∀ item ∈ order.firstPer key (rows.filter scope), item ∈ rows := fun item chosen =>
    (List.mem_filter.mp (NewestFirst.firstPer_newest chosen).1).1
  refine sparing_of_spared ?_
  intro row inRest isOld
  obtain ⟨inRows, spared⟩ := (mem_sparing distinct within).mp inRest
  have chosen := spared isOld
  obtain ⟨inScope, newest⟩ := NewestFirst.firstPer_newest chosen
  have stillInScope : row ∈ rest.filter scope :=
    List.mem_filter.mpr ⟨inRest, (List.mem_filter.mp inScope).2⟩
  obtain ⟨item, alsoChosen, same⟩ := again.exists_firstPer key stillInScope
  -- the row chosen now was there before, so it is no newer and was chosen before too
  obtain ⟨itemInRest, itemInScope⟩ := List.mem_filter.mp (NewestFirst.firstPer_newest alsoChosen).1
  obtain ⟨itemInRows, itemSpared⟩ := (mem_sparing distinct within).mp itemInRest
  have older := newest item (List.mem_filter.mpr ⟨itemInRows, itemInScope⟩) same
  have itemChosen := itemSpared (closed item row itemInScope isOld older)
  exact NewestFirst.firstPer_unique itemChosen chosen same ▸ alsoChosen

end

/-! A table counted group by group, and listed by an order that no two rows share. -/

section

variable {α κ : Type*} [DecidableEq κ]

theorem sum_countP_keys (key : α → κ) (p : α → Bool) {keys : List κ} (distinct : keys.Nodup)
    (rows : List α) :
    (keys.map fun wanted => rows.countP fun row => decide (key row = wanted) && p row).sum =
      rows.countP fun row => decide (key row ∈ keys) && p row := by
  induction keys with
  | nil => simp
  | cons first rest ih =>
    obtain ⟨fresh, others⟩ := List.nodup_cons.mp distinct
    rw [List.map_cons, List.sum_cons, ih others]
    clear ih
    induction rows with
    | nil => rfl
    | cons row rows ih =>
      simp only [List.countP_cons, List.mem_cons, Bool.decide_or] at ih ⊢
      by_cases here : key row = first
      · have absent : key row ∉ rest := here ▸ fresh
        cases p row <;> simp [here, here ▸ absent] <;> omega
      · cases p row <;> simp [here] <;> omega

theorem insertionSort_eq_of_perm {ρ : Type*} [LinearOrder ρ] {rank : α → ρ} {left right : List α}
    (injective : ∀ first ∈ left, ∀ second ∈ left, rank first = rank second → first = second)
    (perm : left.Perm right) :
    (left.insertionSort fun first second => rank first ≤ rank second) =
      right.insertionSort fun first second => rank first ≤ rank second := by
  have sorted := List.pairwise_insertionSort fun first second : α => rank first ≤ rank second
  refine List.Perm.eq_of_pairwise ?_ (sorted left) (sorted right)
    (((List.perm_insertionSort _ left).trans perm).trans (List.perm_insertionSort _ right).symm)
  intro first second here there before after
  refine injective first ((List.mem_insertionSort _).mp here) second ?_ (le_antisymm before after)
  exact perm.mem_iff.mpr ((List.mem_insertionSort _).mp there)

end

end SysadminAssistant.Library
