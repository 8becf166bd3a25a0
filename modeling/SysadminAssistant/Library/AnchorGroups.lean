import Mathlib.Data.List.Basic
import Mathlib.Data.List.Flatten
import Mathlib.Data.List.Nodup

namespace SysadminAssistant.Library

/-! Greedy grouping around anchors.  The first unclaimed item of an ordered list is
an anchor; one pass over what follows claims the items that join it, and ends at
the first item that lies beyond it.  Grouping continues with what was left. -/

namespace AnchorGroups

variable {α : Type*} (beyond joins : α → α → Bool)

/-- The items one anchor claims, and those it leaves, in their order. -/
def claim (anchor : α) : List α → List α × List α
  | [] => ([], [])
  | other :: rest =>
    if beyond anchor other then ([], other :: rest)
    else
      let later := claim anchor rest
      if joins anchor other then (other :: later.1, later.2) else (later.1, other :: later.2)

/-- Structural fuel; `items.length` is enough, as each round consumes its anchor. -/
def groupsWithin : Nat → List α → List (List α)
  | 0, _ => []
  | _ + 1, [] => []
  | fuel + 1, anchor :: rest =>
    let claimed := claim beyond joins anchor rest
    (anchor :: claimed.1) :: groupsWithin fuel claimed.2

def groups (items : List α) : List (List α) := groupsWithin beyond joins items.length items

variable {beyond joins}

theorem claim_perm (anchor : α) (rest : List α) :
    ((claim beyond joins anchor rest).1 ++ (claim beyond joins anchor rest).2).Perm rest := by
  induction rest with
  | nil => exact .refl _
  | cons other rest ih =>
    simp only [claim]
    split
    · exact .refl _
    · split
      · exact ih.cons other
      · exact List.perm_middle.trans (ih.cons other)

theorem claim_left_length (anchor : α) (rest : List α) :
    (claim beyond joins anchor rest).2.length ≤ rest.length := by
  have total := (@claim_perm _ beyond joins anchor rest).length_eq
  simp only [List.length_append] at total
  omega

theorem claim_left_sublist (anchor : α) (rest : List α) :
    (claim beyond joins anchor rest).2.Sublist rest := by
  induction rest with
  | nil => exact .refl _
  | cons other rest ih =>
    simp only [claim]
    split
    · exact .refl _
    · split
      · exact ih.cons other
      · exact ih.cons_cons other

theorem claim_taken_mem {anchor : α} {rest : List α} {item : α}
    (taken : item ∈ (claim beyond joins anchor rest).1) :
    item ∈ rest ∧ beyond anchor item = false ∧ joins anchor item = true := by
  induction rest with
  | nil => simp [claim] at taken
  | cons other rest ih =>
    simp only [claim] at taken
    split at taken
    · simp at taken
    · rename_i near
      split at taken
      · rename_i joined
        rcases List.mem_cons.mp taken with rfl | later
        · exact ⟨List.mem_cons_self, by simpa using near, joined⟩
        · obtain ⟨member, facts⟩ := ih later
          exact ⟨List.mem_cons_of_mem _ member, facts⟩
      · obtain ⟨member, facts⟩ := ih taken
        exact ⟨List.mem_cons_of_mem _ member, facts⟩

theorem groupsWithin_perm {fuel : Nat} {items : List α} (enough : items.length ≤ fuel) :
    (groupsWithin beyond joins fuel items).flatten.Perm items := by
  induction fuel generalizing items with
  | zero =>
    have empty : items = [] := List.eq_nil_of_length_eq_zero (by omega)
    subst items
    exact .refl _
  | succ fuel ih =>
    cases items with
    | nil => exact .refl _
    | cons anchor rest =>
      have shorter := @claim_left_length _ beyond joins anchor rest
      simp only [List.length_cons] at enough
      simp only [groupsWithin, List.flatten_cons, List.cons_append]
      exact (((ih (by omega)).append_left _).trans (claim_perm anchor rest)).cons anchor

theorem groups_perm (items : List α) : (groups beyond joins items).flatten.Perm items :=
  groupsWithin_perm (Nat.le_refl _)

/-- A group as its anchor and the items the anchor claimed.  Over an ordered list
the anchor precedes every one of them. -/
structure Anchored (order : α → α → Prop) (beyond joins : α → α → Bool) (group : List α)
    (anchor : α) (claimed : List α) : Prop where
  shape : group = anchor :: claimed
  first : ∀ item ∈ claimed, order anchor item
  within : ∀ item ∈ claimed, beyond anchor item = false
  joined : ∀ item ∈ claimed, joins anchor item = true

theorem groupsWithin_anchored {order : α → α → Prop} {fuel : Nat} {items : List α}
    (sorted : items.Pairwise order) {group : List α}
    (member : group ∈ groupsWithin beyond joins fuel items) :
    ∃ anchor claimed, Anchored order beyond joins group anchor claimed := by
  induction fuel generalizing items with
  | zero => simp [groupsWithin] at member
  | succ fuel ih =>
    cases items with
    | nil => simp [groupsWithin] at member
    | cons anchor rest =>
      simp only [groupsWithin, List.mem_cons] at member
      obtain ⟨least, restSorted⟩ := List.pairwise_cons.mp sorted
      rcases member with rfl | later
      · exact ⟨anchor, _, rfl, fun item taken => least item (claim_taken_mem taken).1,
          fun item taken => (claim_taken_mem taken).2.1,
          fun item taken => (claim_taken_mem taken).2.2⟩
      · exact ih (restSorted.sublist (claim_left_sublist anchor rest)) later

theorem groups_anchored {order : α → α → Prop} {items : List α}
    (sorted : items.Pairwise order) {group : List α}
    (member : group ∈ groups beyond joins items) :
    ∃ anchor claimed, Anchored order beyond joins group anchor claimed :=
  groupsWithin_anchored sorted member

theorem groupsWithin_subset {fuel : Nat} {items : List α} {group : List α}
    (member : group ∈ groupsWithin beyond joins fuel items) {item : α} (inside : item ∈ group) :
    item ∈ items := by
  induction fuel generalizing items with
  | zero => cases member
  | succ fuel ih =>
    cases items with
    | nil => cases member
    | cons anchor rest =>
      rcases List.mem_cons.mp member with rfl | later
      · rcases List.mem_cons.mp inside with rfl | taken
        · exact List.mem_cons_self
        · exact List.mem_cons_of_mem _ (claim_taken_mem taken).1
      · exact List.mem_cons_of_mem _ ((claim_left_sublist anchor rest).subset (ih later))

/-- What an anchor leaves lies beyond it or does not join it.  The pass ends at the first item
beyond, and what follows that item lies further on. -/
theorem claim_left_apart {order : α → α → Prop} {anchor : α} {rest : List α}
    (sorted : (anchor :: rest).Pairwise order)
    (further : ∀ {near far}, order anchor near → order near far → beyond anchor near = true →
      beyond anchor far = true) {item : α} (left : item ∈ (claim beyond joins anchor rest).2) :
        beyond anchor item = true ∨ joins anchor item = false := by
  induction rest with
  | nil => cases left
  | cons other rest ih =>
    have shorter : (anchor :: rest).Pairwise order :=
      sorted.sublist ((List.sublist_cons_self other rest).cons_cons _)
    obtain ⟨after, sortedRest⟩ := List.pairwise_cons.mp sorted
    obtain ⟨least, _⟩ := List.pairwise_cons.mp sortedRest
    simp only [claim] at left
    split at left
    · rename_i far
      rcases List.mem_cons.mp left with rfl | later
      · exact Or.inl far
      · exact Or.inl (further (after other List.mem_cons_self) (least item later) far)
    · split at left
      · exact ih shorter left
      · rename_i apart
        rcases List.mem_cons.mp left with rfl | later
        · exact Or.inr (by simpa using apart)
        · exact ih shorter later

theorem groupsWithin_apart {order : α → α → Prop} {fuel : Nat} {items : List α}
    (sorted : items.Pairwise order) (further : ∀ {anchor near far}, order anchor near →
      order near far → beyond anchor near = true → beyond anchor far = true) :
    (groupsWithin beyond joins fuel items).Pairwise fun earlier later => ∀ anchor,
      earlier.head? = some anchor →
      ∀ item ∈ later, order anchor item ∧ (beyond anchor item = true ∨ joins anchor item = false) := by
  induction fuel generalizing items with
  | zero => exact List.Pairwise.nil
  | succ fuel ih =>
    cases items with
    | nil => exact List.Pairwise.nil
    | cons first rest =>
      obtain ⟨least, restSorted⟩ := List.pairwise_cons.mp sorted
      have leftSublist := @claim_left_sublist _ beyond joins first rest
      refine List.pairwise_cons.mpr ⟨?_, ih (restSorted.sublist leftSublist)⟩
      intro later member anchor same item inside
      cases same
      have left := groupsWithin_subset member inside
      exact ⟨least item (leftSublist.subset left), claim_left_apart sorted further left⟩

theorem groups_apart {order : α → α → Prop} {items : List α} (sorted : items.Pairwise order)
    (further : ∀ {anchor near far}, order anchor near → order near far → beyond anchor near = true →
      beyond anchor far = true) :
    (groups beyond joins items).Pairwise fun earlier later => ∀ anchor, earlier.head? = some anchor →
      ∀ item ∈ later, order anchor item ∧ (beyond anchor item = true ∨ joins anchor item = false) :=
  groupsWithin_apart sorted further

theorem groups_first {order : α → α → Prop} {anchor : α} {rest : List α}
    (sorted : (anchor :: rest).Pairwise order)
    (further : ∀ {near far}, order anchor near → order near far → beyond anchor near = true →
      beyond anchor far = true) :
        ∃ claimed later, groups beyond joins (anchor :: rest) = (anchor :: claimed) :: later ∧
      ∀ item, item ∈ claimed ↔ item ∈ rest ∧ beyond anchor item = false ∧
        joins anchor item = true := by
  refine ⟨(claim beyond joins anchor rest).1, _, rfl, fun item => ⟨claim_taken_mem, fun near => ?_⟩⟩
  have split := (@claim_perm _ beyond joins anchor rest).mem_iff.mpr near.1
  rcases List.mem_append.mp split with taken | left
  · exact taken
  · rcases claim_left_apart sorted further left with beyond_ | apart
    · rw [beyond_] at near
      exact absurd near.2.1 (by decide)
    · rw [apart] at near
      exact absurd near.2.2 (by decide)

/-! The grouping as two loops over numbered items, which mark the numbers they claim. -/

section Numbered

variable (beyond joins)

/-- The inner loop: the items an anchor claims, and the numbers claimed by then. -/
def gather (anchor : α) : List Nat → List (α × Nat) → List α × List Nat
  | claimed, [] => ([], claimed)
  | claimed, (other, number) :: rest =>
    if number ∈ claimed then gather anchor claimed rest
    else if beyond anchor other then ([], claimed)
    else if joins anchor other then
      let later := gather anchor (number :: claimed) rest
      (other :: later.1, later.2)
    else gather anchor claimed rest

/-- The outer loop. -/
def sweep : List Nat → List (α × Nat) → List (List α)
  | _, [] => []
  | claimed, (anchor, number) :: rest =>
    if number ∈ claimed then sweep claimed rest
    else
      let gathered := gather beyond joins anchor (number :: claimed) rest
      (anchor :: gathered.1) :: sweep gathered.2 rest

variable {beyond joins}

def unclaimed (claimed : List Nat) (items : List (α × Nat)) : List α :=
  (items.filter fun item => item.2 ∉ claimed).map Prod.fst

theorem unclaimed_taken {claimed : List Nat} {item : α} {number : Nat} {rest : List (α × Nat)}
    (taken : number ∈ claimed) :
    unclaimed claimed ((item, number) :: rest) = unclaimed claimed rest := by
  simp [unclaimed, taken]

theorem unclaimed_left {claimed : List Nat} {item : α} {number : Nat} {rest : List (α × Nat)}
    (left : number ∉ claimed) :
    unclaimed claimed ((item, number) :: rest) = item :: unclaimed claimed rest := by
  simp [unclaimed, left]

theorem unclaimed_cons {claimed : List Nat} {number : Nat} {rest : List (α × Nat)}
    (fresh : number ∉ rest.map Prod.snd) :
    unclaimed (number :: claimed) rest = unclaimed claimed rest := by
  refine congrArg (List.map Prod.fst) (List.filter_congr fun item member => ?_)
  have other : item.2 ≠ number := fun same => fresh (List.mem_map.mpr ⟨item, member, same⟩)
  simp [other]

theorem gather_keeps {anchor : α} {claimed : List Nat} {rest : List (α × Nat)} {number : Nat}
    (taken : number ∈ claimed) : number ∈ (gather beyond joins anchor claimed rest).2 := by
  induction rest generalizing claimed with
  | nil => exact taken
  | cons item rest ih =>
    obtain ⟨other, index⟩ := item
    simp only [gather]
    split
    · exact ih taken
    · split
      · exact taken
      · split
        · exact ih (List.mem_cons_of_mem _ taken)
        · exact ih taken

theorem gather_claims {anchor : α} {claimed : List Nat} {rest : List (α × Nat)} {number : Nat}
    (after : number ∈ (gather beyond joins anchor claimed rest).2) :
    number ∈ claimed ∨ number ∈ rest.map Prod.snd := by
  induction rest generalizing claimed with
  | nil => exact Or.inl after
  | cons item rest ih =>
    obtain ⟨other, index⟩ := item
    rw [List.map_cons, List.mem_cons]
    simp only [gather] at after
    split at after
    · rcases ih after with before | later
      · exact Or.inl before
      · exact Or.inr (Or.inr later)
    · split at after
      · exact Or.inl after
      · split at after
        · rcases ih after with marked | later
          · rcases List.mem_cons.mp marked with here | before
            · exact Or.inr (Or.inl here)
            · exact Or.inl before
          · exact Or.inr (Or.inr later)
        · rcases ih after with before | later
          · exact Or.inl before
          · exact Or.inr (Or.inr later)

theorem gather_eq {anchor : α} {claimed : List Nat} {rest : List (α × Nat)}
    (distinct : (rest.map Prod.snd).Nodup) :
    (gather beyond joins anchor claimed rest).1 =
      (claim beyond joins anchor (unclaimed claimed rest)).1 ∧
      unclaimed (gather beyond joins anchor claimed rest).2 rest =
        (claim beyond joins anchor (unclaimed claimed rest)).2 := by
  induction rest generalizing claimed with
  | nil => exact ⟨rfl, rfl⟩
  | cons item rest ih =>
    obtain ⟨other, number⟩ := item
    obtain ⟨fresh, restDistinct⟩ := List.nodup_cons.mp distinct
    by_cases taken : number ∈ claimed
    · obtain ⟨same, left⟩ := @ih claimed restDistinct
      rw [unclaimed_taken taken, gather, if_pos taken, unclaimed_taken (gather_keeps taken)]
      exact ⟨same, left⟩
    · rw [unclaimed_left taken, gather, if_neg taken, claim]
      cases far : beyond anchor other with
      | true => simp [unclaimed_left taken]
      | false =>
        cases joined : joins anchor other with
        | true =>
          obtain ⟨same, left⟩ := @ih (number :: claimed) restDistinct
          rw [unclaimed_cons fresh] at same left
          have marked : number ∈ (gather beyond joins anchor (number :: claimed) rest).2 :=
            gather_keeps List.mem_cons_self
          simp [same, left, unclaimed_taken marked]
        | false =>
          obtain ⟨same, left⟩ := @ih claimed restDistinct
          have unmarked : number ∉ (gather beyond joins anchor claimed rest).2 := by
            intro marked
            rcases gather_claims marked with before | later
            · exact taken before
            · exact fresh later
          simp [same, left, unclaimed_left unmarked]

theorem sweep_eq {claimed : List Nat} {items : List (α × Nat)}
    (distinct : (items.map Prod.snd).Nodup) {fuel : Nat}
    (enough : (unclaimed claimed items).length ≤ fuel) :
    sweep beyond joins claimed items = groupsWithin beyond joins fuel (unclaimed claimed items) := by
  induction items generalizing claimed fuel with
  | nil => cases fuel <;> rfl
  | cons item rest ih =>
    obtain ⟨anchor, number⟩ := item
    obtain ⟨fresh, restDistinct⟩ := List.nodup_cons.mp distinct
    by_cases taken : number ∈ claimed
    · rw [unclaimed_taken taken] at enough ⊢
      rw [sweep, if_pos taken, ih restDistinct enough]
    · rw [unclaimed_left taken] at enough ⊢
      cases fuel with
      | zero => simp at enough
      | succ fuel =>
        obtain ⟨same, left⟩ := @gather_eq _ beyond joins anchor (number :: claimed) rest restDistinct
        rw [unclaimed_cons fresh] at same left
        have shorter := @claim_left_length _ beyond joins anchor (unclaimed claimed rest)
        rw [List.length_cons] at enough
        have rounds := @ih (gather beyond joins anchor (number :: claimed) rest).2 restDistinct fuel
          (by rw [left]; omega)
        rw [sweep, if_neg taken, groupsWithin]
        simp only [same, rounds, left]

theorem sweep_eq_groups (items : List α) :
    sweep beyond joins [] items.zipIdx = groups beyond joins items := by
  have all : unclaimed [] items.zipIdx = items := by simp [unclaimed]
  have distinct : (items.zipIdx.map Prod.snd).Nodup := by
    rw [List.zipIdx_map_snd]
    exact List.nodup_range'
  rw [sweep_eq distinct (Nat.le_refl _), all, groups]

end Numbered

end AnchorGroups

/-! Rows put into groups by a key. -/

variable {α κ : Type*} [DecidableEq κ] {key : α → κ}

theorem flatMap_keyed_perm {keys : List κ} (distinct : keys.Nodup) (rows : List α) :
    (keys.flatMap fun value => rows.filter fun row => key row = value).Perm
      (rows.filter fun row => key row ∈ keys) := by
  induction keys with
  | nil => simp
  | cons value rest ih =>
    obtain ⟨absent, distinct⟩ := List.nodup_cons.mp distinct
    rw [List.flatMap_cons]
    refine ((ih distinct).append_left _).trans ?_
    have own : rows.filter (fun row => key row = value) =
        (rows.filter fun row => key row ∈ value :: rest).filter fun row => key row = value := by
      rw [List.filter_filter]
      refine List.filter_congr fun row _ => ?_
      by_cases same : key row = value <;> simp [same]
    have others : rows.filter (fun row => key row ∈ rest) =
        (rows.filter fun row => key row ∈ value :: rest).filter fun row =>
          !decide (key row = value) := by
      rw [List.filter_filter]
      refine List.filter_congr fun row _ => ?_
      by_cases same : key row = value
      · simp [same, absent]
      · simp [same]
    rw [own, others]
    exact List.filter_append_perm _ _

theorem flatMap_keyed_all {keys : List κ} {rows : List α} (distinct : keys.Nodup)
    (covered : ∀ row ∈ rows, key row ∈ keys) :
    (keys.flatMap fun value => rows.filter fun row => key row = value).Perm rows := by
  have whole : rows.filter (fun row => key row ∈ keys) = rows :=
    List.filter_eq_self.mpr fun row member => decide_eq_true (covered row member)
  exact (flatMap_keyed_perm distinct rows).trans (.of_eq whole)

theorem countP_mem_group [DecidableEq α] {groups : List (List α)} {item : α}
    (distinct : groups.flatten.Nodup) (member : item ∈ groups.flatten) :
    groups.countP (fun group => item ∈ group) = 1 := by
  induction groups with
  | nil => simp at member
  | cons group rest ih =>
    obtain ⟨_, later, apart⟩ := List.nodup_append'.mp (List.flatten_cons ▸ distinct)
    rw [List.flatten_cons, List.mem_append] at member
    rw [List.countP_cons]
    by_cases here : item ∈ group
    · have none : rest.countP (fun group => item ∈ group) = 0 := by
        rw [List.countP_eq_zero]
        intro other inside again
        exact apart here (List.mem_flatten.mpr ⟨other, inside, by simpa using again⟩)
      rw [none]
      simp [here]
    · rw [ih later (member.resolve_left here)]
      simp [here]

end SysadminAssistant.Library
