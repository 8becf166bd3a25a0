import Mathlib.Data.List.Nodup
import Mathlib.Data.List.Range

namespace SysadminAssistant.Library

/-! A table that only grows, with serial row numbers, rows that are open until they
are closed, and an index that admits one open row for a key. -/

class OpenRow (ρ : Type*) (κ : outParam (Type*)) where
  ident : ρ → Nat
  key : ρ → κ
  isOpen : ρ → Bool

open OpenRow

structure Table (ρ : Type*) {κ : Type*} [OpenRow ρ κ] where
  rows : List ρ
  numbered : rows.map ident = List.range rows.length
  unique : ((rows.filter isOpen).map key).Nodup

namespace Table

variable {ρ κ : Type*} [DecidableEq κ] [OpenRow ρ κ]

def empty : Table ρ := ⟨[], rfl, List.nodup_nil⟩

def openRows (table : Table ρ) : List ρ := table.rows.filter isOpen

def openRow? (table : Table ρ) (wanted : κ) : Option ρ :=
  table.openRows.find? fun row => key row = wanted

omit [DecidableEq κ] in
theorem key_injective {table : Table ρ} {left right : ρ} (inLeft : left ∈ table.openRows)
    (inRight : right ∈ table.openRows) (same : key left = key right) : left = right :=
  List.inj_on_of_nodup_map table.unique inLeft inRight same

omit [DecidableEq κ] in
theorem ident_injective {table : Table ρ} {left right : ρ} (inLeft : left ∈ table.rows)
    (inRight : right ∈ table.rows) (same : ident left = ident right) : left = right := by
  have distinct : (table.rows.map ident).Nodup := by
    rw [table.numbered]
    exact List.nodup_range
  exact List.inj_on_of_nodup_map distinct inLeft inRight same

omit [DecidableEq κ] in
theorem ident_lt {table : Table ρ} {row : ρ} (member : row ∈ table.rows) :
    ident row < table.rows.length := by
  have image : ident row ∈ table.rows.map ident := List.mem_map.mpr ⟨row, member, rfl⟩
  rw [table.numbered] at image
  exact List.mem_range.mp image

theorem openRow?_eq_some {table : Table ρ} {wanted : κ} {row : ρ} :
    table.openRow? wanted = some row ↔ row ∈ table.openRows ∧ key row = wanted := by
  constructor
  · intro found
    exact ⟨List.mem_of_find?_eq_some found, by simpa using List.find?_some found⟩
  · intro held
    obtain ⟨member, same⟩ := held
    cases found : table.openRow? wanted with
    | none =>
      have absent := List.find?_eq_none.mp found row member
      simp [same] at absent
    | some other =>
      have otherMember := List.mem_of_find?_eq_some found
      have otherKey : key other = wanted := by simpa using List.find?_some found
      rw [key_injective otherMember member (otherKey.trans same.symm)]

theorem openRow?_eq_none {table : Table ρ} {wanted : κ} :
    table.openRow? wanted = none ↔ ∀ row ∈ table.openRows, key row ≠ wanted := by
  simp [openRow?, List.find?_eq_none]

/-- `none` is the integrity error of either index. -/
def insert? (table : Table ρ) (row : ρ) : Option (Table ρ) :=
  if fresh : ident row = table.rows.length ∧
      (isOpen row = true → ∀ other ∈ table.openRows, key other ≠ key row) then
    some
      { rows := table.rows ++ [row]
        numbered := by simp [table.numbered, fresh.1, List.range_succ]
        unique := by
          rw [List.filter_append, List.map_append]
          cases opened : isOpen row with
          | false => simpa [opened] using table.unique
          | true =>
            simp only [opened, List.filter_cons_of_pos, List.filter_nil, List.map_cons,
              List.map_nil]
            refine List.nodup_append.mpr ⟨table.unique, List.nodup_singleton _, ?_⟩
            intro left member right single
            obtain ⟨other, inside, rfl⟩ := List.mem_map.mp member
            rw [List.mem_singleton.mp single]
            exact fresh.2 opened other inside }
  else none

theorem insert?_rows {table after : Table ρ} {row : ρ} (inserted : table.insert? row = some after) :
    after.rows = table.rows ++ [row] := by
  simp only [insert?] at inserted
  split at inserted
  · rw [← Option.some.inj inserted]
  · simp at inserted

theorem insert?_enabled {table : Table ρ} {row : ρ} (serial : ident row = table.rows.length)
    (vacant : table.openRow? (key row) = none) : ∃ after, table.insert? row = some after := by
  have fresh := openRow?_eq_none.mp vacant
  exact ⟨_, dif_pos ⟨serial, fun _ => fresh⟩⟩

theorem insert?_refused {table : Table ρ} {row standing : ρ} (opened : isOpen row = true)
    (occupied : table.openRow? (key row) = some standing) : table.insert? row = none := by
  apply dif_neg
  intro held
  obtain ⟨_, fresh⟩ := held
  obtain ⟨member, same⟩ := openRow?_eq_some.mp occupied
  exact fresh opened standing member same

theorem openRow?_insert {table after : Table ρ} {row : ρ} (opened : isOpen row = true)
    (inserted : table.insert? row = some after) (wanted : κ) :
    after.openRow? wanted = if key row = wanted then some row else table.openRow? wanted := by
  have grown : after.openRows = table.openRows ++ [row] := by
    simp [openRows, insert?_rows inserted, List.filter_append, opened]
  split
  · rename_i same
    exact openRow?_eq_some.mpr ⟨by simp [grown], same⟩
  · rename_i different
    simp [openRow?, grown, List.find?_append, different]

end Table

/-- A change of rows that keeps numbers and keys, and opens nothing. -/
structure Amendment (ρ : Type*) {κ : Type*} [OpenRow ρ κ] where
  apply : ρ → ρ
  ident_apply : ∀ row, ident (apply row) = ident row
  key_apply : ∀ row, key (apply row) = key row
  opens_nothing : ∀ row, isOpen (apply row) = true → isOpen row = true

namespace Table

variable {ρ κ : Type*} [DecidableEq κ] [OpenRow ρ κ]

omit [DecidableEq κ] in
private theorem amended_keys (change : Amendment ρ) (rows : List ρ) :
    (((rows.map change.apply).filter isOpen).map key).Sublist ((rows.filter isOpen).map key) := by
  induction rows with
  | nil => exact .refl _
  | cons row rest ih =>
    cases after : isOpen (change.apply row) with
    | true =>
      have before := change.opens_nothing row after
      simpa [after, before, change.key_apply] using ih
    | false =>
      cases before : isOpen row with
      | true => simpa [after, before] using ih.cons (key row)
      | false => simpa [after, before] using ih

def amend (table : Table ρ) (change : Amendment ρ) : Table ρ where
  rows := table.rows.map change.apply
  numbered := by
    have same : (ident ∘ change.apply : ρ → Nat) = ident := funext change.ident_apply
    simp [same, table.numbered]
  unique := table.unique.sublist (amended_keys change table.rows)

omit [DecidableEq κ] in
theorem mem_openRows_amend {table : Table ρ} {change : Amendment ρ} {row : ρ} :
    row ∈ (table.amend change).openRows ↔
      ∃ old ∈ table.openRows, change.apply old = row ∧ isOpen row = true := by
  simp only [openRows, amend, List.mem_filter, List.mem_map]
  constructor
  · intro held
    obtain ⟨⟨old, member, rfl⟩, opened⟩ := held
    exact ⟨old, ⟨member, change.opens_nothing old opened⟩, rfl, opened⟩
  · intro held
    obtain ⟨old, ⟨member, _⟩, rfl, opened⟩ := held
    exact ⟨⟨old, member, rfl⟩, opened⟩

theorem openRow?_amend (table : Table ρ) (change : Amendment ρ) (wanted : κ) :
    (table.amend change).openRow? wanted =
      ((table.openRow? wanted).map change.apply).filter isOpen := by
  apply Option.ext
  intro row
  simp only [openRow?_eq_some, mem_openRows_amend, Option.filter_eq_some_iff,
    Option.map_eq_some_iff]
  constructor
  · intro held
    obtain ⟨⟨old, member, rfl, opened⟩, same⟩ := held
    exact ⟨⟨old, ⟨member, (change.key_apply old).symm.trans same⟩, rfl⟩, opened⟩
  · intro held
    obtain ⟨⟨old, ⟨member, same⟩, rfl⟩, opened⟩ := held
    exact ⟨⟨old, member, rfl, opened⟩, (change.key_apply old).trans same⟩

end Table

end SysadminAssistant.Library
