import Mathlib.Data.List.Nodup
import Mathlib.Order.Lattice

namespace SysadminAssistant.Library

/-! Reading an append-only log from a remembered place: after the record with a given key,
or from a moment on when the records are in order of time. -/

variable {ρ κ τ : Type*}

/-- Where the records after the one with this key begin. -/
def indexAfter [DecidableEq κ] (key : ρ → κ) (last : κ) (log : List ρ) : Nat :=
  log.findIdx (fun record => key record = last) + 1

theorem indexAfter_of_getElem? [DecidableEq κ] {key : ρ → κ} {log : List ρ} {index : Nat}
    {record : ρ} (distinct : (log.map key).Nodup) (found : log[index]? = some record) :
    indexAfter key (key record) log = index + 1 := by
  obtain ⟨inside, same⟩ := List.getElem?_eq_some_iff.mp found
  have first : log.findIdx (fun other => key other = key record) = index := by
    rw [List.findIdx_eq inside]
    refine ⟨by simp [same], fun earlier before => ?_⟩
    have apart : key log[earlier] ≠ key log[index] := by
      intro equal
      have early : earlier < (log.map key).length := by
        rw [List.length_map]
        omega
      have late : index < (log.map key).length := by rwa [List.length_map]
      have together : (log.map key)[earlier] = (log.map key)[index] := by simpa using equal
      have position := (distinct.getElem_inj_iff).mp together
      omega
    simpa [same] using apart
  rw [indexAfter, first]

theorem stays_of_prefix {log longer : List ρ} {index : Nat} {record : ρ}
    (grown : log <+: longer) (found : log[index]? = some record) : longer[index]? = some record := by
  obtain ⟨inside, same⟩ := List.getElem?_eq_some_iff.mp found
  rw [← same]
  exact List.prefix_iff_getElem?.mp grown index inside

variable [LinearOrder τ]

/-- Where the records from this moment on begin. -/
def indexSince (time : ρ → τ) (moment : τ) (log : List ρ) : Nat :=
  log.findIdx fun record => moment ≤ time record

theorem indexSince_le_iff {time : ρ → τ} {moment : τ} {log : List ρ} {index : Nat} {record : ρ}
    (ordered : log.Pairwise fun earlier later => time earlier ≤ time later)
    (found : log[index]? = some record) :
    indexSince time moment log ≤ index ↔ moment ≤ time record := by
  obtain ⟨inside, same⟩ := List.getElem?_eq_some_iff.mp found
  constructor
  · intro reached
    have present : indexSince time moment log < log.length := Nat.lt_of_le_of_lt reached inside
    have late : moment ≤ time log[indexSince time moment log] :=
      of_decide_eq_true (@List.findIdx_getElem _ (fun record =>
        decide (moment ≤ time record)) log present)
    rw [← same]
    rcases Nat.lt_or_eq_of_le reached with before | here
    · exact le_trans late (List.pairwise_iff_getElem.mp ordered _ _ present inside before)
    · simpa only [here] using late
  · intro late
    by_contra beyond
    have early := List.not_of_lt_findIdx (Nat.lt_of_not_le beyond)
    simp [same, late] at early

end SysadminAssistant.Library
