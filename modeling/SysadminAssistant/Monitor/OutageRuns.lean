import SysadminAssistant.Library.PolledTokens
import SysadminAssistant.Monitor.MeasuredScores
import SysadminAssistant.Monitor.ServiceAdvice
import SysadminAssistant.Python.DoubleBounds

namespace SysadminAssistant.Monitor.Reliability

open Python Library

/-! The outages of a score as runs of failing checks, and what their longest minutes show of them. -/

def HealthPoint.isDown (point : HealthPoint) : Bool := point.status ∈ downStatuses

/-- The instants of the first and the last check. -/
def spanOf (run : List HealthPoint) : Int × Int :=
  ((run.head?.map HealthPoint.checkedAt).getD 0, (run.getLast?.map HealthPoint.checkedAt).getD 0)

def lasted (run : List HealthPoint) : Int := (spanOf run).2 - (spanOf run).1

def openSpan (run : List HealthPoint) : Option (Int × Int) :=
  if run.isEmpty then none else some (spanOf run)

theorem openSpan_push (run : List HealthPoint) (point : HealthPoint) :
    openSpan (run ++ [point]) = some
      (((openSpan run).map Prod.fst).getD point.checkedAt, point.checkedAt) := by
  cases run with
  | nil => rfl
  | cons first rest => simp [openSpan, spanOf, List.getLast?_cons]

theorem openSpan_close (run : List HealthPoint) :
    (openSpan run).toList = (HeldRuns.close run).map spanOf := by
  cases run with
  | nil => rfl
  | cons first rest => rfl

theorem outageEpisodes_runs (run measured : List HealthPoint) :
    outageEpisodes (openSpan run) measured = (HeldRuns.runs HealthPoint.isDown run measured).map
      spanOf := by
  induction measured generalizing run with
  | nil => exact openSpan_close run
  | cons point rest ih =>
    rw [outageEpisodes, HeldRuns.runs, HealthPoint.isDown]
    by_cases down : point.status ∈ downStatuses
    · rw [if_pos down, if_pos (decide_eq_true down), ← ih, openSpan_push]
    · rw [if_neg down, if_neg (by simpa using down), List.map_append, ← openSpan_close, ← ih]
      rfl

section

variable {run : List HealthPoint}

theorem lasted_nonneg
    (sorted : run.Pairwise fun earlier later => earlier.checkedAt < later.checkedAt) :
    0 ≤ lasted run := by
  cases run with
  | nil => decide
  | cons first rest =>
    obtain ⟨latest, ends⟩ :=
      List.getLast?_isSome.mpr (List.cons_ne_nil first rest) |> Option.isSome_iff_exists.mp
    have shown : lasted (first :: rest) = latest.checkedAt - first.checkedAt := by
      rw [lasted, spanOf, ends]
      rfl
    rw [shown]
    rcases List.mem_cons.mp (List.mem_of_getLast? ends) with own | later
    · rw [own, sub_self]
    · exact sub_nonneg.mpr (List.rel_of_pairwise_cons sorted later).le

theorem lasted_single (single : run.length = 1) : lasted run = 0 := by
  obtain ⟨point, shape⟩ := List.length_eq_one_iff.mp single
  rw [shape]
  exact sub_self _

end

/-! ## The longest of the outages -/

theorem foldl_max_spec (spans : List ℚ) (start : ℚ) :
    (spans.foldl max start = start ∨ spans.foldl max start ∈ spans) ∧
    start ≤ spans.foldl max start ∧ ∀ span ∈ spans, span ≤ spans.foldl max start := by
  induction spans generalizing start with
  | nil => exact ⟨Or.inl rfl, le_refl start, fun span member => absurd member List.not_mem_nil⟩
  | cons first rest ih =>
    obtain ⟨found, least, bound⟩ := ih (max start first)
    rw [List.foldl_cons]
    refine ⟨?_, (le_max_left _ _).trans least, fun span member => ?_⟩
    · rcases found with same | later
      · rw [same]
        rcases max_choice start first with left | right
        · exact Or.inl left
        · rw [right]
          exact Or.inr List.mem_cons_self
      · exact Or.inr (List.mem_cons_of_mem _ later)
    · rcases List.mem_cons.mp member with own | later
      · rw [own]
        exact (le_max_right _ _).trans least
      · exact bound span later

theorem longest_mem {spans : List ℚ} (some_ : spans ≠ []) : longest spans ∈ spans := by
  cases spans with
  | nil => exact absurd rfl some_
  | cons first rest =>
    rcases (foldl_max_spec rest first).1 with same | later
    · rw [longest, same]
      exact List.mem_cons_self
    · exact List.mem_cons_of_mem _ later

theorem le_longest {spans : List ℚ} {span : ℚ} (member : span ∈ spans) : span ≤ longest spans := by
  cases spans with
  | nil => cases member
  | cons first rest =>
    rcases List.mem_cons.mp member with own | later
    · rw [own]
      exact (foldl_max_spec rest first).2.1
    · exact (foldl_max_spec rest first).2.2 span later

theorem longestMinutes_eq_zero {runs : List (List HealthPoint)}
    (forward : ∀ run ∈ runs, 0 ≤ lasted run) :
    roundPlaces (roundToDouble (longest (seconds (runs.map spanOf)) / 60)) 1 = 0 ↔ ∀ run ∈ runs,
      lasted run < 3000000 := by
  have spans : seconds (runs.map spanOf) = runs.map fun run => totalSeconds (lasted run) := by
    rw [seconds, List.map_map]
    rfl
  rw [spans]
  constructor
  · intro zero run member
    by_contra long
    have most := le_longest (List.mem_map.mpr ⟨run, member, rfl⟩ :
      totalSeconds (lasted run) ∈ runs.map fun run => totalSeconds (lasted run))
    exact minutes_pos ((totalSeconds_ge_three (not_lt.mp long)).trans most) zero
  · intro brief
    by_cases none_ : runs = []
    · rw [none_]
      exact minutes_zero (le_refl (0 : ℚ)) (by norm_num [longest, seconds])
    · obtain ⟨run, inside, own⟩ := List.mem_map.mp
        (longest_mem fun empty => none_ (List.map_eq_nil_iff.mp empty) :
          longest (runs.map fun run => totalSeconds (lasted run)) ∈ runs.map fun run =>
            totalSeconds (lasted run))
      rw [← own]
      exact minutes_zero (totalSeconds_nonneg (forward run inside))
        (totalSeconds_lt_three (forward run inside) (brief run inside))

/-! ## The shape of the blips -/

section

variable {numbers : NumberText} {window : Window} {service : Text} {points : List HealthPoint}
  {muted : Bool}

/-- The outages of a window. -/
def outages (window : Window) (points : List HealthPoint) : List (List HealthPoint) :=
  HeldRuns.runs HealthPoint.isDown [] ((checksInside window points).filter HealthPoint.isMeasured)

theorem outages_lasted (distinct : (points.map HealthPoint.checkedAt).Nodup) :
    ∀ run ∈ outages window points, 0 ≤ lasted run :=
  fun _ member => lasted_nonneg ((checksInside_sorted distinct).sublist
    ((HeldRuns.runs_sublist member).trans List.filter_sublist))

theorem scoreService_unmeasured
    (measured : (checksInside window points).filter HealthPoint.isMeasured = []) :
    (scoreService numbers window service points muted).outageEpisodes = 0 ∧
      (scoreService numbers window service points muted).episodeStarts = [] ∧
        (scoreService numbers window service points muted).longestOutageMinutes = 0 := by
  cases inside : checksInside window points with
  | nil =>
    rw [scoreService_nothing inside]
    exact ⟨rfl, rfl, rfl⟩
  | cons first rest =>
    rw [inside] at measured
    rw [scoreService_something inside, measured]
    exact ⟨rfl, rfl, rfl⟩

theorem scoreService_outages : (scoreService numbers window service points muted).outageEpisodes =
      (outages window points).length ∧
    (scoreService numbers window service points muted).episodeStarts =
      (outages window points).map (fun run => (spanOf run).1) ∧
    (scoreService numbers window service points muted).longestOutageMinutes =
      roundPlaces (roundToDouble (longest (seconds ((outages window points).map spanOf)) / 60)) 1 := by
  have episodes : outageEpisodes none ((checksInside window points).filter HealthPoint.isMeasured) =
      (outages window points).map spanOf := outageEpisodes_runs [] _
  by_cases measured : (checksInside window points).filter HealthPoint.isMeasured = []
  · have noRuns : outages window points = [] := by
      rw [outages, measured]
      rfl
    obtain ⟨count, starts, minutes⟩ :=
      @scoreService_unmeasured numbers window service points muted measured
    rw [count, starts, minutes, noRuns]
    exact ⟨rfl, rfl, (minutes_zero (le_refl (0 : ℚ)) (by norm_num)).symm⟩
  · obtain ⟨result, _, scored⟩ := @scoreService_measured window points numbers service muted measured
    rw [scored]
    refine ⟨?_, ?_, ?_⟩
    · change (outageEpisodes none _).length = _
      rw [episodes, List.length_map]
    · change (outageEpisodes none _).map Prod.fst = _
      rw [episodes, List.map_map]
      rfl
    · change roundPlaces (roundToDouble (longest (seconds (outageEpisodes none _)) / 60)) 1 = _
      rw [episodes]

theorem isBlipShaped_brief (settings : ServiceActionsConfig)
    (distinct : (points.map HealthPoint.checkedAt).Nodup) :
    isBlipShaped (scoreService numbers window service points muted) settings = true ↔
      settings.flapMinEpisodes ≤ (outages window points).length ∧
        ∀ run ∈ outages window points, lasted run < 3000000 := by
  obtain ⟨count, _, minutes⟩ := @scoreService_outages numbers window service points muted
  rw [isBlipShaped, Bool.and_eq_true, decide_eq_true_eq, decide_eq_true_eq, count, minutes,
    longestMinutes_eq_zero (outages_lasted distinct)]

end

end SysadminAssistant.Monitor.Reliability
