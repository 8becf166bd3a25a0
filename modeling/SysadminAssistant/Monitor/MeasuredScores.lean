import SysadminAssistant.Monitor.Reliability

namespace SysadminAssistant.Monitor.Reliability

open Python

/-! What a reliability score is made of: the checks that measured something, in the order of their
instants. -/

def HealthPoint.isMeasured (point : HealthPoint) : Bool := point.status ∉ unmeasuredStatuses

/-- What two scores say of the service itself. -/
structure SameEvidence (score other : ReliabilityScore) : Prop where
  uptimePercent : other.uptimePercent = score.uptimePercent
  failedChecks : other.failedChecks = score.failedChecks
  outageEpisodes : other.outageEpisodes = score.outageEpisodes
  longestOutageMinutes : other.longestOutageMinutes = score.longestOutageMinutes
  meanHoursBetweenIncidents : other.meanHoursBetweenIncidents = score.meanHoursBetweenIncidents
  deductions : other.deductions = score.deductions
  score : other.score = score.score

section

variable {window : Window} {points : List HealthPoint}

theorem checksInside_sorted (distinct : (points.map HealthPoint.checkedAt).Nodup) :
    (checksInside window points).Pairwise fun earlier later =>
      earlier.checkedAt < later.checkedAt := by
  have perm : (checksInside window points).Perm (points.filter fun point =>
      window.start ≤ point.checkedAt) :=
    List.perm_insertionSort _ _
  have apart : ((checksInside window points).map HealthPoint.checkedAt).Nodup :=
    (perm.map _).nodup_iff.mpr (distinct.sublist (List.filter_sublist.map _))
  have ordered := List.pairwise_insertionSort
    (fun left right : HealthPoint => left.checkedAt ≤ right.checkedAt)
    (points.filter fun point => window.start ≤ point.checkedAt)
  exact (ordered.and (List.pairwise_map.mp apart)).imp fun both => lt_of_le_of_ne both.1 both.2

theorem eq_of_sorted {checks others : List HealthPoint}
    (sorted : checks.Pairwise fun earlier later => earlier.checkedAt < later.checkedAt)
    (sorted' : others.Pairwise fun earlier later => earlier.checkedAt < later.checkedAt)
    (same : checks.Perm others) : checks = others :=
  same.eq_of_pairwise (fun _ _ _ _ before after => absurd before after.asymm) sorted sorted'

theorem checksInside_perm {others : List HealthPoint}
    (distinct : (points.map HealthPoint.checkedAt).Nodup) (same : others.Perm points) :
    checksInside window others = checksInside window points := by
  refine eq_of_sorted (checksInside_sorted ((same.map _).nodup_iff.mpr distinct))
    (checksInside_sorted distinct) ?_
  exact (List.perm_insertionSort _ _).trans ((same.filter _).trans (List.perm_insertionSort _ _).symm)

theorem checksInside_measured {others : List HealthPoint}
    (distinct : (points.map HealthPoint.checkedAt).Nodup)
    (distinct' : (others.map HealthPoint.checkedAt).Nodup)
    (same : others.filter HealthPoint.isMeasured = points.filter HealthPoint.isMeasured) :
    (checksInside window others).filter HealthPoint.isMeasured =
      (checksInside window points).filter HealthPoint.isMeasured := by
  refine eq_of_sorted ((checksInside_sorted distinct').sublist List.filter_sublist)
    ((checksInside_sorted distinct).sublist List.filter_sublist) ?_
  have sifted : ∀ checks : List HealthPoint,
      ((checksInside window checks).filter HealthPoint.isMeasured).Perm
      ((checks.filter HealthPoint.isMeasured).filter fun point => window.start ≤ point.checkedAt) := by
    intro checks
    refine ((List.perm_insertionSort _ _).filter _).trans ?_
    rw [List.filter_filter, List.filter_filter]
    simp only [Bool.and_comm, List.Perm.refl]
  exact (sifted others).trans (same ▸ (sifted points).symm)

section

variable {numbers : NumberText} {service : Text} {muted : Bool}

theorem scoreService_nothing (none_ : checksInside window points = []) :
    scoreService numbers window service points muted = unmeasured service window muted := by
  rw [scoreService, none_]

theorem scoreService_something {first : HealthPoint} {rest : List HealthPoint}
    (inside : checksInside window points = first :: rest) :
    scoreService numbers window service points muted =
      match (first :: rest).filter HealthPoint.isMeasured with
      | [] => recorded service window muted first ((first :: rest).getLast?.getD first) (first :: rest)
      | measured => measuredScore numbers window muted
          (recorded service window muted first ((first :: rest).getLast?.getD first)
            (first :: rest)) measured := by
  rw [scoreService, inside]
  rfl

theorem scoreService_measured
    (some_ : (checksInside window points).filter HealthPoint.isMeasured ≠ []) :
    ∃ result : ReliabilityScore,
      result.checksMeasured = ((checksInside window points).filter HealthPoint.isMeasured).length ∧
      scoreService numbers window service points muted = measuredScore numbers window muted result
        ((checksInside window points).filter HealthPoint.isMeasured) := by
  cases inside : checksInside window points with
  | nil =>
    rw [inside] at some_
    exact absurd rfl some_
  | cons first rest =>
    rw [inside] at some_
    refine ⟨recorded service window muted first ((first :: rest).getLast?.getD first)
      (first :: rest), rfl, ?_⟩
    rw [scoreService_something inside]
    cases measured : (first :: rest).filter HealthPoint.isMeasured with
    | nil => exact absurd measured some_
    | cons head tail => rfl

theorem deductionsOf_congr {result other : ReliabilityScore}
    (uptime : other.uptimePercent = result.uptimePercent)
    (measured : other.checksMeasured = result.checksMeasured)
    (failed : other.failedChecks = result.failedChecks)
    (episodes : other.outageEpisodes = result.outageEpisodes)
    (longest_ : other.longestOutageMinutes = result.longestOutageMinutes) :
    deductionsOf numbers other muted = deductionsOf numbers result muted := by
  simp only [deductionsOf, uptime, measured, failed, episodes, longest_]

theorem measuredScore_congr {result other : ReliabilityScore}
    (counted : other.checksMeasured = result.checksMeasured) (measured : List HealthPoint) :
    SameEvidence (measuredScore numbers window muted result measured)
      (measuredScore numbers window muted other measured) := by
  have deductions : (measuredScore numbers window muted other measured).deductions =
      (measuredScore numbers window muted result measured).deductions :=
        deductionsOf_congr rfl counted rfl rfl rfl
  refine ⟨rfl, rfl, rfl, rfl, rfl, deductions, ?_⟩
  change max 0
    (100 - pointsOf ((measuredScore numbers window muted other measured).deductions.filter _)) = _
  rw [deductions]
  rfl

/-! ## The sums -/

theorem checks_partition (checks : List HealthPoint) : checks.length =
    (checks.filter HealthPoint.isMeasured).length +
      (checks.filter fun point => point.status = .error).length +
      (checks.filter fun point => point.status = .skipped).length := by
  induction checks with
  | nil => rfl
  | cons point rest ih =>
    cases status : point.status <;>
      simp [HealthPoint.isMeasured, unmeasuredStatuses, status, ih] <;> omega

theorem recorded_checks : (scoreService numbers window service points muted).checksRecorded =
    (scoreService numbers window service points muted).checksMeasured +
      (scoreService numbers window service points muted).errorChecks +
        (scoreService numbers window service points muted).skippedChecks := by
  cases inside : checksInside window points with
  | nil =>
    rw [scoreService_nothing inside]
    rfl
  | cons first rest =>
    rw [scoreService_something inside]
    cases measured : (first :: rest).filter HealthPoint.isMeasured <;> exact checks_partition
      (first :: rest)

theorem deductionsOf_points {result : ReliabilityScore} {deduction : Deduction}
    (charged : deduction ∈ deductionsOf numbers result muted) :
    0 ≤ deduction.points ∧ deduction.waived = muted := by
  rw [deductionsOf, (List.perm_insertionSort _ _).mem_iff] at charged
  rcases List.mem_append.mp charged with downtime | instability
  · split at downtime
    · rename_i some_
      rw [List.mem_singleton.mp downtime]
      exact ⟨some_.le, rfl⟩
    · cases downtime
  · split at instability
    · rw [List.mem_singleton.mp instability]
      refine ⟨?_, rfl⟩
      simp only [instabilityCap, instabilityPerEpisode]
      omega
    · cases instability

theorem pointsOf_nonneg {deductions : List Deduction}
    (each : ∀ deduction ∈ deductions, 0 ≤ deduction.points) : 0 ≤ pointsOf deductions := by
  induction deductions with
  | nil => exact le_rfl
  | cons deduction rest ih =>
    obtain ⟨here, later⟩ := List.forall_mem_cons.mp each
    exact add_nonneg here (ih later)

/-- What is charged depends on the rates alone. -/
def chargedPoints (uptimePercent : ℚ) (outageEpisodes : Nat) : Int :=
  (if 0 < min downtimeCap (roundHalfEven (roundToDouble (100 - uptimePercent))) then
      min downtimeCap (roundHalfEven (roundToDouble (100 - uptimePercent))) else 0) +
    if 0 < outageEpisodes then min instabilityCap (instabilityPerEpisode * outageEpisodes) else 0

theorem pointsOf_deductionsOf (result : ReliabilityScore) :
    pointsOf (deductionsOf numbers result muted) =
      chargedPoints result.uptimePercent result.outageEpisodes := by
  rw [deductionsOf, pointsOf, ((List.perm_insertionSort _ _).map Deduction.points).sum_eq,
    List.map_append, List.sum_append, chargedPoints]
  congr 1
  · split
    · exact List.sum_singleton
    · rfl
  · split
    · exact List.sum_singleton
    · rfl

theorem measuredScore_points (result : ReliabilityScore) (measured : List HealthPoint) :
    pointsOf (measuredScore numbers window muted result measured).deductions =
      chargedPoints (measuredScore numbers window muted result measured).uptimePercent
        (measuredScore numbers window muted result measured).outageEpisodes := pointsOf_deductionsOf _

theorem score_bounds (some_ : (checksInside window points).filter HealthPoint.isMeasured ≠ []) :
    0 ≤ (scoreService numbers window service points muted).score ∧
      (scoreService numbers window service points muted).score ≤ 100 := by
  obtain ⟨result, _, scored⟩ := @scoreService_measured window points numbers service muted some_
  rw [scored]
  have applied : 0 ≤ pointsOf ((measuredScore numbers window muted result
      ((checksInside window points).filter HealthPoint.isMeasured)).deductions.filter fun deduction =>
        !deduction.waived) :=
    pointsOf_nonneg fun deduction member => (deductionsOf_points (List.mem_of_mem_filter member)).1
  have score : (measuredScore numbers window muted result
      ((checksInside window points).filter HealthPoint.isMeasured)).score = max 0 (100 - pointsOf
        ((measuredScore numbers window muted result
          ((checksInside window points).filter HealthPoint.isMeasured)).deductions.filter
            fun deduction =>
            !deduction.waived)) := rfl
  rw [score]
  omega

theorem muted_score (some_ : (checksInside window points).filter HealthPoint.isMeasured ≠ []) :
    (scoreService numbers window service points true).score = 100 ∧
      (scoreService numbers window service points true).waivedPoints =
        pointsOf (scoreService numbers window service points false).deductions := by
  obtain ⟨result, _, scored⟩ := @scoreService_measured window points numbers service true some_
  obtain ⟨other, _, scored'⟩ := @scoreService_measured window points numbers service false some_
  have waived : ∀ deduction ∈ (measuredScore numbers window true result
      ((checksInside window points).filter HealthPoint.isMeasured)).deductions,
        deduction.waived = true :=
    fun deduction member => (deductionsOf_points member).2
  have none_ : ((measuredScore numbers window true result
      ((checksInside window points).filter HealthPoint.isMeasured)).deductions.filter fun deduction =>
        !deduction.waived) = [] := by
    rw [List.filter_eq_nil_iff]
    intro deduction member
    simp [waived deduction member]
  have all : (measuredScore numbers window true result
      ((checksInside window points).filter HealthPoint.isMeasured)).deductions.filter
        Deduction.waived = (measuredScore numbers window true result
          ((checksInside window points).filter HealthPoint.isMeasured)).deductions :=
            List.filter_eq_self.mpr waived
  constructor
  · rw [scored]
    change max 0 (100 - pointsOf ((measuredScore numbers window true result
      ((checksInside window points).filter HealthPoint.isMeasured)).deductions.filter _)) = 100
    rw [none_]
    decide
  · rw [scored, scored']
    change pointsOf ((measuredScore numbers window true result
      ((checksInside window points).filter HealthPoint.isMeasured)).deductions.filter
        Deduction.waived) = _
    rw [all, measuredScore_points, measuredScore_points]
    congr 1

end

end

/-- A score of some evidence rests on the measured checks alone, whatever their order, within its
bounds. -/
theorem scoreService_evidence (numbers : NumberText) (window : Window) (service : Text)
    (muted : Bool) (points : List HealthPoint) (distinct : (points.map HealthPoint.checkedAt).Nodup)
    (some_ : ∃ point ∈ points, window.start ≤ point.checkedAt ∧ point.status ∉ unmeasuredStatuses) :
    (∀ others : List HealthPoint, (others.map HealthPoint.checkedAt).Nodup →
      others.filter HealthPoint.isMeasured = points.filter HealthPoint.isMeasured →
        SameEvidence (scoreService numbers window service points muted)
          (scoreService numbers window service others muted)) ∧
    (∀ others : List HealthPoint, others.Perm points →
      scoreService numbers window service others muted =
        scoreService numbers window service points muted) ∧
    (scoreService numbers window service points muted).checksRecorded =
      (scoreService numbers window service points muted).checksMeasured +
        (scoreService numbers window service points muted).errorChecks +
          (scoreService numbers window service points muted).skippedChecks ∧
    (0 ≤ (scoreService numbers window service points muted).score ∧
      (scoreService numbers window service points muted).score ≤ 100) ∧
    (scoreService numbers window service points true).score = 100 ∧
      (scoreService numbers window service points true).waivedPoints =
        pointsOf (scoreService numbers window service points false).deductions := by
  have measured : (checksInside window points).filter HealthPoint.isMeasured ≠ [] := by
    obtain ⟨point, member, within, informs⟩ := some_
    have inside : point ∈ checksInside window points :=
      (List.perm_insertionSort _ _).mem_iff.mpr (List.mem_filter.mpr ⟨member, by simpa using within⟩)
    exact List.ne_nil_of_mem (List.mem_filter.mpr ⟨inside,
      by simpa [HealthPoint.isMeasured] using informs⟩)
  refine ⟨?_, ?_, @recorded_checks window points numbers service muted,
    @score_bounds window points numbers service muted measured,
    @muted_score window points numbers service measured⟩
  · intro others distinct' same
    have alike := @checksInside_measured window points others distinct distinct' same
    obtain ⟨result, counted, scored⟩ :=
      @scoreService_measured window points numbers service muted measured
    obtain ⟨other, counted', scored'⟩ :=
      @scoreService_measured window others numbers service muted (alike ▸ measured)
    rw [scored, scored', alike]
    exact measuredScore_congr (by rw [counted', counted, alike]) _
  · intro others same
    have inside := @checksInside_perm window points others distinct same
    rw [scoreService, scoreService, inside]

/-- Two failed checks and one that measured nothing, which an outage does not notice. -/
def blips : List HealthPoint := [⟨0, .ok⟩, ⟨300, .critical⟩, ⟨600, .error⟩, ⟨900, .critical⟩]

def blipWindow : Window := ⟨7, 300, 1000, ⟨95, 85, 60⟩⟩

def bareNumbers : NumberText := ⟨fun _ => [], fun _ _ => []⟩

theorem blips_evidence : (scoreService bareNumbers blipWindow (text "api") blips true).score = 100 ∧
    (scoreService bareNumbers blipWindow (text "api") blips true).waivedPoints =
      pointsOf (scoreService bareNumbers blipWindow (text "api") blips false).deductions :=
  (scoreService_evidence bareNumbers blipWindow (text "api") false blips (by decide)
    ⟨⟨0, .ok⟩, by simp [blips], by decide, by decide⟩).2.2.2.2

end SysadminAssistant.Monitor.Reliability
