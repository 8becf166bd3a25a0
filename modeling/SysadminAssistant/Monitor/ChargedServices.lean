import SysadminAssistant.Monitor.FoldedAdvice

namespace SysadminAssistant.Monitor.Reliability

open Python Library

/-! What the advice on a service is worth, against what its score was charged. -/

def applied (score : ReliabilityScore) : List Deduction :=
  score.deductions.filter fun deduction => !deduction.waived

/-- What the scorer promises of its deductions. -/
structure Charged (score : ReliabilityScore) : Prop where
  kinds : (score.deductions.map Deduction.kind).Nodup
  waived : ∀ deduction ∈ score.deductions, deduction.waived = score.muted
  positive : ∀ deduction ∈ score.deductions, 0 < deduction.points
  instability : (∃ deduction ∈ score.deductions, deduction.kind = .instability) ↔
    0 < score.outageEpisodes
  score : score.score = 100 - pointsOf (applied score)

section

variable {numbers : NumberText} {window : Window} {service : Text} {points : List HealthPoint}
  {muted : Bool}

theorem pointsOf_filter_le {deductions : List Deduction} (kept : Deduction → Bool)
    (each : ∀ deduction ∈ deductions, 0 ≤ deduction.points) :
    pointsOf (deductions.filter kept) ≤ pointsOf deductions := by
  induction deductions with
  | nil => exact le_rfl
  | cons deduction rest ih =>
    obtain ⟨here, later⟩ := List.forall_mem_cons.mp each
    have less := ih later
    rw [List.filter_cons]
    simp only [pointsOf, List.map_cons, List.sum_cons] at less ⊢
    split
    · rw [List.map_cons, List.sum_cons]
      omega
    · omega

theorem charged_of_none {score : ReliabilityScore} (none_ : score.deductions = [])
    (calm : score.outageEpisodes = 0) (full : score.score = 100) : Charged score := by
  refine ⟨?_, ?_, ?_, ?_, ?_⟩
  · rw [none_]
    exact List.nodup_nil
  · rw [none_]
    exact fun _ absent => absurd absent List.not_mem_nil
  · rw [none_]
    exact fun _ absent => absurd absent List.not_mem_nil
  · rw [none_, calm]
    simp
  · rw [applied, none_, full]
    rfl

theorem deductionsOf_shape (result : ReliabilityScore) : ∃ downtime instability : List Deduction,
    (deductionsOf numbers result muted).Perm (downtime ++ instability) ∧
    (downtime = [] ∨ ∃ deduction, downtime = [deduction] ∧ deduction.kind = .downtime ∧
      0 < deduction.points ∧ deduction.points ≤ downtimeCap) ∧
    (instability = [] ∧ result.outageEpisodes = 0 ∨ ∃ deduction, instability = [deduction] ∧
      deduction.kind = .instability ∧ 0 < deduction.points ∧ deduction.points ≤ instabilityCap ∧
        0 < result.outageEpisodes) := by
  refine ⟨_, _, List.perm_insertionSort _ _, ?_, ?_⟩
  · split
    · rename_i some_
      exact Or.inr ⟨_, rfl, rfl, some_, min_le_left _ _⟩
    · exact Or.inl rfl
  · split
    · rename_i some_
      refine Or.inr ⟨_, rfl, rfl, ?_, min_le_left _ _, some_⟩
      simp only [instabilityCap, instabilityPerEpisode]
      omega
    · exact Or.inl ⟨rfl, by omega⟩

theorem measuredScore_charged (result : ReliabilityScore) (named : result.muted = muted)
    (measured : List HealthPoint) :
    Charged (measuredScore numbers window muted result measured) := by
  have charged : (measuredScore numbers window muted result measured).deductions =
      deductionsOf numbers (measuredScore numbers window muted result measured) muted := rfl
  obtain ⟨downtime, instability, perm, downtimes, instabilities⟩ :=
    @deductionsOf_shape numbers muted (measuredScore numbers window muted result measured)
  rw [← charged] at perm
  have points : pointsOf (applied (measuredScore numbers window muted result measured)) ≤
      downtimeCap + instabilityCap := by
    have whole : pointsOf (downtime ++ instability) ≤ downtimeCap + instabilityCap := by
      rw [pointsOf, List.map_append, List.sum_append]
      refine add_le_add ?_ ?_
      · rcases downtimes with rfl | ⟨deduction, rfl, _, _, capped⟩
        · decide
        · simpa using capped
      · rcases instabilities with ⟨rfl, _⟩ | ⟨deduction, rfl, _, _, capped, _⟩
        · decide
        · simpa using capped
    have total : pointsOf (measuredScore numbers window muted result measured).deductions ≤
        downtimeCap + instabilityCap := by
      rw [pointsOf, (perm.map Deduction.points).sum_eq]
      exact whole
    exact (pointsOf_filter_le _ fun deduction member => (deductionsOf_points member).1).trans total
  refine ⟨?_, ?_, ?_, ?_, ?_⟩
  · rw [(perm.map Deduction.kind).nodup_iff]
    rcases downtimes with rfl | ⟨first, rfl, firstKind, _⟩ <;>
      rcases instabilities with ⟨rfl, _⟩ | ⟨second, rfl, secondKind, _⟩ <;> simp [*]
  · exact fun deduction member => (deductionsOf_points member).2.trans named.symm
  · intro deduction member
    rcases List.mem_append.mp (perm.mem_iff.mp member) with first | second
    · rcases downtimes with rfl | ⟨only, rfl, _, positive, _⟩
      · cases first
      · rw [List.mem_singleton.mp first]
        exact positive
    · rcases instabilities with ⟨rfl, _⟩ | ⟨only, rfl, _, positive, _⟩
      · cases second
      · rw [List.mem_singleton.mp second]
        exact positive
  · constructor
    · intro found
      obtain ⟨deduction, member, kind⟩ := found
      rcases List.mem_append.mp (perm.mem_iff.mp member) with first | second
      · rcases downtimes with rfl | ⟨only, rfl, other, _⟩
        · cases first
        · rw [List.mem_singleton.mp first, other] at kind
          cases kind
      · rcases instabilities with ⟨rfl, _⟩ | ⟨only, rfl, _, _, _, some_⟩
        · cases second
        · exact some_
    · intro some_
      rcases instabilities with ⟨_, none_⟩ | ⟨only, rfl, kind, _⟩
      · omega
      · exact ⟨only, perm.mem_iff.mpr (List.mem_append_right _ List.mem_cons_self), kind⟩
  · change max 0 (100 - pointsOf (applied (measuredScore numbers window muted result measured))) = _
    simp only [downtimeCap, instabilityCap] at points
    omega

theorem scoreService_charged : Charged (scoreService numbers window service points muted) := by
  cases inside : checksInside window points with
  | nil =>
    rw [scoreService_nothing inside]
    exact charged_of_none rfl rfl rfl
  | cons first rest =>
    rw [scoreService_something inside]
    split
    · exact charged_of_none rfl rfl rfl
    · exact measuredScore_charged _ rfl _

theorem pointsOf_kind {deductions : List Deduction}
    (distinct : (deductions.map Deduction.kind).Nodup) (kind : DeductionKind) :
    pointsOf (deductions.filter fun deduction => deduction.kind = kind) =
      (((deductions.filter fun deduction => deduction.kind = kind).getLast?).map
        Deduction.points).getD 0 := by
  have kinds := distinct.sublist ((List.filter_sublist (p := fun deduction : Deduction =>
    decide (deduction.kind = kind))).map Deduction.kind)
  have each : ∀ deduction ∈ deductions.filter fun deduction => deduction.kind = kind,
      deduction.kind = kind :=
    fun deduction member => of_decide_eq_true (List.mem_filter.mp member).2
  generalize deductions.filter (fun deduction => deduction.kind = kind) = same at kinds each
  match same with
  | [] => rfl
  | [only] => exact List.sum_singleton
  | first :: second :: rest =>
    refine absurd ?_ (List.nodup_cons.mp kinds).1
    rw [each first List.mem_cons_self, ← each second (List.mem_cons_of_mem _ List.mem_cons_self)]
    exact List.mem_cons_self

theorem applied_points {score : ReliabilityScore} (charged : Charged score) :
    pointsOf (applied score) =
    (appliedPoints score .downtime).getD 0 + (appliedPoints score .instability).getD 0 := by
  have distinct : ((applied score).map Deduction.kind).Nodup :=
    charged.kinds.sublist (List.filter_sublist.map Deduction.kind)
  have one : ∀ kind, (appliedPoints score kind).getD 0 =
      pointsOf ((applied score).filter fun deduction =>
        deduction.kind = kind) := by
    intro kind
    rw [pointsOf_kind distinct, appliedPoints, applied, List.filter_filter]
    simp only [Bool.and_comm]
  have parted :=
    ((List.filter_append_perm (fun deduction : Deduction => decide (deduction.kind = .downtime))
    (applied score)).map Deduction.points).sum_eq
  have others : (applied score).filter (fun deduction => !decide (deduction.kind = .downtime)) =
      (applied score).filter fun deduction => deduction.kind = .instability :=
    List.filter_congr fun deduction _ => by cases deduction.kind <;> rfl
  rw [others, List.map_append, List.sum_append] at parted
  rw [one, one]
  exact parted.symm

theorem appliedPoints_some {score : ReliabilityScore} {kind : DeductionKind} {deduction : Deduction}
    (member : deduction ∈ applied score) (same : deduction.kind = kind) :
    ∃ points, appliedPoints score kind = some points := by
  have inside : deduction ∈ score.deductions.filter fun deduction =>
      !deduction.waived && deduction.kind = kind := by
    obtain ⟨charged, unwaived⟩ := List.mem_filter.mp member
    refine List.mem_filter.mpr ⟨charged, ?_⟩
    rw [unwaived, same]
    simp
  rw [appliedPoints, List.getLast?_eq_some_getLast (List.ne_nil_of_mem inside)]
  exact ⟨_, rfl⟩

end

/-! ## What a service's rows are worth -/

section

variable {numbers : NumberText} {settings : ServiceActionsConfig} {timers : List TimerSeries}
  {logs : Dict Text ServiceLog} {checkIntervalSeconds now : Int} {score : ReliabilityScore}

theorem rowsOf_worth (heard : score.muted = false) :
    totalRecoverablePoints
      ((rowsOf numbers settings timers logs checkIntervalSeconds now score).filter fun row =>
      row.kind ∈ eventArgued) = (appliedPoints score .downtime).getD 0 +
        if settings.flapMinEpisodes ≤ score.outageEpisodes then
          (appliedPoints score .instability).getD 0 else 0 := by
  have outage : totalRecoverablePoints
      (((appliedPoints score .downtime).map (outageRow numbers score)).toList.filter
      fun row => row.kind ∈ eventArgued) = (appliedPoints score .downtime).getD 0 := by
    cases appliedPoints score .downtime with
    | none => rfl
    | some points => exact List.sum_singleton
  have flapping : totalRecoverablePoints ((if settings.flapMinEpisodes ≤ score.outageEpisodes then
      ((appliedPoints score .instability).map (flappingRow numbers score)).toList else []).filter
        fun row => row.kind ∈ eventArgued) =
      if settings.flapMinEpisodes ≤ score.outageEpisodes
        then (appliedPoints score .instability).getD 0 else 0 := by
    split
    · cases appliedPoints score .instability with
      | none => rfl
      | some points => exact List.sum_singleton
    · rfl
  have interval : (checkIntervalRow numbers score settings checkIntervalSeconds
      (logs.get? score.service)).toList.filter (fun row => row.kind ∈ eventArgued) = [] := by
    rw [List.filter_eq_nil_iff]
    intro row member
    rw [(checkIntervalRow_built (Option.mem_toList.mp member)).1]
    decide
  have timer : ∀ series : TimerSeries, series.service = score.service → totalRecoverablePoints
      ((timerRows numbers series settings checkIntervalSeconds now).filter fun row =>
        row.kind ∈ eventArgued) = 0 := by
    intro series named
    obtain ⟨failed, stale, shape, failedKinds, staleKinds, built⟩ :=
      @timerRows_shape numbers settings checkIntervalSeconds now score series named
    rw [shape, totalRecoverablePoints]
    refine List.sum_eq_zero fun points member => ?_
    obtain ⟨row, inside, rfl⟩ := List.mem_map.mp member
    have among := List.mem_of_mem_filter inside
    have kind : row.kind = .timerFailed ∨ row.kind = .timerStale := by
      rcases List.mem_append.mp among with first | second
      · exact Or.inl (List.mem_singleton.mp (failedKinds.subset (List.mem_map_of_mem first)))
      · exact Or.inr (List.mem_singleton.mp (staleKinds.subset (List.mem_map_of_mem second)))
    refine (built row among).unpriced ?_ ?_ <;> rcases kind with kind | kind <;> rw [kind] <;> decide
  simp only [totalRecoverablePoints] at outage flapping timer ⊢
  rw [rowsOf, heard, if_neg Bool.false_ne_true, serviceRows, List.filter_append, List.filter_append,
    List.filter_append, interval, List.append_nil, List.map_append, List.sum_append,
    List.map_append, List.sum_append, outage, flapping, add_eq_left]
  split
  · rfl
  · rename_i series found
    exact timer series (by simpa using List.find?_some found)

theorem rowsOf_event (heard : score.muted = false) {points : Int}
    (charged : appliedPoints score .downtime = some points ∨
      appliedPoints score .instability = some points ∧
        settings.flapMinEpisodes ≤ score.outageEpisodes) :
    ∃ row ∈ rowsOf numbers settings timers logs checkIntervalSeconds now score,
      row.kind ∈ eventArgued := by
  rw [rowsOf, heard, if_neg Bool.false_ne_true, serviceRows]
  rcases charged with downtime | ⟨instability, flaps⟩
  · rw [downtime]
    exact ⟨outageRow numbers score points, by simp, List.mem_cons_self⟩
  · rw [instability, if_pos flaps]
    exact ⟨flappingRow numbers score points, by simp, List.mem_cons_of_mem _ List.mem_cons_self⟩

theorem keptRows_event :
    (keptRows numbers settings timers logs checkIntervalSeconds now score).filter (fun row =>
      row.kind ∈ eventArgued) =
    (rowsOf numbers settings timers logs checkIntervalSeconds now score).filter fun row =>
      row.kind ∈ eventArgued := by
  rw [keptRows, List.filter_filter]
  refine List.filter_congr fun row _ => ?_
  cases kind : row.kind <;> simp [withheld, kind, eventArgued, rateArgued]

theorem keptRows_service {scores : List ReliabilityScore}
    (distinct : (scores.map ReliabilityScore.service).Nodup) (member : score ∈ scores) :
    (scores.flatMap (keptRows numbers settings timers logs checkIntervalSeconds now)).filter
      (fun row =>
      row.service = score.service) = keptRows numbers settings timers logs checkIntervalSeconds
        now score := by
  have own : (keptRows numbers settings timers logs checkIntervalSeconds now score).filter (fun row =>
      row.service = score.service) = keptRows numbers settings timers logs checkIntervalSeconds
        now score :=
    List.filter_eq_self.mpr fun row kept => decide_eq_true (keptRows_built kept).service
  have others : ∀ other : ReliabilityScore, other.service ≠ score.service →
      (keptRows numbers settings timers logs checkIntervalSeconds now other).filter (fun row =>
        row.service = score.service) = [] := by
    intro other apart
    rw [List.filter_eq_nil_iff]
    intro row kept same
    exact apart ((keptRows_built kept).service.symm.trans (of_decide_eq_true same))
  induction scores with
  | nil => cases member
  | cons first rest ih =>
    obtain ⟨absent, distinct⟩ := List.nodup_cons.mp distinct
    rw [List.flatMap_cons, List.filter_append]
    rcases List.mem_cons.mp member with rfl | later
    · rw [own]
      have none_ :
          (rest.flatMap (keptRows numbers settings timers logs checkIntervalSeconds now)).filter
          (fun row =>
          row.service = score.service) = [] := by
        rw [List.filter_flatMap, List.flatMap_eq_nil_iff]
        exact fun other inside => others other fun same => absent (same ▸ List.mem_map_of_mem inside)
      rw [none_, List.append_nil]
    · rw [ih distinct later, others first fun same => absent (same ▸ List.mem_map_of_mem later),
        List.nil_append]

end

/-! ## The whole advice -/

section

variable (numbers : NumberText) (settings : ServiceActionsConfig) (timers : List TimerSeries)
  (logs : Dict Text ServiceLog) (checkIntervalSeconds now : Int) (scores : List ReliabilityScore)

/-- The rows that passed the gate, before they are folded. -/
def gatedRows : List ServiceRecommendationInfo :=
  scores.flatMap (keptRows numbers settings timers logs checkIntervalSeconds now)

def advised : List ServiceRecommendationInfo :=
  (recommend numbers settings timers logs checkIntervalSeconds now scores).recommendations

/-- Folding loses nothing and invents nothing. -/
structure FoldsFaithfully : Prop where
  single : ∀ service,
    ((advised numbers settings timers logs checkIntervalSeconds now scores).countP fun row =>
    row.service = service ∧ row.kind ∈ eventArgued) ≤ 1
  stands : ∀ row ∈ gatedRows numbers settings timers logs checkIntervalSeconds now scores,
    (advised numbers settings timers logs checkIntervalSeconds now scores).countP (Stands row) = 1
  invents : ∀ row ∈ advised numbers settings timers logs checkIntervalSeconds now scores,
    row ∈ gatedRows numbers settings timers logs checkIntervalSeconds now scores ∧
      row.members = [] ∨ 2 ≤ row.members.length ∧ ∀ member ∈ row.members,
        ∃ gated ∈ gatedRows numbers settings timers logs checkIntervalSeconds now scores,
          gated.service = row.service ∧ memberOf gated = member
  points : totalRecoverablePoints
    (advised numbers settings timers logs checkIntervalSeconds now scores) =
    totalRecoverablePoints (gatedRows numbers settings timers logs checkIntervalSeconds now scores)
  loudest : ∀ row ∈ advised numbers settings timers logs checkIntervalSeconds now scores,
    row.members ≠ [] → (∀ member ∈ row.members, member.severity.rank ≤ row.severity.rank) ∧
      ∃ member ∈ row.members, member.severity = row.severity
  confident : ∀ row ∈ advised numbers settings timers logs checkIntervalSeconds now scores,
    row.kind ∈ rateArgued → ∃ score ∈ scores, score.service = row.service ∧ score.confidence = .high
  suppressed : (recommend numbers settings timers logs checkIntervalSeconds now
    scores).suppressedByConfidence = ((scores.filter fun score => score.confidence ≠ .high).flatMap
      (rowsOf numbers settings timers logs checkIntervalSeconds now)).countP fun row =>
        row.kind ∈ rateArgued
  charged : ∀ score ∈ scores, applied score ≠ [] →
    ∃ row ∈ advised numbers settings timers logs checkIntervalSeconds now scores,
      row.service = score.service ∧
      row.kind ∈ eventArgued ∧ row.recoverablePoints = pointsOf (applied score) ∧
        row.recoverablePoints = 100 - score.score

variable {numbers settings timers logs checkIntervalSeconds now scores}

theorem mem_advised {row : ServiceRecommendationInfo} :
    row ∈ advised numbers settings timers logs checkIntervalSeconds now scores ↔
      ∃ group ∈ groupFaults (gatedRows numbers settings timers logs checkIntervalSeconds now scores),
        groupRow group = some row := by
  rw [advised, recommend, List.mem_insertionSort, List.mem_filterMap]
  rfl

theorem countP_advised (holds : ServiceRecommendationInfo → Bool) :
    (advised numbers settings timers logs checkIntervalSeconds now scores).countP holds =
      (groupFaults (gatedRows numbers settings timers logs checkIntervalSeconds now scores)).countP
        fun group =>
        (groupRow group).any holds := by
  rw [advised, recommend, (List.perm_insertionSort _ _).countP_eq, List.countP_filterMap]
  refine List.countP_congr fun group _ => ?_
  cases groupRow group <;> rfl

theorem advised_points :
    totalRecoverablePoints (advised numbers settings timers logs checkIntervalSeconds now scores) =
    totalRecoverablePoints
      (gatedRows numbers settings timers logs checkIntervalSeconds now scores) := by
  have each : ∀ groups : List (List ServiceRecommendationInfo), (∀ group ∈ groups, group ≠ []) →
      totalRecoverablePoints (groups.filterMap groupRow) = totalRecoverablePoints groups.flatten := by
    intro groups filled
    induction groups with
    | nil => rfl
    | cons group rest ih =>
      obtain ⟨here, later⟩ := List.forall_mem_cons.mp filled
      obtain ⟨row, made⟩ := groupRow_some here
      have worth := groupRow_points made
      have others := ih later
      simp only [totalRecoverablePoints] at worth others ⊢
      rw [List.filterMap_cons_some made, List.flatten_cons, List.map_cons, List.sum_cons,
        List.map_append, List.sum_append, worth, others]
  have folded :=
    each (groupFaults (gatedRows numbers settings timers logs checkIntervalSeconds now scores))
    fun group => groupFaults_ne_nil
  have same :=
    ((groupFaults_perm (gatedRows numbers settings timers logs checkIntervalSeconds now scores)).map
    ServiceRecommendationInfo.recoverablePoints).sum_eq
  have sorted :=
    ((List.perm_insertionSort (fun left right : ServiceRecommendationInfo =>
      left.order ≤ right.order)
    ((groupFaults (gatedRows numbers settings timers logs checkIntervalSeconds now
      scores)).filterMap groupRow)).map ServiceRecommendationInfo.recoverablePoints).sum_eq
  exact sorted.trans (folded.trans same)

theorem gatedRows_built {row : ServiceRecommendationInfo}
    (member : row ∈ gatedRows numbers settings timers logs checkIntervalSeconds now scores) :
    ∃ score ∈ scores, row ∈ keptRows numbers settings timers logs checkIntervalSeconds now score ∧
      Built score row := by
  obtain ⟨score, inside, kept⟩ := List.mem_flatMap.mp member
  exact ⟨score, inside, kept, keptRows_built kept⟩

theorem stands_iff (distinct : (scores.map ReliabilityScore.service).Nodup)
    {group : List ServiceRecommendationInfo} {recommended row : ServiceRecommendationInfo}
    (member : group ∈ groupFaults
    (gatedRows numbers settings timers logs checkIntervalSeconds now scores))
    (made : groupRow group = some recommended)
    (gated : row ∈ gatedRows numbers settings timers logs checkIntervalSeconds now scores) :
    Stands row recommended ↔ row ∈ group := by
  obtain ⟨service, same⟩ := groupFaults_service member
  have named := groupRow_service made fun other inside => (same other inside).2
  have unique : ∀ other ∈ group, other.service = row.service → other.kind = row.kind →
      other = row := by
    intro other inside services kinds
    exact List.inj_on_of_nodup_map (kept_distinct distinct) (same other inside).1 gated
      (Prod.ext services kinds)
  obtain ⟨_, _, _, rowBuilt⟩ := gatedRows_built gated
  rcases groupRow_cases made with rfl | ⟨anchor, second, rest, rfl, rfl⟩
  · obtain ⟨_, _, _, built⟩ := gatedRows_built (same recommended List.mem_cons_self).1
    rw [Stands, built.members, List.mem_singleton]
    simp [eq_comm]
  · constructor
    · intro stands
      rcases stands with itself | ⟨services, inside⟩
      · have members := rowBuilt.members
        rw [← itself] at members
        cases members
      · obtain ⟨other, among, members⟩ := List.mem_map.mp inside
        have kinds : other.kind = row.kind := congrArg ServiceRecommendationMemberInfo.kind members
        rw [← unique other among ((same other among).2.trans (named.symm.trans services)) kinds]
        exact among
    · intro inside
      exact Or.inr ⟨named.trans (same row inside).2.symm, List.mem_map_of_mem inside⟩

theorem gatedRows_nodup (distinct : (scores.map ReliabilityScore.service).Nodup) :
    (gatedRows numbers settings timers logs checkIntervalSeconds now scores).Nodup :=
  List.Nodup.of_map _ (kept_distinct distinct)

theorem stands_once (distinct : (scores.map ReliabilityScore.service).Nodup)
    {row : ServiceRecommendationInfo}
    (gated : row ∈ gatedRows numbers settings timers logs checkIntervalSeconds now scores) :
    (advised numbers settings timers logs checkIntervalSeconds now scores).countP
      (Stands row) = 1 := by
  have flat :=
    groupFaults_perm (gatedRows numbers settings timers logs checkIntervalSeconds now scores)
  rw [countP_advised, ← countP_mem_group (flat.nodup_iff.mpr (gatedRows_nodup distinct))
    (flat.mem_iff.mpr gated)]
  refine List.countP_congr fun group member => ?_
  obtain ⟨recommended, made⟩ := groupRow_some (groupFaults_ne_nil member)
  rw [made, Option.any_some, decide_eq_true_eq, decide_eq_true_eq]
  exact stands_iff distinct member made gated

theorem advised_single (service : Text) :
    ((advised numbers settings timers logs checkIntervalSeconds now scores).countP fun row =>
      row.service = service ∧ row.kind ∈ eventArgued) ≤ 1 := by
  rw [countP_advised, groupFaults, List.countP_append]
  have alone :
      (((gatedRows numbers settings timers logs checkIntervalSeconds now scores).filter fun row =>
      row.kind ∉ eventArgued).map fun row =>
        [row]).countP (fun group => (groupRow group).any fun row =>
        row.service = service ∧ row.kind ∈ eventArgued) = 0 := by
    rw [List.countP_eq_zero]
    intro group member holds
    obtain ⟨row, kept, rfl⟩ := List.mem_map.mp member
    have watching := (List.mem_filter.mp kept).2
    simp only [groupRow, Option.any_some, decide_eq_true_eq] at holds watching
    exact watching holds.2
  rw [alone, Nat.zero_add, List.countP_map]
  have distinct :
      (((gatedRows numbers settings timers logs checkIntervalSeconds now scores).filter fun row =>
      row.kind ∈ eventArgued).map ServiceRecommendationInfo.service).reverse.dedup.reverse.Nodup :=
    List.nodup_reverse.mpr (List.nodup_dedup _)
  refine le_trans (List.countP_mono_left fun named _ holds => ?_)
    (List.nodup_iff_count_le_one.mp distinct service)
  simp only [Function.comp_apply, Option.any_eq_true, decide_eq_true_eq] at holds
  obtain ⟨row, made, same, _⟩ := holds
  have own := groupRow_service made fun other inside =>
    of_decide_eq_true (List.mem_filter.mp ((List.mem_insertionSort _).mp inside)).2
  rw [← own, same]
  exact beq_self_eq_true service

theorem advised_invents {row : ServiceRecommendationInfo}
    (member : row ∈ advised numbers settings timers logs checkIntervalSeconds now scores) :
    row ∈ gatedRows numbers settings timers logs checkIntervalSeconds now scores ∧
      row.members = [] ∨ 2 ≤ row.members.length ∧ ∀ member ∈ row.members,
        ∃ gated ∈ gatedRows numbers settings timers logs checkIntervalSeconds now scores,
          gated.service = row.service ∧ memberOf gated = member := by
  obtain ⟨group, inside, made⟩ := mem_advised.mp member
  obtain ⟨service, same⟩ := groupFaults_service inside
  have named := groupRow_service made fun other among => (same other among).2
  rcases groupRow_cases made with rfl | ⟨anchor, second, rest, rfl, rfl⟩
  · have gated := (same row List.mem_cons_self).1
    obtain ⟨_, _, _, built⟩ := gatedRows_built gated
    exact Or.inl ⟨gated, built.members⟩
  · refine Or.inr ⟨by simp [foldedRow], fun member among => ?_⟩
    obtain ⟨gated, found, rfl⟩ := List.mem_map.mp among
    exact ⟨gated, (same gated found).1, (same gated found).2.trans named.symm, rfl⟩

theorem advised_loudest {row : ServiceRecommendationInfo}
    (member : row ∈ advised numbers settings timers logs checkIntervalSeconds now scores)
    (folded : row.members ≠ []) :
    (∀ member ∈ row.members, member.severity.rank ≤ row.severity.rank) ∧
      ∃ member ∈ row.members, member.severity = row.severity := by
  obtain ⟨group, inside, made⟩ := mem_advised.mp member
  obtain ⟨service, same⟩ := groupFaults_service inside
  rcases groupRow_cases made with rfl | ⟨anchor, second, rest, rfl, rfl⟩
  · obtain ⟨_, _, _, built⟩ := gatedRows_built (same row List.mem_cons_self).1
    exact absurd built.members folded
  · obtain ⟨above, loud, among, equal⟩ := loudest_spec anchor (second :: rest)
    refine ⟨fun member listed => ?_, memberOf loud, List.mem_map_of_mem among, equal⟩
    obtain ⟨swallowed, found, rfl⟩ := List.mem_map.mp listed
    exact above swallowed found

theorem advised_confident {row : ServiceRecommendationInfo}
    (member : row ∈ advised numbers settings timers logs checkIntervalSeconds now scores)
    (rate : row.kind ∈ rateArgued) :
    ∃ score ∈ scores, score.service = row.service ∧ score.confidence = .high := by
  have watching : row.kind ∉ eventArgued := by
    revert rate
    cases row.kind <;> decide
  obtain ⟨group, inside, made⟩ := mem_advised.mp member
  rcases groupFaults_group inside with ⟨only, gated, rfl, _⟩ | ⟨_, service, perm⟩
  · cases made
    obtain ⟨score, among, kept, built⟩ := gatedRows_built gated
    refine ⟨score, among, built.service.symm, ?_⟩
    have passed := (List.mem_filter.mp kept).2
    simpa [withheld, rate] using passed
  · refine absurd (groupRow_kind (fun other among => ?_) made) watching
    exact of_decide_eq_true (List.mem_filter.mp (List.mem_of_mem_filter (perm.mem_iff.mp among))).2

theorem suppressed_count :
    (recommend numbers settings timers logs checkIntervalSeconds now
    scores).suppressedByConfidence = ((scores.filter fun score => score.confidence ≠ .high).flatMap
      (rowsOf numbers settings timers logs checkIntervalSeconds now)).countP fun row =>
        row.kind ∈ rateArgued := by
  change (scores.map (suppressedRows numbers settings timers logs checkIntervalSeconds now)).sum = _
  induction scores with
  | nil => rfl
  | cons score rest ih =>
    rw [List.map_cons, List.sum_cons, ih, suppressedRows, ← List.countP_eq_length_filter]
    cases confidence : score.confidence with
    | high => simp [withheld, confidence]
    | low =>
      have same : withheld score = fun row => decide (row.kind ∈ rateArgued) := by
        funext row
        simp [withheld, confidence]
      simp [same, confidence]

theorem advised_worth (distinct : (scores.map ReliabilityScore.service).Nodup)
    {score : ReliabilityScore} (member : score ∈ scores) (heard : score.muted = false)
    {row : ServiceRecommendationInfo}
    (listed : row ∈ advised numbers settings timers logs checkIntervalSeconds now scores)
    (named : row.service = score.service) (event : row.kind ∈ eventArgued) :
    row.recoverablePoints = (appliedPoints score .downtime).getD 0 +
      if settings.flapMinEpisodes ≤ score.outageEpisodes then
        (appliedPoints score .instability).getD 0 else 0 := by
  obtain ⟨group, inside, made⟩ := mem_advised.mp listed
  rcases groupFaults_group inside with ⟨only, _, rfl, watching⟩ | ⟨_, service, perm⟩
  · cases made
    exact absurd event watching
  · have same : service = score.service := by
      rw [← named, groupRow_service made fun other among =>
        of_decide_eq_true (List.mem_filter.mp (perm.mem_iff.mp among)).2]
    have events : ((gatedRows numbers settings timers logs checkIntervalSeconds now scores).filter
        (fun row =>
        row.kind ∈ eventArgued)).filter (fun row => row.service = service) =
          (rowsOf numbers settings timers logs checkIntervalSeconds now score).filter fun row =>
            row.kind ∈ eventArgued := by
      rw [same, List.filter_comm, gatedRows, keptRows_service distinct member, keptRows_event]
    rw [groupRow_points made, ← rowsOf_worth heard, ← events]
    exact (perm.map ServiceRecommendationInfo.recoverablePoints).sum_eq

theorem advised_event {score : ReliabilityScore} (member : score ∈ scores)
    {row : ServiceRecommendationInfo}
    (built : row ∈ rowsOf numbers settings timers logs checkIntervalSeconds now score)
    (event : row.kind ∈ eventArgued) :
    ∃ listed ∈ advised numbers settings timers logs checkIntervalSeconds now scores,
      listed.service = score.service ∧ listed.kind ∈ eventArgued := by
  have kept : row ∈ keptRows numbers settings timers logs checkIntervalSeconds now score := by
    have both : row ∈ (keptRows numbers settings timers logs checkIntervalSeconds now score).filter
        fun row =>
        row.kind ∈ eventArgued := by
      rw [keptRows_event]
      exact List.mem_filter.mpr ⟨built, decide_eq_true event⟩
    exact List.mem_of_mem_filter both
  have gated : row ∈ gatedRows numbers settings timers logs checkIntervalSeconds now scores :=
    List.mem_flatMap.mpr ⟨score, member, kept⟩
  obtain ⟨group, inside, among⟩ := List.mem_flatten.mp ((groupFaults_perm _).mem_iff.mpr gated)
  obtain ⟨listed, made⟩ := groupRow_some (groupFaults_ne_nil inside)
  rcases groupFaults_group inside with ⟨only, _, rfl, watching⟩ | ⟨_, service, perm⟩
  · rw [List.mem_singleton.mp among] at event
    exact absurd event watching
  · have each : ∀ other ∈ group, other.kind ∈ eventArgued ∧ other.service = service := by
      intro other found
      obtain ⟨events, same⟩ := List.mem_filter.mp (perm.mem_iff.mp found)
      exact ⟨of_decide_eq_true (List.mem_filter.mp events).2, of_decide_eq_true same⟩
    refine ⟨listed, mem_advised.mpr ⟨group, inside, made⟩, ?_,
      groupRow_kind (fun other found => (each other found).1) made⟩
    rw [groupRow_service made fun other found => (each other found).2, ← (each row among).2]
    exact (rowsOf_built.2 row built).service

theorem Charged.heard {score : ReliabilityScore} (sound : Charged score)
    (some_ : applied score ≠ []) : score.muted = false := by
  obtain ⟨deduction, member⟩ := List.exists_mem_of_ne_nil _ some_
  obtain ⟨inside, unwaived⟩ := List.mem_filter.mp member
  rw [sound.waived deduction inside] at unwaived
  simpa using unwaived

theorem Charged.all_applied {score : ReliabilityScore} (sound : Charged score)
    (heard : score.muted = false) : applied score = score.deductions :=
  List.filter_eq_self.mpr fun deduction member => by rw [sound.waived deduction member, heard]; rfl

theorem Charged.instability_points {score : ReliabilityScore} (sound : Charged score)
    (heard : score.muted = false) (outages : 0 < score.outageEpisodes) :
    ∃ points, appliedPoints score .instability = some points ∧ 0 < points := by
  obtain ⟨deduction, member, kind⟩ := sound.instability.mpr outages
  obtain ⟨points, charged⟩ := appliedPoints_some ((sound.all_applied heard).symm ▸ member) kind
  obtain ⟨last, found, rfl⟩ := Option.map_eq_some_iff.mp charged
  exact ⟨last.points, charged,
    sound.positive last (List.mem_of_mem_filter (List.mem_of_getLast? found))⟩

theorem Charged.no_instability {score : ReliabilityScore} (sound : Charged score)
    (calm : score.outageEpisodes = 0) : appliedPoints score .instability = none := by
  rw [appliedPoints, Option.map_eq_none_iff, List.getLast?_eq_none_iff, List.filter_eq_nil_iff]
  intro deduction member chosen
  rw [Bool.and_eq_true] at chosen
  have some_ := sound.instability.mp ⟨deduction, member, of_decide_eq_true chosen.2⟩
  omega

theorem unfaithful_of_calm (distinct : (scores.map ReliabilityScore.service).Nodup)
    {score : ReliabilityScore} (member : score ∈ scores) (sound : Charged score)
    (heard : score.muted = false) (outages : 0 < score.outageEpisodes)
    (calm : ¬ settings.flapMinEpisodes ≤ score.outageEpisodes) :
    ¬ FoldsFaithfully numbers settings timers logs checkIntervalSeconds now scores := by
  intro faithful
  obtain ⟨points, charged, positive⟩ := sound.instability_points heard outages
  have some_ : applied score ≠ [] := by
    obtain ⟨deduction, inside, _⟩ := sound.instability.mpr outages
    rw [sound.all_applied heard]
    exact List.ne_nil_of_mem inside
  obtain ⟨row, listed, named, event, worth, _⟩ := faithful.charged score member some_
  have held := advised_worth distinct member heard listed named event
  rw [if_neg calm, worth, applied_points sound, charged, Option.getD_some] at held
  omega

end

/-- The advice folds faithfully if and only if every service with outages has enough of them to be
said to flap. -/
theorem folded_advice_faithful_iff (numbers : NumberText) (settings : ServiceActionsConfig)
    (timers : List TimerSeries) (logs : Dict Text ServiceLog) (checkIntervalSeconds now : Int)
    {scores : List ReliabilityScore} (distinct : (scores.map ReliabilityScore.service).Nodup)
    (scored : ∀ score ∈ scores, ∃ window points,
      score = scoreService numbers window score.service points score.muted) :
    FoldsFaithfully numbers settings timers logs checkIntervalSeconds now scores ↔
      ∀ score ∈ scores, score.muted = false → 0 < score.outageEpisodes →
        settings.flapMinEpisodes ≤ score.outageEpisodes := by
  have sound : ∀ score ∈ scores, Charged score := by
    intro score member
    obtain ⟨window, points, same⟩ := scored score member
    rw [same]
    exact scoreService_charged
  constructor
  · intro faithful score member heard outages
    by_contra calm
    exact unfaithful_of_calm distinct member (sound score member) heard outages calm faithful
  · intro flapping
    refine ⟨advised_single, fun row => stands_once distinct, fun row => advised_invents,
      advised_points, fun row => advised_loudest, fun row => advised_confident, suppressed_count,
      fun score member some_ => ?_⟩
    have heard := (sound score member).heard some_
    have thresholds : (if settings.flapMinEpisodes ≤ score.outageEpisodes then
        (appliedPoints score .instability).getD 0
          else 0) = (appliedPoints score .instability).getD 0 := by
      split
      · rfl
      · rename_i calm
        have none_ : score.outageEpisodes = 0 := by
          by_contra outages
          exact calm (flapping score member heard (Nat.pos_of_ne_zero outages))
        rw [(sound score member).no_instability none_]
        rfl
    have built : ∃ row ∈ rowsOf numbers settings timers logs checkIntervalSeconds now score,
        row.kind ∈ eventArgued := by
      obtain ⟨deduction, inside⟩ := List.exists_mem_of_ne_nil _ some_
      obtain ⟨points, charged⟩ := appliedPoints_some inside rfl
      cases kind : deduction.kind with
      | downtime => exact rowsOf_event heard (Or.inl (kind ▸ charged))
      | instability =>
        have outages :=
          (sound score member).instability.mp ⟨deduction, List.mem_of_mem_filter inside, kind⟩
        exact rowsOf_event heard (Or.inr ⟨kind ▸ charged, flapping score member heard outages⟩)
    obtain ⟨row, made, event⟩ := built
    obtain ⟨listed, inside, named, observed⟩ := advised_event member made event
    have worth := advised_worth distinct member heard inside named observed
    rw [thresholds, ← applied_points (sound score member)] at worth
    refine ⟨listed, inside, named, observed, worth, ?_⟩
    rw [worth, (sound score member).score]
    omega

/-! One service, and so many outages of one check each. -/

def flapConfig : ServiceActionsConfig := ⟨3, 3, 30⟩

def outagePoints (count : Nat) : List HealthPoint :=
  (List.range count).flatMap fun index => [⟨600 * index, .critical⟩, ⟨600 * index + 300, .ok⟩]

def outageScores (count : Nat) : List ReliabilityScore :=
  [scoreService bareNumbers ⟨7, 300, 10000, ⟨95, 85, 60⟩⟩ (text "api") (outagePoints count) false]

theorem one_outage_uncharged :
    ¬ FoldsFaithfully bareNumbers flapConfig [] .empty 300 10000 (outageScores 1) :=
  unfaithful_of_calm (List.nodup_singleton _) List.mem_cons_self scoreService_charged rfl
    (by decide) (by decide)

theorem three_outages_charged :
    FoldsFaithfully bareNumbers flapConfig [] .empty 300 10000 (outageScores 3) := by
  refine (@folded_advice_faithful_iff bareNumbers flapConfig [] .empty 300 10000 (outageScores 3)
    (List.nodup_singleton _) ?_).mpr ?_
  · intro score member
    rw [List.mem_singleton.mp member]
    exact ⟨_, outagePoints 3, rfl⟩
  · intro score member _ _
    rw [List.mem_singleton.mp member]
    decide

end SysadminAssistant.Monitor.Reliability
