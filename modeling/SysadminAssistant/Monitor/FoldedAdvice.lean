import Mathlib.Data.List.Dedup
import SysadminAssistant.Library.AnchorGroups
import SysadminAssistant.Monitor.AdviceParity
import SysadminAssistant.Monitor.MeasuredScores

namespace SysadminAssistant.Monitor.Reliability

open Python Library

/-! What folding the rows of one fault does to them. -/

/-- The row itself, or one that names it. -/
def Stands (row recommended : ServiceRecommendationInfo) : Prop :=
  recommended = row ∨ (recommended.service = row.service ∧ memberOf row ∈ recommended.members)

instance (row recommended : ServiceRecommendationInfo) : Decidable (Stands row recommended) :=
  inferInstanceAs (Decidable (_ ∨ _))

/-! ## Groups -/

theorem groupFaults_perm (rows : List ServiceRecommendationInfo) :
    (groupFaults rows).flatten.Perm rows := by
  have services : ((((rows.filter fun row => row.kind ∈ eventArgued).map
      ServiceRecommendationInfo.service).reverse.dedup.reverse).flatMap fun service =>
        (rows.filter fun row => row.kind ∈ eventArgued).filter fun row =>
          row.service = service).Perm (rows.filter fun row => row.kind ∈ eventArgued) := by
    refine flatMap_keyed_all (List.nodup_reverse.mpr (List.nodup_dedup _)) fun row member => ?_
    rw [List.mem_reverse, List.mem_dedup, List.mem_reverse]
    exact List.mem_map_of_mem member
  rw [groupFaults, List.flatten_append, ← List.flatMap_def, ← List.flatMap_def,
    List.flatMap_singleton']
  refine (List.Perm.append_left _ ((List.Perm.flatMap_left _ fun service _ =>
    List.perm_insertionSort _ _).trans services)).trans ?_
  have parted := List.filter_append_perm (fun row : ServiceRecommendationInfo =>
      decide (row.kind ∈ eventArgued)) rows
  simp only [decide_not] at parted ⊢
  exact List.perm_append_comm.trans parted

theorem groupFaults_group {rows group : List ServiceRecommendationInfo}
    (member : group ∈ groupFaults rows) : (∃ row ∈ rows, group = [row] ∧ row.kind ∉ eventArgued) ∨
      group ≠ [] ∧ ∃ service, group.Perm
        ((rows.filter fun row => row.kind ∈ eventArgued).filter fun row => row.service = service) := by
  rcases List.mem_append.mp member with alone | together
  · obtain ⟨row, kept, rfl⟩ := List.mem_map.mp alone
    obtain ⟨inside, watching⟩ := List.mem_filter.mp kept
    exact Or.inl ⟨row, inside, rfl, by simpa using watching⟩
  · obtain ⟨service, named, rfl⟩ := List.mem_map.mp together
    rw [List.mem_reverse, List.mem_dedup, List.mem_reverse, List.mem_map] at named
    obtain ⟨row, inside, same⟩ := named
    refine Or.inr ⟨fun empty => ?_, service, List.perm_insertionSort _ _⟩
    have found : row ∈ ([] : List ServiceRecommendationInfo) := by
      rw [← empty, List.mem_insertionSort, List.mem_filter]
      exact ⟨inside, by simpa using same⟩
    cases found

theorem groupFaults_ne_nil {rows group : List ServiceRecommendationInfo}
    (member : group ∈ groupFaults rows) : group ≠ [] := by
  rcases groupFaults_group member with ⟨row, _, rfl, _⟩ | ⟨filled, _⟩
  · exact List.cons_ne_nil _ _
  · exact filled

theorem groupFaults_service {rows group : List ServiceRecommendationInfo}
    (member : group ∈ groupFaults rows) :
    ∃ service, ∀ row ∈ group, row ∈ rows ∧ row.service = service := by
  rcases groupFaults_group member with ⟨row, inside, rfl, _⟩ | ⟨_, service, perm⟩
  · exact ⟨row.service, fun other only => by rw [List.mem_singleton.mp only]; exact ⟨inside, rfl⟩⟩
  · refine ⟨service, fun row within => ?_⟩
    obtain ⟨event, same⟩ := List.mem_filter.mp (perm.mem_iff.mp within)
    exact ⟨List.mem_of_mem_filter event, of_decide_eq_true same⟩

theorem groupRow_cases {group : List ServiceRecommendationInfo} {row : ServiceRecommendationInfo}
    (made : groupRow group = some row) :
    group = [row] ∨ ∃ anchor second rest, group = anchor :: second :: rest ∧ row = foldedRow anchor
      (second :: rest) := by
  match group with
  | [] => cases made
  | [only] =>
    cases made
    exact Or.inl rfl
  | anchor :: second :: rest =>
    cases made
    exact Or.inr ⟨anchor, second, rest, rfl, rfl⟩

theorem groupRow_some {group : List ServiceRecommendationInfo} (filled : group ≠ []) :
    ∃ row, groupRow group = some row := by
  match group with
  | [] => exact absurd rfl filled
  | [only] => exact ⟨only, rfl⟩
  | anchor :: second :: rest => exact ⟨_, rfl⟩

theorem groupRow_points {group : List ServiceRecommendationInfo} {row : ServiceRecommendationInfo}
    (made : groupRow group = some row) : row.recoverablePoints = totalRecoverablePoints group := by
  rcases groupRow_cases made with rfl | ⟨anchor, second, rest, rfl, rfl⟩
  · rw [totalRecoverablePoints, List.map_singleton, List.sum_singleton]
  · rfl

theorem groupRow_service {group : List ServiceRecommendationInfo} {row : ServiceRecommendationInfo}
    {service : Text} (made : groupRow group = some row)
    (same : ∀ member ∈ group, member.service = service) : row.service = service := by
  rcases groupRow_cases made with rfl | ⟨anchor, second, rest, rfl, rfl⟩
  · exact same row List.mem_cons_self
  · exact same anchor List.mem_cons_self

theorem loudest_spec (anchor : ServiceRecommendationInfo) (others : List ServiceRecommendationInfo) :
    (∀ member ∈ anchor :: others, member.severity.rank ≤ (loudest (anchor :: others)).rank) ∧
      ∃ member ∈ anchor :: others, member.severity = loudest (anchor :: others) := by
  rw [loudest]
  split
  · rename_i loud
    obtain ⟨member, inside, risk⟩ := List.any_eq_true.mp loud
    refine ⟨fun other _ => ?_, member, inside, of_decide_eq_true risk⟩
    cases other.severity <;> decide
  · rename_i quiet
    have each : ∀ member ∈ anchor :: others, member.severity = .advice := by
      intro member inside
      cases severity : member.severity with
      | advice => rfl
      | risk => exact absurd (List.any_eq_true.mpr ⟨member, inside, by rw [severity]; decide⟩) quiet
    exact ⟨fun member inside =>
      by rw [each member inside], anchor, List.mem_cons_self, each anchor List.mem_cons_self⟩

/-! ## The rows of a service -/

section

variable {numbers : NumberText} {settings : ServiceActionsConfig} {timers : List TimerSeries}
  {logs : Dict Text ServiceLog} {checkIntervalSeconds now : Int} {score : ReliabilityScore}

theorem serviceRows_built {log : Option ServiceLog} {row : ServiceRecommendationInfo}
    (member : row ∈ serviceRows numbers score settings checkIntervalSeconds log) :
    Built score row := by
  rcases List.mem_append.mp member with early | interval
  · rcases List.mem_append.mp early with outage | flapping
    · obtain ⟨points, _, rfl⟩ := Option.map_eq_some_iff.mp (Option.mem_toList.mp outage)
      exact ⟨rfl, rfl, fun other => absurd rfl other⟩
    · split at flapping
      · obtain ⟨points, _, rfl⟩ := Option.map_eq_some_iff.mp (Option.mem_toList.mp flapping)
        exact ⟨rfl, rfl, fun _ other => absurd rfl other⟩
      · cases flapping
  · exact (checkIntervalRow_built (Option.mem_toList.mp interval)).2

theorem timerRows_shape {series : TimerSeries} (named : series.service = score.service) :
    ∃ failed stale, timerRows numbers series settings checkIntervalSeconds now = failed ++ stale ∧
      (failed.map ServiceRecommendationInfo.kind).Sublist [.timerFailed] ∧
      (stale.map ServiceRecommendationInfo.kind).Sublist [.timerStale] ∧ ∀ row ∈ failed ++ stale,
        Built score row := by
  obtain ⟨failed, stale, shape, failedKinds, staleKinds, plain⟩ :=
    @timerRows_split numbers settings checkIntervalSeconds now series
  refine ⟨failed, stale, shape, failedKinds, staleKinds, fun row member => ?_⟩
  obtain ⟨service, members, unpriced⟩ := plain row member
  exact ⟨service.trans named, members, fun _ _ => unpriced⟩

theorem toList_kind {made : Option ServiceRecommendationInfo} {kind : AdviceKind}
    (each : ∀ row, made = some row → row.kind = kind) :
    (made.toList.map ServiceRecommendationInfo.kind).Sublist [kind] := by
  cases made with
  | none => exact List.nil_sublist _
  | some row =>
    rw [Option.toList_some, List.map_singleton, each row rfl]

theorem serviceRows_kinds {log : Option ServiceLog} :
    ((serviceRows numbers score settings checkIntervalSeconds log).map
      ServiceRecommendationInfo.kind).Sublist ([.outage] ++ [.flapping] ++ [.checkInterval]) := by
  rw [serviceRows, List.map_append, List.map_append]
  refine ((toList_kind ?_).append ?_).append (toList_kind fun row made =>
    (checkIntervalRow_built made).1)
  · intro row made
    obtain ⟨points, _, rfl⟩ := Option.map_eq_some_iff.mp made
    rfl
  · split
    · refine toList_kind fun row made => ?_
      obtain ⟨points, _, rfl⟩ := Option.map_eq_some_iff.mp made
      rfl
    · exact List.nil_sublist _

theorem rowsOf_built : ((rowsOf numbers settings timers logs checkIntervalSeconds now score).map
      ServiceRecommendationInfo.kind).Nodup ∧
    ∀ row ∈ rowsOf numbers settings timers logs checkIntervalSeconds now score, Built score row := by
  simp only [rowsOf]
  split
  · exact ⟨List.nodup_nil, fun _ absent => absurd absent List.not_mem_nil⟩
  · have service :=
      @serviceRows_kinds numbers settings checkIntervalSeconds score (logs.get? score.service)
    split
    · rw [List.append_nil]
      exact ⟨List.Nodup.sublist service (by decide), fun row => serviceRows_built⟩
    · rename_i series found
      obtain ⟨failed, stale, shape, failedKinds, staleKinds, built⟩ :=
        @timerRows_shape numbers settings
        checkIntervalSeconds now score series (by simpa using List.find?_some found)
      rw [shape]
      constructor
      · rw [List.map_append, List.map_append]
        exact List.Nodup.sublist (service.append (failedKinds.append staleKinds)) (by decide)
      · intro row member
        rcases List.mem_append.mp member with early | late
        · exact serviceRows_built early
        · exact built row late

theorem keptRows_built {row : ServiceRecommendationInfo}
    (member : row ∈ keptRows numbers settings timers logs checkIntervalSeconds now score) :
    Built score row :=
  rowsOf_built.2 row (List.mem_of_mem_filter member)

theorem kept_distinct {scores : List ReliabilityScore}
    (distinct : (scores.map ReliabilityScore.service).Nodup) :
    ((scores.flatMap (keptRows numbers settings timers logs checkIntervalSeconds now)).map fun row =>
      (row.service, row.kind)).Nodup := by
  induction scores with
  | nil => exact List.nodup_nil
  | cons score rest ih =>
    obtain ⟨absent, distinct⟩ := List.nodup_cons.mp distinct
    rw [List.flatMap_cons, List.map_append]
    refine List.Nodup.append ?_ (ih distinct) ?_
    · have kinds := (@rowsOf_built numbers settings timers logs checkIntervalSeconds now score).1
      have kept := kinds.sublist (List.filter_sublist.map _ :
        ((keptRows numbers settings timers logs checkIntervalSeconds now score).map
          ServiceRecommendationInfo.kind).Sublist _)
      refine List.Nodup.of_map Prod.snd ?_
      rw [List.map_map]
      exact kept
    · intro pair here later
      obtain ⟨row, member, rfl⟩ := List.mem_map.mp here
      obtain ⟨other, among, same⟩ := List.mem_map.mp later
      obtain ⟨another, inside, kept⟩ := List.mem_flatMap.mp among
      refine absent (List.mem_map.mpr ⟨another, inside, ?_⟩)
      rw [← (keptRows_built kept).service, ← (keptRows_built member).service]
      exact congrArg Prod.fst same

end

end SysadminAssistant.Monitor.Reliability
