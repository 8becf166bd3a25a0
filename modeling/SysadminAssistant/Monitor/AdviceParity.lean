import SysadminAssistant.Monitor.ReliabilityHistory

namespace SysadminAssistant.Monitor.Reliability

open Python Library

/-! When the weekly review and the endpoint give the same advice. -/

/-! The rows that no fold touches. -/

theorem groupRow_kind {group : List ServiceRecommendationInfo} {row : ServiceRecommendationInfo}
    (events : ∀ member ∈ group, member.kind ∈ eventArgued) (made : groupRow group = some row) :
    row.kind ∈ eventArgued := by
  match group with
  | [] => simp [groupRow] at made
  | [only] =>
    cases made
    exact events row List.mem_cons_self
  | anchor :: second :: rest =>
    cases made
    exact events anchor List.mem_cons_self

theorem mem_folded {rows : List ServiceRecommendationInfo} {row : ServiceRecommendationInfo}
    (watching : row.kind ∉ eventArgued) :
    row ∈ (groupFaults rows).filterMap groupRow ↔ row ∈ rows := by
  rw [List.mem_filterMap]
  constructor
  · intro folded
    obtain ⟨group, member, made⟩ := folded
    rcases List.mem_append.mp member with alone | together
    · obtain ⟨only, kept, rfl⟩ := List.mem_map.mp alone
      cases made
      exact List.mem_of_mem_filter kept
    · obtain ⟨service, _, rfl⟩ := List.mem_map.mp together
      refine absurd (groupRow_kind ?_ made) watching
      intro other inside
      rw [List.mem_insertionSort] at inside
      simpa using (List.mem_filter.mp (List.mem_of_mem_filter inside)).2
  · intro present
    exact ⟨[row],
      List.mem_append_left _ (List.mem_map.mpr ⟨row,
        List.mem_filter.mpr ⟨present, by simpa using watching⟩, rfl⟩), rfl⟩

section

variable {numbers : NumberText} {settings : ServiceActionsConfig} {timers : List TimerSeries}
  {logs : Dict Text ServiceLog} {checkIntervalSeconds now : Int}

/-- A row as it is built: it stands for itself alone. -/
structure Built (score : ReliabilityScore) (row : ServiceRecommendationInfo) : Prop where
  service : row.service = score.service
  members : row.members = []
  unpriced : row.kind ≠ .outage → row.kind ≠ .flapping → row.recoverablePoints = 0

theorem checkIntervalRow_built {score : ReliabilityScore} {log : Option ServiceLog}
    {row : ServiceRecommendationInfo}
    (made : checkIntervalRow numbers score settings checkIntervalSeconds log = some row) :
    row.kind = .checkInterval ∧ Built score row := by
  have blips : ∃ title detail action evidence, row = blipRow score title detail action evidence := by
    simp only [checkIntervalRow] at made
    split at made
    · cases made
    · split at made
      · cases made
        exact ⟨_, _, _, _, rfl⟩
      · split at made
        · cases made
          exact ⟨_, _, _, _, rfl⟩
        · split at made <;> cases made <;> exact ⟨_, _, _, _, rfl⟩
  obtain ⟨title, detail, action, evidence, rfl⟩ := blips
  exact ⟨rfl, rfl, rfl, fun _ _ => rfl⟩

theorem timerRows_split (series : TimerSeries) :
    ∃ failed stale, timerRows numbers series settings checkIntervalSeconds now = failed ++ stale ∧
      (failed.map ServiceRecommendationInfo.kind).Sublist [.timerFailed] ∧
      (stale.map ServiceRecommendationInfo.kind).Sublist [.timerStale] ∧
      ∀ row ∈ failed ++ stale, row.service = series.service ∧ row.members = [] ∧
        row.recoverablePoints = 0 := by
  simp only [timerRows]
  split
  · exact ⟨[], [], rfl, List.nil_sublist _, List.nil_sublist _, fun _ absent =>
      absurd absent List.not_mem_nil⟩
  · refine ⟨_, _, rfl, ?_, ?_, fun row member => ?_⟩
    · split
      · split
        · exact List.nil_sublist _
        · exact List.Sublist.refl _
      · exact List.nil_sublist _
    · simp only [timerStaleRow]
      split
      · exact List.nil_sublist _
      · split
        · split
          · exact List.nil_sublist _
          · exact List.Sublist.refl _
        · exact List.nil_sublist _
    · rcases List.mem_append.mp member with failed | stale
      · split at failed
        · split at failed
          · cases failed
          · rw [List.mem_singleton.mp failed]
            exact ⟨rfl, rfl, rfl⟩
        · cases failed
      · simp only [timerStaleRow, Option.mem_toList] at stale
        split at stale
        · cases stale
        · split at stale
          · rw [Option.ite_none_left_eq_some] at stale
            rw [← Option.some.inj stale.2]
            exact ⟨rfl, rfl, rfl⟩
          · cases stale

theorem timerRows_kind {series : TimerSeries} {row : ServiceRecommendationInfo}
    (member : row ∈ timerRows numbers series settings checkIntervalSeconds now) :
    row.kind ≠ .checkInterval := by
  obtain ⟨failed, stale, shape, failedKinds, staleKinds, _⟩ :=
    @timerRows_split numbers settings checkIntervalSeconds now series
  rw [shape] at member
  intro same
  rcases List.mem_append.mp member with inFailed | inStale
  · have kind := failedKinds.subset (List.mem_map_of_mem inFailed)
    rw [same] at kind
    exact absurd kind (by decide)
  · have kind := staleKinds.subset (List.mem_map_of_mem inStale)
    rw [same] at kind
    exact absurd kind (by decide)

theorem mem_rowsOf {score : ReliabilityScore} {row : ServiceRecommendationInfo}
    (kind : row.kind = .checkInterval) :
    row ∈ rowsOf numbers settings timers logs checkIntervalSeconds now score ↔ score.muted = false ∧
      checkIntervalRow numbers score settings checkIntervalSeconds (logs.get? score.service) =
        some row := by
  have noOutage : row ∉ ((appliedPoints score .downtime).map (outageRow numbers score)).toList := by
    intro member
    rw [Option.mem_toList] at member
    obtain ⟨points, _, rfl⟩ := Option.map_eq_some_iff.mp member
    cases kind
  have noFlapping : row ∉
      ((appliedPoints score .instability).map (flappingRow numbers score)).toList := by
    intro member
    rw [Option.mem_toList] at member
    obtain ⟨points, _, rfl⟩ := Option.map_eq_some_iff.mp member
    cases kind
  have noTimer : ∀ series, row ∉ timerRows numbers series settings checkIntervalSeconds now :=
    fun series member => timerRows_kind member kind
  simp only [rowsOf, serviceRows]
  cases score.muted with
  | true => simp
  | false =>
    simp only [Bool.false_eq_true, if_false, List.mem_append, noOutage, false_or, true_and,
      Option.mem_toList]
    have flapping : row ∉ (if settings.flapMinEpisodes ≤ score.outageEpisodes then
        ((appliedPoints score .instability).map (flappingRow numbers score)).toList else []) := by
      split
      · exact noFlapping
      · exact List.not_mem_nil
    constructor
    · intro present
      rcases present with present | timer
      · exact present.resolve_left flapping
      · split at timer
        · cases timer
        · exact absurd timer (noTimer _)
    · exact fun made => Or.inl (Or.inr made)

theorem mem_recommendations {scores : List ReliabilityScore} {row : ServiceRecommendationInfo}
    (kind : row.kind = .checkInterval) :
    row ∈ (recommend numbers settings timers logs checkIntervalSeconds now scores).recommendations ↔
      ∃ score ∈ scores, score.muted = false ∧ score.confidence = .high ∧
        checkIntervalRow numbers score settings checkIntervalSeconds (logs.get? score.service) =
          some row := by
  have watching : row.kind ∉ eventArgued := by rw [kind]; decide
  have rate : row.kind ∈ rateArgued := by rw [kind]; decide
  simp only [recommend, List.mem_insertionSort, mem_folded watching, List.mem_flatMap, keptRows,
    List.mem_filter, mem_rowsOf kind, withheld, rate, decide_true, Bool.true_and, Bool.not_eq_true',
    decide_eq_false_iff_not, ne_eq, not_not]
  constructor
  · intro found
    obtain ⟨score, member, ⟨heard, made⟩, confident⟩ := found
    exact ⟨score, member, heard, confident, made⟩
  · intro found
    obtain ⟨score, member, heard, confident, made⟩ := found
    exact ⟨score, member, ⟨heard, made⟩, confident⟩

theorem checkIntervalRow_log {score : ReliabilityScore} {log : ServiceLog}
    (shaped : isBlipShaped score settings) :
    checkIntervalRow numbers score settings checkIntervalSeconds (some log) ≠
      checkIntervalRow numbers score settings checkIntervalSeconds none := by
  intro same
  simp only [checkIntervalRow, shaped, Bool.not_true, Bool.false_eq_true, if_false] at same
  split at same
  · have evidence := congrArg ServiceRecommendationInfo.evidence (Option.some.inj same)
    contradiction
  · split at same
    · have evidence := congrArg ServiceRecommendationInfo.evidence (Option.some.inj same)
      contradiction
    · have action := congrArg (fun row => row.action.head?) (Option.some.inj same)
      have heads : (text "Read ").head? ≠ (text "Declare a log: for ").head? := by decide
      exact heads action

theorem checkIntervalRow_unshaped {score : ReliabilityScore} {log : Option ServiceLog}
    (unshaped : isBlipShaped score settings = false) :
    checkIntervalRow numbers score settings checkIntervalSeconds log = none := by
  simp [checkIntervalRow, unshaped]

theorem checkIntervalRow_shaped {score : ReliabilityScore} (log : Option ServiceLog)
    (shaped : isBlipShaped score settings = true) :
    ∃ row, checkIntervalRow numbers score settings checkIntervalSeconds log = some row := by
  simp only [checkIntervalRow, shaped, Bool.not_true, Bool.false_eq_true, if_false]
  cases log with
  | none => exact ⟨_, rfl⟩
  | some log =>
    dsimp only
    split
    · exact ⟨_, rfl⟩
    · split <;> exact ⟨_, rfl⟩

theorem rows_congr {other : Dict Text ServiceLog} {score : ReliabilityScore}
    (agree : score.muted = false → isBlipShaped score settings → score.confidence = .high →
      logs.get? score.service = other.get? score.service) :
    keptRows numbers settings timers logs checkIntervalSeconds now score =
        keptRows numbers settings timers other checkIntervalSeconds now score ∧
      suppressedRows numbers settings timers logs checkIntervalSeconds now score =
        suppressedRows numbers settings timers other checkIntervalSeconds now score := by
  cases heard : score.muted with
  | true => simp [keptRows, suppressedRows, rowsOf, heard]
  | false =>
    cases shaped : isBlipShaped score settings with
    | false =>
      simp [keptRows, suppressedRows, rowsOf, heard, serviceRows,
        checkIntervalRow_unshaped shaped]
    | true =>
      cases confident : score.confidence with
      | high => simp only [keptRows, suppressedRows, rowsOf, agree heard shaped confident, and_self]
      | low =>
        obtain ⟨left, leftMade⟩ := @checkIntervalRow_shaped numbers settings checkIntervalSeconds score
          (logs.get? score.service) shaped
        obtain ⟨right, rightMade⟩ :=
          @checkIntervalRow_shaped numbers settings checkIntervalSeconds score
          (other.get? score.service) shaped
        have leftHeld : withheld score left = true := by
          simp [withheld, confident, (checkIntervalRow_built leftMade).1, rateArgued]
        have rightHeld : withheld score right = true := by
          simp [withheld, confident, (checkIntervalRow_built rightMade).1, rateArgued]
        constructor
        · simp [keptRows, rowsOf, heard, serviceRows, leftMade, rightMade, List.filter_append,
            leftHeld, rightHeld]
        · simp [suppressedRows, rowsOf, heard, serviceRows, leftMade, rightMade,
            List.filter_append, leftHeld, rightHeld]

theorem recommend_congr {other : Dict Text ServiceLog} {scores : List ReliabilityScore}
    (agree : ∀ score ∈ scores, score.muted = false → isBlipShaped score settings →
      score.confidence = .high → logs.get? score.service = other.get? score.service) :
    recommend numbers settings timers logs checkIntervalSeconds now scores =
      recommend numbers settings timers other checkIntervalSeconds now scores := by
  have kept : scores.flatMap (keptRows numbers settings timers logs checkIntervalSeconds now) =
      scores.flatMap (keptRows numbers settings timers other checkIntervalSeconds now) :=
    List.flatMap_congr fun score member => (rows_congr (agree score member)).1
  have suppressed : scores.map (suppressedRows numbers settings timers logs checkIntervalSeconds now) =
      scores.map (suppressedRows numbers settings timers other checkIntervalSeconds now) :=
    List.map_congr_left fun score member => (rows_congr (agree score member)).2
  simp only [recommend, kept, suppressed]

end

/-! What the endpoint reads of the logs. -/

section

variable (numbers : NumberText) (database : CharDatabase) (config : ReliabilityConfig)
  (services : List MonitoredService) (tables : Tables) (now : Int)

theorem computeReliability_nodup :
    ((computeReliability numbers config services tables now).map ReliabilityScore.service).Nodup :=
  scoreServices_nodup numbers _ _ _

theorem same_score {left right : ReliabilityScore}
    (first : left ∈ computeReliability numbers config services tables now)
    (second : right ∈ computeReliability numbers config services tables now)
    (same : left.service = right.service) :
    left = right :=
  List.inj_on_of_nodup_map (computeReliability_nodup numbers config services tables now)
    first second same

theorem get?_fetchBlipLogs {scores : List ReliabilityScore}
    (nodup : (scores.map ReliabilityScore.service).Nodup) {score : ReliabilityScore}
    (member : score ∈ scores) :
    (fetchBlipLogs database config services tables scores).get? score.service =
      (readSource config services score).map (blipLog database tables score) := by
  have keys : ((scores.filterMap fun score => (readSource config services score).map fun stored =>
      (score.service, blipLog database tables score stored)).map Prod.fst).Sublist
        (scores.map ReliabilityScore.service) := by
    clear member nodup
    induction scores with
    | nil => exact List.Sublist.refl _
    | cons first rest ih =>
      cases read : readSource config services first with
      | none => simpa [read] using ih.cons first.service
      | some stored => simpa [read] using ih.cons_cons first.service
  cases read : readSource config services score with
  | some stored =>
    refine Dict.get?_ofEntries (keys.nodup nodup) ?_
    exact List.mem_filterMap.mpr ⟨score, member, by simp [read]⟩
  | none =>
    refine Dict.get?_ofEntries_absent fun present => ?_
    obtain ⟨entry, listed, same⟩ := List.mem_map.mp present
    obtain ⟨other, inside, made⟩ := List.mem_filterMap.mp listed
    obtain ⟨stored, found, rfl⟩ := Option.map_eq_some_iff.mp made
    have equal := List.inj_on_of_nodup_map nodup inside member same
    rw [equal, read] at found
    contradiction

theorem advice_differs {score : ReliabilityScore} {stored : Text}
    (member : score ∈ computeReliability numbers config services tables now)
    (confident : score.confidence = .high)
    (found : readSource config services score = some stored) :
    reviewAdvice numbers config services tables now ≠
      actionsAdvice numbers database config services tables now := by
  intro same
  have nodup := computeReliability_nodup numbers config services tables now
  have gated : ¬ (score.muted = true ∨ isBlipShaped score config.serviceActions = false ∨
      score.episodeStarts = []) := by
    intro gate
    simp [readSource, gate] at found
  simp only [not_or, Bool.not_eq_true, Bool.not_eq_false] at gated
  obtain ⟨heard, shaped, _⟩ := gated
  obtain ⟨row, made⟩ :=
    @checkIntervalRow_shaped numbers config.serviceActions config.healthCheckIntervalSeconds score
    (some (blipLog database tables score stored)) shaped
  have spec := checkIntervalRow_built made
  have listed : row ∈ (actionsAdvice numbers database config services tables now).recommendations := by
    refine (mem_recommendations spec.1).mpr ⟨score, member, heard, confident, ?_⟩
    rw [get?_fetchBlipLogs database config services tables nodup member, found]
    exact made
  rw [← same] at listed
  obtain ⟨other, inside, _, _, otherMade⟩ := (mem_recommendations spec.1).mp listed
  have service := (checkIntervalRow_built otherMade).2.service
  rw [spec.2.service] at service
  have equal := same_score numbers config services tables now member inside service
  subst equal
  rw [Dict.get?_empty] at otherMade
  exact checkIntervalRow_log shaped (made.trans otherMade.symm)

/-- The review reads no log, so its advice is the endpoint's exactly when the endpoint has none to
read for a row that it shows. -/
theorem reviewAdvice_eq_iff : reviewAdvice numbers config services tables now =
      actionsAdvice numbers database config services tables now ↔
    ∀ score ∈ computeReliability numbers config services tables now,
      score.confidence = .high → readSource config services score = none := by
  constructor
  · intro same score member confident
    by_contra read
    obtain ⟨stored, found⟩ := Option.ne_none_iff_exists'.mp read
    exact advice_differs numbers database config services tables now member confident found same
  · intro unread
    have nodup := computeReliability_nodup numbers config services tables now
    refine recommend_congr fun score member _ _ confident => ?_
    rw [get?_fetchBlipLogs database config services tables nodup member,
      unread score member confident, Dict.get?_empty]
    rfl

end

def plainNumbers : NumberText where
  general value := intText (roundHalfEven value)
  fixed _ value := intText (roundHalfEven value)

def dailyConfig : ReliabilityConfig where
  windowDays := 7
  gradeBands := { reliableMin := 95, degradedMin := 85, unreliableMin := 60 }
  healthCheckIntervalSeconds := 86400
  muteServices := []
  serviceActions := { flapMinEpisodes := 3, timerStaleMultiplier := 3, timerLookbackDays := 30 }

/-- A service that declares its journal. -/
def searxng : MonitoredService where
  name := text "searxng"
  isTimer := false
  systemd := some ⟨text "searxng.service", .user⟩
  mute := false
  log := some {}

/-- Every other one of seven checks failed, and the journal has an error at one of them. -/
def blippingTables : Tables where
  serviceHealth :=
    ([.ok, .critical, .ok, .critical, .ok, .critical, .ok] : List ServiceStatus).zipIdx.map
      fun check =>
    { serviceName := text "searxng", status := check.1, checkedAt := check.2 * day, lastRun := none,
      lastResult := none, triggeredUnit := none, isActive := none }
  logEntries := [
    { id := 1, source := text "searxng.service", severity := .error, message := text "worker died",
      loggedAt := day, rawLine := none, metadata := [] }]

/-- The endpoint reads the journal at the blips, and the review does not. -/
theorem review_reads_no_log :
    reviewAdvice plainNumbers dailyConfig [searxng] blippingTables (6 * day) ≠
    actionsAdvice plainNumbers .ascii dailyConfig [searxng] blippingTables (6 * day) := by
  have read : ∃ score ∈ computeReliability plainNumbers dailyConfig [searxng] blippingTables (6 * day),
      score.confidence = .high ∧ readSource dailyConfig [searxng] score =
        some (text "searxng.service") := by
    decide +kernel
  obtain ⟨score, member, confident, found⟩ := read
  exact advice_differs plainNumbers .ascii dailyConfig [searxng] blippingTables
    (6 * day) member confident found

end SysadminAssistant.Monitor.Reliability
