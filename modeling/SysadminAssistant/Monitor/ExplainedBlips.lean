import SysadminAssistant.Monitor.LogActions
import SysadminAssistant.Monitor.OutageRuns
import SysadminAssistant.Python.DecimalText

namespace SysadminAssistant.Monitor.Reliability

open Python Library

/-! What the row about one-check outages says of the service's own log. -/

/-- The service's own fault lines within a minute of a blip. -/
def ownNear (log : ServiceLog) (start : Int) : List LogLine :=
  log.lines.filter fun line => line.source = log.source ∧ |line.firstSeen - start| ≤ blipLogWindow

def blipAt (log : ServiceLog) (start : Int) : LogLine :=
  { source := log.source, signature := blipSignature, firstSeen := start }

def corroborates (log : ServiceLog) (start : Int) : Bool :=
  ((correlate none (.finite blipLogWindowSeconds) (blipAt log start :: ownNear log start)).find?
    fun group =>
    blipAt log start ∈ group).any fun mine => mine.any fun member => member.signature ≠ blipSignature

theorem corroboratedBlips_filter (starts : List Int) (log : ServiceLog) :
    corroboratedBlips starts log = (starts.filter (corroborates log)).length :=
  rfl

section

variable {log : ServiceLog} {start : Int} {line : LogLine}

theorem mem_ownNear : line ∈ ownNear log start ↔
    line ∈ log.lines ∧ line.source = log.source ∧ |line.firstSeen - start| ≤ blipLogWindow := by
  rw [ownNear, List.mem_filter, decide_eq_true_eq]

theorem ownNear_within (near : line ∈ ownNear log start) :
    start ≤ line.firstSeen + blipLogWindow ∧ line.firstSeen ≤ start + blipLogWindow := by
  have apart := abs_le.mp (mem_ownNear.mp near).2.2
  omega

theorem grouped_source (member : line ∈ blipAt log start :: ownNear log start) :
    line.source = log.source := by
  rcases List.mem_cons.mp member with own | near
  · rw [own]
    rfl
  · exact (mem_ownNear.mp near).2.1

theorem beyondWindow_minute {anchor other : LogLine} (order : anchor.firstSeen ≤ other.firstSeen) :
    beyondWindow (.finite blipLogWindowSeconds) anchor other = false ↔
      other.firstSeen ≤ anchor.firstSeen + blipLogWindow := by
  have within := @totalSeconds_le_sixty (other.firstSeen - anchor.firstSeen) (by omega)
  change decide (blipLogWindowSeconds < totalSeconds (other.firstSeen - anchor.firstSeen)) = false ↔ _
  rw [decide_eq_false_iff_not, not_lt]
  change totalSeconds (other.firstSeen - anchor.firstSeen) ≤ 60 ↔
    other.firstSeen ≤ anchor.firstSeen + 60 * 1000000
  rw [within]
  omega

theorem correlate_blip : ∃ anchor mine later,
    correlate none (.finite blipLogWindowSeconds) (blipAt log start :: ownNear log start) =
      mine :: later ∧
    anchor ∈ blipAt log start :: ownNear log start ∧
    (∀ line ∈ blipAt log start :: ownNear log start, anchor.firstSeen ≤ line.firstSeen) ∧
    ∀ line, line ∈ mine ↔ line ∈ blipAt log start :: ownNear log start ∧
      line.firstSeen ≤ anchor.firstSeen + blipLogWindow := by
  have perm :=
    List.perm_insertionSort (fun left right : LogLine => correlationKey left ≤ correlationKey right)
    (blipAt log start :: ownNear log start)
  have sorted :=
    List.pairwise_insertionSort (fun left right : LogLine =>
      correlationKey left ≤ correlationKey right) (blipAt log start :: ownNear log start)
  rw [correlate]
  cases items : (blipAt log start :: ownNear log start).insertionSort fun left right : LogLine =>
      correlationKey left ≤ correlationKey right with
  | nil =>
    rw [items] at perm
    exact absurd perm.symm.eq_nil (List.cons_ne_nil _ _)
  | cons anchor rest =>
    rw [items] at perm sorted
    obtain ⟨claimed, later, shape, taken⟩ :=
      @AnchorGroups.groups_first _ (beyondWindow (.finite blipLogWindowSeconds))
      (sharesSource none) _ anchor rest sorted beyondWindow_further
    have inside : anchor ∈ blipAt log start :: ownNear log start := perm.mem_iff.mp List.mem_cons_self
    have earliest : ∀ line ∈ blipAt log start :: ownNear log start,
        anchor.firstSeen ≤ line.firstSeen := by
      intro line member
      rcases List.mem_cons.mp (perm.mem_iff.mpr member) with own | after
      · rw [own]
      · exact firstSeen_le_of_key (List.rel_of_pairwise_cons sorted after)
    refine ⟨anchor, anchor :: claimed, later, shape, inside, earliest, fun line => ?_⟩
    rw [List.mem_cons, taken]
    constructor
    · intro grouped
      rcases grouped with own | ⟨after, near, _⟩
      · rw [own]
        exact ⟨inside, by simp only [blipLogWindow]; omega⟩
      · have member := perm.mem_iff.mp (List.mem_cons_of_mem _ after)
        exact ⟨member, (beyondWindow_minute (earliest line member)).mp near⟩
    · intro grouped
      rcases List.mem_cons.mp (perm.mem_iff.mpr grouped.1) with own | after
      · exact Or.inl own
      · refine Or.inr ⟨after, (beyondWindow_minute (earliest line grouped.1)).mpr grouped.2, ?_⟩
        have same : line.source = anchor.source :=
          (grouped_source grouped.1).trans (grouped_source inside).symm
        simp only [sharesSource, Correlatable.source, same, decide_true, Bool.true_or]

theorem corroborates_iff : corroborates log start = true ↔ ∃ line ∈ ownNear log start,
    line.signature ≠ blipSignature ∧
      ∀ other ∈ ownNear log start, line.firstSeen ≤ other.firstSeen + blipLogWindow := by
  obtain ⟨anchor, mine, later, shape, inside, earliest, members⟩ := @correlate_blip log start
  have held : blipAt log start ∈ mine := by
    refine (members _).mpr ⟨List.mem_cons_self, ?_⟩
    rcases List.mem_cons.mp inside with own | near
    · rw [own]
      simp only [blipLogWindow]
      omega
    · exact (ownNear_within near).1
  rw [corroborates, shape, List.find?_cons_of_pos (by simpa using held), Option.any_some,
    List.any_eq_true]
  constructor
  · intro found
    obtain ⟨line, member, signed⟩ := found
    have signed : line.signature ≠ blipSignature := of_decide_eq_true signed
    obtain ⟨grouped, within⟩ := (members line).mp member
    rcases List.mem_cons.mp grouped with own | near
    · rw [own] at signed
      exact absurd rfl signed
    · refine ⟨line, near, signed, fun other member => ?_⟩
      have first := earliest other (List.mem_cons_of_mem _ member)
      omega
  · intro found
    obtain ⟨line, near, signed, within⟩ := found
    refine ⟨line, (members line).mpr ⟨List.mem_cons_of_mem _ near, ?_⟩, decide_eq_true signed⟩
    rcases List.mem_cons.mp inside with own | first
    · rw [own]
      exact (ownNear_within near).2
    · exact within anchor first

end

/-! ## The row -/

/-- The row of a service whose log explains so many of its blips. -/
def explainedRow (numbers : NumberText) (score : ReliabilityScore) (checkIntervalSeconds : Int)
    (log : ServiceLog) (hit : Nat) : ServiceRecommendationInfo :=
  if hit ≠ 0 then corroboratedRow numbers score log hit
  else if log.windowFaults ≠ 0 then quietRow numbers score log
  else silentRow score checkIntervalSeconds log

section

variable {numbers : NumberText} {score : ReliabilityScore} {settings : ServiceActionsConfig}
  {checkIntervalSeconds : Int} {log : ServiceLog}

theorem checkIntervalRow_explained (shaped : isBlipShaped score settings = true) :
    checkIntervalRow numbers score settings checkIntervalSeconds (some log) =
      some (explainedRow numbers score checkIntervalSeconds log
        (corroboratedBlips score.episodeStarts log)) := by
  rw [checkIntervalRow, if_neg (by simp [shaped])]
  simp only [explainedRow]
  by_cases hit : corroboratedBlips score.episodeStarts log = 0
  · rw [if_neg (not_not.mpr hit), if_neg (not_not.mpr hit)]
    by_cases quiet : log.windowFaults = 0
    · rw [if_neg (not_not.mpr quiet), if_neg (not_not.mpr quiet)]
    · rw [if_pos quiet, if_pos quiet]
  · rw [if_pos hit, if_pos hit]

theorem isBlipShaped_of_row {row : ServiceRecommendationInfo}
    (made : checkIntervalRow numbers score settings checkIntervalSeconds (some log) = some row) :
    isBlipShaped score settings = true := by
  rw [checkIntervalRow] at made
  by_contra other
  rw [if_pos (by simpa using other)] at made
  cases made

theorem corroboratedRow_ne {hit : Nat} :
    corroboratedRow numbers score log hit ≠ explainedRow numbers score checkIntervalSeconds log 0 := by
  intro same
  rw [explainedRow, if_neg (not_not.mpr rfl)] at same
  by_cases quiet : log.windowFaults = 0
  · rw [if_neg (not_not.mpr quiet)] at same
    exact absurd (congrArg ServiceRecommendationInfo.evidence same)
      (by simp [corroboratedRow, silentRow, unreadRow, blipRow])
  · rw [if_pos quiet] at same
    have titles := congrArg ServiceRecommendationInfo.title same
    change blipTitle score ++ text " — its own log shows a fault at " ++ intText hit =
      blipTitle score ++ text " — its own log is quiet at every one" at titles
    rw [List.append_assoc, List.append_cancel_left_eq] at titles
    have heads := congrArg (List.take 17) titles
    rw [List.take_append_of_le_length (by decide)] at heads
    exact absurd heads (by decide)

theorem explainedRow_injective {hit other : Nat}
    (same : explainedRow numbers score checkIntervalSeconds log hit =
    explainedRow numbers score checkIntervalSeconds log other) : hit = other := by
  by_cases none_ : hit = 0
  · by_cases none' : other = 0
    · rw [none_, none']
    · rw [none_] at same
      have stated : explainedRow numbers score checkIntervalSeconds log other =
          corroboratedRow numbers score log other :=
        if_pos none'
      rw [stated] at same
      exact absurd same.symm corroboratedRow_ne
  · have stated : explainedRow numbers score checkIntervalSeconds log hit =
        corroboratedRow numbers score log hit :=
      if_pos none_
    rw [stated] at same
    by_cases none' : other = 0
    · rw [none'] at same
      exact absurd same corroboratedRow_ne
    · have stated' : explainedRow numbers score checkIntervalSeconds log other =
          corroboratedRow numbers score log other :=
        if_pos none'
      rw [stated'] at same
      have titles := congrArg ServiceRecommendationInfo.title same
      exact Int.ofNat.inj (intText_injective (List.append_cancel_left titles))

end

/-- The blips with a fault line of the service's own within a minute on either side. -/
def explainedBlips (starts : List Int) (log : ServiceLog) : Nat :=
  (starts.filter fun start => log.lines.any fun line =>
    line.source = log.source ∧ |line.firstSeen - start| ≤ 60 * 1000000).length

/-- Enough outages, each shorter than three seconds. -/
def Brief (settings : ServiceActionsConfig) (outages : List (List HealthPoint)) : Prop :=
  settings.flapMinEpisodes ≤ outages.length ∧ ∀ run ∈ outages, lasted run < 3000000

section

variable {numbers : NumberText} {window : Window} {settings : ServiceActionsConfig} {service : Text}
  {points : List HealthPoint} {muted : Bool} {checkIntervalSeconds : Int} {log : ServiceLog}

/-- The shape is of one-check outages, and the row states how many of them the service's own log
explains. -/
structure BlipRowExact (numbers : NumberText) (window : Window) (settings : ServiceActionsConfig)
    (service : Text) (points : List HealthPoint) (muted : Bool) (checkIntervalSeconds : Int)
    (log : ServiceLog) : Prop where
  shaped : isBlipShaped (scoreService numbers window service points muted) settings = true ↔
    settings.flapMinEpisodes ≤ (outages window points).length ∧ ∀ run ∈ outages window points,
      run.length = 1
  explained : ∀ row,
    checkIntervalRow numbers (scoreService numbers window service points muted) settings
    checkIntervalSeconds (some log) = some row →
      row = explainedRow numbers (scoreService numbers window service points muted)
        checkIntervalSeconds log
        (explainedBlips ((outages window points).map fun run => (spanOf run).1) log)

/-- Of brief outages each is of one check; and where lines are near its start, one of them is not
signed as a blip and comes at most a minute after each of the others. -/
structure BlipsTell (window : Window) (settings : ServiceActionsConfig) (points : List HealthPoint)
    (log : ServiceLog) : Prop where
  single : Brief settings (outages window points) → ∀ run ∈ outages window points, run.length = 1
  signed : Brief settings (outages window points) → ∀ run ∈ outages window points,
    ownNear log (spanOf run).1 ≠ [] →
    ∃ line ∈ ownNear log (spanOf run).1, line.signature ≠ blipSignature ∧
      ∀ other ∈ ownNear log (spanOf run).1, line.firstSeen ≤ other.firstSeen + blipLogWindow

theorem ownNear_any (log : ServiceLog) (start : Int) : (log.lines.any fun line =>
    line.source = log.source ∧ |line.firstSeen - start| ≤ 60 * 1000000) = true ↔
      ownNear log start ≠ [] := by
  rw [List.any_eq_true]
  constructor
  · intro found
    obtain ⟨line, member, near⟩ := found
    exact List.ne_nil_of_mem (mem_ownNear.mpr ⟨member, of_decide_eq_true near⟩)
  · intro some_
    obtain ⟨line, near⟩ := List.exists_mem_of_ne_nil _ some_
    obtain ⟨member, close⟩ := mem_ownNear.mp near
    exact ⟨line, member, decide_eq_true close⟩

theorem corroboratedBlips_eq_iff (starts : List Int) (log : ServiceLog) :
    corroboratedBlips starts log = explainedBlips starts log ↔
      ∀ start ∈ starts, ownNear log start ≠ [] → corroborates log start = true := by
  have both : starts.filter (corroborates log) = (starts.filter fun start => log.lines.any fun line =>
      line.source = log.source ∧
        |line.firstSeen - start| ≤ 60 * 1000000).filter (corroborates log) := by
    rw [List.filter_filter]
    refine List.filter_congr fun start _ => ?_
    cases found : corroborates log start with
    | false => rfl
    | true =>
      obtain ⟨line, near, _⟩ := corroborates_iff.mp found
      exact ((ownNear_any log start).mpr (List.ne_nil_of_mem near)).symm
  rw [corroboratedBlips_filter, explainedBlips, both, List.length_filter_eq_length_iff]
  constructor
  · intro all start member near
    exact all start (List.mem_filter.mpr ⟨member, (ownNear_any log start).mpr near⟩)
  · intro all start member
    obtain ⟨inside, near⟩ := List.mem_filter.mp member
    exact all start inside ((ownNear_any log start).mp near)

theorem brief_of_single (enough : settings.flapMinEpisodes ≤ (outages window points).length)
    (single : ∀ run ∈ outages window points, run.length = 1) :
    Brief settings (outages window points) :=
  ⟨enough, fun run member => by
    rw [lasted_single (single run member)]
    decide⟩

/-- What the row says is exact if and only if the checks and the lines tell. -/
theorem blip_row_exact_iff (distinct : (points.map HealthPoint.checkedAt).Nodup) :
    BlipRowExact numbers window settings service points muted checkIntervalSeconds log ↔
      BlipsTell window settings points log := by
  have shape : isBlipShaped (scoreService numbers window service points muted) settings = true ↔
      Brief settings (outages window points) := isBlipShaped_brief settings distinct
  have starts := (@scoreService_outages numbers window service points muted).2.1
  have counted : (∀ start ∈ (outages window points).map fun run => (spanOf run).1,
      ownNear log start ≠ [] → corroborates log start = true) ↔ ∀ run ∈ outages window points,
        ownNear log (spanOf run).1 ≠ [] → corroborates log (spanOf run).1 = true := List.forall_mem_map
  constructor
  · intro exact_
    refine ⟨fun brief => ?_, fun brief run member near => ?_⟩
    · exact (exact_.shaped.mp (shape.mpr brief)).2
    · have row := exact_.explained _ (checkIntervalRow_explained (shape.mpr brief))
      have count := explainedRow_injective row
      rw [starts, corroboratedBlips_eq_iff, counted] at count
      exact corroborates_iff.mp (count run member near)
  · intro tell
    refine ⟨shape.trans ⟨fun brief => ⟨brief.1, tell.single brief⟩, fun single => ?_⟩,
      fun row made => ?_⟩
    · exact brief_of_single single.1 single.2
    · have shaped := isBlipShaped_of_row made
      rw [checkIntervalRow_explained shaped, starts] at made
      rw [← Option.some.inj made]
      refine congrArg _ ((corroboratedBlips_eq_iff _ log).mpr (counted.mpr fun run member near => ?_))
      exact corroborates_iff.mpr (tell.signed (shape.mp shaped) run member near)

end

def dayWindow : Window :=
  { days := 1, checkIntervalSeconds := 300, now := day, gradeBands := ⟨95, 85, 60⟩ }

def healthAt (seconds : Int) (status : ServiceStatus) : HealthPoint :=
  { checkedAt := seconds * 1000000, status }

def threeOutages : ServiceActionsConfig :=
  { flapMinEpisodes := 3, timerStaleMultiplier := 3, timerLookbackDays := 14 }

def threeBlips : List HealthPoint :=
  [healthAt 0 .critical, healthAt 300 .ok, healthAt 600 .critical, healthAt 900 .ok,
  healthAt 1200 .critical, healthAt 1500 .ok]

def backendLog : ServiceLog :=
  { source := text "backend", windowFaults := 2
    lines := [{ source := text "backend", signature := text "pool timeout", firstSeen := 630000000 },
      { source := text "backend", signature := text "pool timeout", firstSeen := 630000000 }] }

theorem three_blips_exact :
    BlipRowExact ⟨fun _ => [], fun _ _ => []⟩ dayWindow threeOutages
      (text "backend") threeBlips false 300 backendLog :=
  (blip_row_exact_iff (by decide)).mpr ⟨fun _ => by decide, fun _ => by decide⟩

/-- Two failing checks within three seconds pass for one. -/
theorem double_check_shaped :
    ¬ ∀ (numbers : NumberText) (window : Window) (settings : ServiceActionsConfig)
    (service : Text) (points : List HealthPoint) (muted : Bool) (checkIntervalSeconds : Int)
    (log : ServiceLog),
    (points.map HealthPoint.checkedAt).Nodup →
      BlipRowExact numbers window settings service points muted checkIntervalSeconds log := by
  intro claimed
  have distinct : ((healthAt 1201 .critical :: threeBlips).map HealthPoint.checkedAt).Nodup := by
    decide
  have shaped := (claimed ⟨fun _ => [], fun _ _ => []⟩ dayWindow threeOutages (text "backend")
    (healthAt 1201 .critical :: threeBlips) false 300 backendLog distinct).shaped
  rw [isBlipShaped_brief threeOutages distinct] at shaped
  exact absurd (shaped.mp (by decide)).2 (by decide)

end SysadminAssistant.Monitor.Reliability
