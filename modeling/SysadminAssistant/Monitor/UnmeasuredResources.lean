import Mathlib.Data.List.Infix
import SysadminAssistant.Monitor.HealthRun

namespace SysadminAssistant.Monitor

open Python SysadminAssistant.Core Library

/-! The sweep over threshold rows, against what a run's probes obtained. -/

/-- A reading breaches the row's threshold. -/
def Breaches (thresholds : Thresholds) (snapshot : ResourceSnapshot) : ThresholdRow → Prop
  | .ram => snapshot.ramPercent.atLeast thresholds.ramWarningPercent = true
  | .gpuTemperature gpu => ∃ card ∈ snapshot.gpuUsage, card.name = gpu ∧
      ∃ temp, card.tempC = some temp ∧ temp.atLeast thresholds.gpuTempWarningC = true
  | .vram gpu => ∃ card ∈ snapshot.gpuUsage, card.name = gpu ∧
      ∃ percent, card.vramPercent = some percent ∧
        percent.atLeast thresholds.gpuVramWarningPercent = true
  | .highDisk mount => ∃ percent, snapshot.diskUsage.get? mount = some percent ∧
      percent.atLeast thresholds.diskWarningPercent = true
  | .criticalDisk mount => ∃ percent, snapshot.diskUsage.get? mount = some percent ∧
      percent.atLeast thresholds.diskCriticalPercent = true

/-- A RAM reading of 0 is skipped as if it were none. -/
def SkippedZero (thresholds : Thresholds) (snapshot : ResourceSnapshot) (row : ThresholdRow) : Prop :=
  row = .ram ∧ snapshot.ramPercent.truthy = false ∧
    snapshot.ramPercent.atLeast thresholds.ramWarningPercent = true

/-- At the critical mark a mount is judged under its critical title alone, though the reading
breaches both thresholds. -/
def PastCritical (thresholds : Thresholds) (snapshot : ResourceSnapshot) (row : ThresholdRow) : Prop :=
  ∃ mount percent, row = .highDisk mount ∧ snapshot.diskUsage.get? mount = some percent ∧
    percent.atLeast thresholds.diskCriticalPercent = true ∧
    percent.atLeast thresholds.diskWarningPercent = true

/-- A breach that `_check_thresholds` does not judge under the row's title. -/
def Unjudged (thresholds : Thresholds) (snapshot : ResourceSnapshot) (row : ThresholdRow) : Prop :=
  SkippedZero thresholds snapshot row ∨ PastCritical thresholds snapshot row

/-- The title is judged from the snapshot, or belongs to a service kept open. -/
def Held (wording : Wording) (state : HealthState) (run : HealthRun) (row : ThresholdRow) : Prop :=
  row.title ∈ (thresholdJudgements wording run.thresholds (takeResourceSnapshot run.probes)).map
      Draft.title ∨
    unhealthyTitle (serviceLoop wording state run).unhealthy row.title = true

theorem resolvable_iff (title : Text) : resolvable title = true ↔
    (∃ kind : ServiceAlertKind, text " " ++ kind.word <:+ title) ∨ title = text "High RAM usage" ∨
      ∃ lead ∈ [text "High GPU temperature on ", text "High VRAM usage on ",
        text "Critical disk usage on ", text "High disk usage on "], lead <+: title := by
  have ending (kind : ServiceAlertKind) : like (text "% " ++ kind.word) title = true ↔
      text " " ++ kind.word <:+ title :=
    @Wildcards.like_suffix _ _ sqlWildcards _ (by cases kind <;> decide) (by decide) title
  have opening {lead : Text} (plain : sqlWildcards.Literal lead) : like (lead ++ text "%") title =
      true ↔ lead <+: title :=
    Wildcards.like_prefix plain title
  have kinds : (∃ pattern ∈ ServiceAlertKind.all.map fun kind => text "% " ++ kind.word,
      like pattern title = true) ↔ ∃ kind : ServiceAlertKind, text " " ++ kind.word <:+ title := by
    simp only [List.mem_map, exists_exists_and_eq_and]
    constructor
    · intro listed
      obtain ⟨kind, _, matched⟩ := listed
      exact ⟨kind, (ending kind).mp matched⟩
    · intro ends
      obtain ⟨kind, ends⟩ := ends
      exact ⟨kind, kind.mem_all, (ending kind).mpr ends⟩
  have gpu : like (text "High GPU temperature on %") title = true ↔
      text "High GPU temperature on " <+: title :=
    @opening (text "High GPU temperature on ") (by decide)
  have vram : like (text "High VRAM usage on %") title = true ↔ text "High VRAM usage on " <+: title :=
    @opening (text "High VRAM usage on ") (by decide)
  have critical : like (text "Critical disk usage on %") title = true ↔
      text "Critical disk usage on " <+: title :=
    @opening (text "Critical disk usage on ") (by decide)
  have high : like (text "High disk usage on %") title = true ↔ text "High disk usage on " <+: title :=
    @opening (text "High disk usage on ") (by decide)
  have ram : like (text "High RAM usage") title = true ↔ title = text "High RAM usage" :=
    Wildcards.like_literal (by decide) title
  rw [resolvable, List.any_eq_true, resolvableTitlePatterns]
  simp only [List.mem_append, or_and_right, exists_or, kinds]
  refine or_congr_right ?_
  simp only [List.mem_cons, List.not_mem_nil, or_false, or_and_right, exists_or, exists_eq_left,
    ram]
  exact or_congr_right (or_congr gpu (or_congr vram (or_congr critical high)))

theorem Unjudged.breaches {thresholds : Thresholds} {snapshot : ResourceSnapshot}
    {row : ThresholdRow} (unjudged : Unjudged thresholds snapshot row) :
    Breaches thresholds snapshot row := by
  rcases unjudged with ⟨rfl, -, high⟩ | ⟨mount, percent, rfl, read, -, high⟩
  · exact high
  · exact ⟨percent, read, high⟩

end SysadminAssistant.Monitor
