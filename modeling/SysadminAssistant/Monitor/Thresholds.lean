import SysadminAssistant.Monitor.ServiceChecks

namespace SysadminAssistant.Monitor

open Python SysadminAssistant.Core Library

/-! The resource half of `SysAdminAgent._execute`: the probes, the snapshot made of them
(`_take_resource_snapshot`, `sysadmin/monitor/gpu.py`) and `_check_thresholds`. -/

structure Thresholds where
  diskWarningPercent : Int
  diskCriticalPercent : Int
  ramWarningPercent : Int
  gpuTempWarningC : Int
  gpuVramWarningPercent : Int

/-- What one card's sensors and counters gave. -/
structure CardProbe where
  series : Option Text
  suspended : Bool
  tempC : Option PyFloat
  vramTotal : Option Nat
  vramUsed : Option Nat

/-- `rocmSmi` is `none` when the tool is absent or its run raised, `sysfs` when reading
the card's files raised. -/
structure GpuProbe where
  dgpuSuspended : Bool
  rocmSmi : Option (Dict Text CardProbe)
  sysfs : Option (Dict Text CardProbe)

/-- One row of `get_gpu_usage`. -/
structure Card where
  cardId : Text
  name : Text
  asleep : Bool
  probe : CardProbe

/-- `round(used / total * 100, 1) if total else 0`. -/
def percentOf (used total : Nat) : PyFloat :=
  if total = 0 then .finite 0
  else .finite (roundPlaces (roundToDouble (roundToDouble (used / total) * 100)) 1)

namespace Card

def tempC (card : Card) : Option PyFloat := if card.asleep then none else card.probe.tempC

/-- A counter that cannot be read counts as 0. -/
def vramPercent (card : Card) : Option PyFloat :=
  if card.asleep then none
  else some (percentOf (card.probe.vramUsed.getD 0) (card.probe.vramTotal.getD 0))

end Card

def fromRocmSmi (cards : Dict Text CardProbe) : List Card :=
  (cards.entries.filter fun entry => (text "card").isPrefixOf entry.1).map fun entry =>
    ⟨entry.1, entry.2.series.getD entry.1, false, entry.2⟩

def fromSysfs (cards : Dict Text CardProbe) : List Card :=
  cards.entries.map fun entry => ⟨entry.1, entry.1, entry.2.suspended, entry.2⟩

def getGpuUsage (probe : GpuProbe) : Option (List Card) :=
  if probe.dgpuSuspended then probe.sysfs.map fromSysfs
  else match probe.rocmSmi with
    | some cards => some (fromRocmSmi cards)
    | none => probe.sysfs.map fromSysfs

/-- A `disk_usage` call that raised gives its mount no percentage. -/
structure Probes where
  ramPercent : PyFloat
  partitions : List (Text × Option PyFloat)
  gpu : GpuProbe

structure ResourceSnapshot where
  ramPercent : PyFloat
  diskUsage : Dict Text PyFloat
  gpuUsage : List Card

/-- `_collect_resource_metrics`, for the disks. -/
def diskUsage (partitions : List (Text × Option PyFloat)) : Dict Text PyFloat :=
  .ofEntries (partitions.filterMap fun part => part.2.map fun percent => (part.1, percent))

def takeResourceSnapshot (probes : Probes) : ResourceSnapshot where
  ramPercent := probes.ramPercent
  diskUsage := diskUsage probes.partitions
  gpuUsage := (getGpuUsage probes.gpu).getD []

/-- The rows `_check_thresholds` can open. -/
inductive ThresholdRow where
  | ram
  | gpuTemperature (gpu : Text)
  | vram (gpu : Text)
  | highDisk (mount : Text)
  | criticalDisk (mount : Text)
deriving DecidableEq

def diskAlertTitle (mount : Text) (critical : Bool) : Text :=
  (if critical then text "Critical" else text "High") ++ text " disk usage on " ++ mount

def ThresholdRow.title : ThresholdRow → Text
  | .ram => text "High RAM usage"
  | .gpuTemperature gpu => text "High GPU temperature on " ++ gpu
  | .vram gpu => text "High VRAM usage on " ++ gpu
  | .highDisk mount => diskAlertTitle mount false
  | .criticalDisk mount => diskAlertTitle mount true

/-- `f"{subject} at {value}{unit}{place} (threshold: {bound}{unit})"`. -/
def thresholdMessage (wording : Wording) (subject : String) (value : PyFloat) (unit : String)
    (place : Text) (bound : Int) : Text :=
  text subject ++ text " at " ++ wording.floatText value ++ text unit ++ place ++
    text " (threshold: " ++ intText bound ++ text unit ++ text ")"

section Drafts

variable (wording : Wording) (thresholds : Thresholds)

def ramDraft (percent : PyFloat) : Draft where
  severity := .warning
  title := ThresholdRow.ram.title
  message := thresholdMessage wording "RAM" percent "%" [] thresholds.ramWarningPercent
  details := .ofEntries [(text "ram_percent", .float percent), (text "resource", .str (text "ram")),
    (text "threshold", .bool true)]

def temperatureDraft (card : Card) (temp : PyFloat) : Draft where
  severity := .warning
  title := (ThresholdRow.gpuTemperature card.name).title
  message := thresholdMessage wording "GPU temp" temp "°C" [] thresholds.gpuTempWarningC
  details := .ofEntries [(text "card", .str card.cardId), (text "temp_c", .float temp)]

def vramDraft (card : Card) (percent : PyFloat) : Draft where
  severity := .warning
  title := (ThresholdRow.vram card.name).title
  message := thresholdMessage wording "VRAM" percent "%" [] thresholds.gpuVramWarningPercent
  details := .ofEntries [(text "card", .str card.cardId), (text "vram_percent", .float percent)]

def diskDraft (mount : Text) (percent : PyFloat) (critical : Bool) : Draft where
  severity := if critical then .critical else .warning
  title := diskAlertTitle mount critical
  message := thresholdMessage wording "Disk" percent "%" (text " on " ++ mount)
    (if critical then thresholds.diskCriticalPercent else thresholds.diskWarningPercent)
  details := .ofEntries [(text "mount", .str mount), (text "percent", .float percent),
    (text "resource", .str (text "disk:" ++ mount)), (text "threshold", .bool true)]

def ramJudgements (percent : PyFloat) : List Draft :=
  if percent.truthy && percent.atLeast thresholds.ramWarningPercent then
    [ramDraft wording thresholds percent]
  else []

def gpuJudgements (card : Card) : List Draft :=
  ((card.tempC.filter fun temp => temp.atLeast thresholds.gpuTempWarningC).map
      (temperatureDraft wording thresholds card)).toList ++
    ((card.vramPercent.filter fun percent => percent.atLeast thresholds.gpuVramWarningPercent).map
      (vramDraft wording thresholds card)).toList

def diskJudgements (usage : Text × PyFloat) : List Draft :=
  if usage.2.atLeast thresholds.diskCriticalPercent then
    [diskDraft wording thresholds usage.1 usage.2 true]
  else if usage.2.atLeast thresholds.diskWarningPercent then
    [diskDraft wording thresholds usage.1 usage.2 false]
  else []

/-- The judgements of `_check_thresholds`, in its order. -/
def thresholdJudgements (snapshot : ResourceSnapshot) : List Draft :=
  ramJudgements wording thresholds snapshot.ramPercent ++
    snapshot.gpuUsage.flatMap (gpuJudgements wording thresholds) ++
    snapshot.diskUsage.entries.flatMap (diskJudgements wording thresholds)

end Drafts

/-- `none` is an exception that ends the run. -/
def raiseInTurn (stamp : Int) (state : Judging × Nat) (draft : Draft) : Option (Judging × Nat) :=
  match raiseJudged stamp true state.1 draft with
  | (_, none) => none
  | (judging, some written) => some (judging, state.2 + written)

def checkThresholds (wording : Wording) (stamp : Int) (thresholds : Thresholds)
    (snapshot : ResourceSnapshot) (state : Judging × Nat) : Option (Judging × Nat) :=
  (thresholdJudgements wording thresholds snapshot).foldlM (raiseInTurn stamp) state

theorem checkThresholds_total {stamp : Int} {drafts : List Draft}
    {state : Judging × Nat} (tracks : Tracks state.1) :
    ∃ after, drafts.foldlM (raiseInTurn stamp) state = some after ∧ Tracks after.1 ∧
      Grows state.1 after.1 ∧ (Standing state.1 → Standing after.1) ∧
      ∀ title, title ∈ after.1.judgedTitles ↔
        title ∈ state.1.judgedTitles ∨ title ∈ drafts.map Draft.title := by
  induction drafts generalizing state with
  | nil => exact ⟨state, rfl, tracks, .refl _, id, by simp⟩
  | cons draft rest ih =>
    cases judged : raiseJudged stamp true state.1 draft with
    | mk next raised =>
      cases raised with
      | none =>
        have refused := (raiseJudged_refused tracks stamp true draft).mp (by rw [judged])
        simp at refused
      | some written =>
        have stepped : raiseInTurn stamp state draft = some (next, state.2 + written) := by
          simp [raiseInTurn, judged]
        obtain ⟨after, ran, tracked, grown, stands, titles⟩ :=
          @ih (next, state.2 + written) (raiseJudged_tracks judged tracks)
        refine ⟨after, by simp [List.foldlM_cons, stepped, ran], tracked,
          (raiseJudged_grows judged).trans grown,
          fun standing => stands (raiseJudged_standing judged tracks standing), fun title => ?_⟩
        have recorded := raiseJudged_judged stamp true state.1 draft
        rw [judged] at recorded
        rw [titles, recorded, List.mem_insert_iff, List.map_cons, List.mem_cons]
        tauto

end SysadminAssistant.Monitor
