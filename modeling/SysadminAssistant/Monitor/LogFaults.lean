import SysadminAssistant.Core.Alerts
import SysadminAssistant.Monitor.LogEntry

namespace SysadminAssistant.Monitor

open Python SysadminAssistant.Core

/-! The faults of one poll (`sysadmin/monitor/log_aggregator.py`): one per alert
title, kept in the order in which the titles were first seen. -/

def faultSeverities : List LogSeverity := [.error, .critical]

def noiseSeverity : Severity := .info

def declaredFloorSeverity : Severity := .warning

structure CriticalSignature where
  title : Text
  reason : Text
  arrivesAt : LogSeverity
  opensAt : Severity := declaredFloorSeverity
deriving DecidableEq

def gpuReset : CriticalSignature where
  title := text "GPU was reset — every client lost its VRAM"
  reason := text ("a full-card MODE1 reset: the graphics ring wedged, the per-queue reset " ++
    "failed, and amdgpu reset the device. Every GPU client's memory was destroyed — the " ++
    "foreground application and any resident inference server alike.")
  arrivesAt := .info

def gpuRecoveryFailed : CriticalSignature where
  title := text "GPU recovery failed — the card is dead until a reboot"
  reason := text ("amdgpu's full-card reset could not bring the card back. The displays and " ++
    "every GPU client stay dead, and only a reboot recovers it; the box itself is still up.")
  arrivesAt := .error
  opensAt := .critical

/-- `CRITICAL_SIGNATURES.get((source, signature))`. -/
def criticalSignature? (source sig : Text) : Option CriticalSignature :=
  if source = text "kernel" then
    if sig = text "amdgpu N:N:N.N: amdgpu: VRAM is lost due to GPU reset!" ∨
        sig = text "amdgpu N:N:N.N: VRAM is lost due to GPU reset!" then some gpuReset
    else if sig = text "amdgpu N:N:N.N: GPU Recovery Failed: -N" ∨
        sig = text "amdgpu N:N:N.N: amdgpu: GPU Recovery Failed: -N" then some gpuRecoveryFailed
    else none
  else none

/-- `COVERED_SIGNATURES.get((source, signature))`. -/
def coveredSignature? (source sig : Text) : Option Text :=
  if source = text "sysadmin.service" ∧ sig = text "agent_run_failed" then
    some (text "sysadmin/monitor/failures.py — '<agent> agent failing', at two consecutive failures")
  else none

/-- A swallowed fault, as the row that swallowed it records it. -/
structure Member where
  source : Text
  signature : Text
  alertTitle : Text
  occurrences : Int
deriving DecidableEq

structure Fault where
  title : Text
  firstLoggedAt : Int
  members : List Member
  severity : Severity
  declared : Option CriticalSignature
  source : Text
  message : Text
  count : Int
  signature : Text
  noiseReason : Option Text
  coveredBy : Option Text
deriving DecidableEq

section Ingest

variable (database : CharDatabase) (tools : TitleTools) (knownNoise : Dict (Text × Text) Text)

def openingSeverity (declared : Option CriticalSignature) (entry : Entry)
    (quietened : Bool) : Severity :=
  if quietened then noiseSeverity
  else match declared with
    | some declaration => declaration.opensAt
    | none => if entry.severity = .critical then .critical else .warning

def newFault (title sig : Text) (declared : Option CriticalSignature) (entry : Entry) : Fault :=
  let noise := knownNoise.get? (entry.source, sig)
  let coveredBy := coveredSignature? entry.source sig
  { title
    firstLoggedAt := entry.loggedAt
    members := []
    severity := openingSeverity declared entry (noise.isSome || coveredBy.isSome)
    declared
    source := entry.source
    message := entry.message
    count := 1
    signature := sig
    noiseReason := noise
    coveredBy }

/-- The newest line is the sample; the earliest one is the moment. -/
def Fault.again (fault : Fault) (entry : Entry) : Fault :=
  { fault with
    message := entry.message
    count := fault.count + 1
    firstLoggedAt := min fault.firstLoggedAt entry.loggedAt }

/-- The body of the ingest loop, as far as the faults go. -/
def observe (faults : Dict Text Fault) (entry : Entry) : Dict Text Fault :=
  let sig := signature database entry.message
  let declared := criticalSignature? entry.source sig
  if declared = none ∧ entry.severity ∉ faultSeverities then faults
  else
    let title := match declared with
      | some declaration => declaration.title
      | none => alertTitle database tools entry.severity entry.source entry.message
    match faults.get? title with
    | none => faults.set title (newFault knownNoise title sig declared entry)
    | some fault => faults.set title (fault.again entry)

def ingest (entries : List Entry) : Dict Text Fault :=
  entries.foldl (observe database tools knownNoise) Dict.empty

/-- What the ingest loop builds, and what folding starts from. -/
structure Unfolded (faults : Dict Text Fault) : Prop where
  titled : ∀ {title fault}, faults.get? title = some fault → fault.title = title
  memberless : ∀ {title fault}, faults.get? title = some fault → fault.members = []

variable {database tools knownNoise}

theorem Unfolded.set {faults : Dict Text Fault} (unfolded : Unfolded faults) (fault : Fault)
    (memberless : fault.members = []) : Unfolded (faults.set fault.title fault) where
  titled {title other} found := by
    rw [Dict.get?_set] at found
    split at found
    · rename_i same
      exact (Option.some.inj found) ▸ same
    · exact unfolded.titled found
  memberless {title other} found := by
    rw [Dict.get?_set] at found
    split at found
    · exact (Option.some.inj found) ▸ memberless
    · exact unfolded.memberless found

theorem observe_unfolded {faults : Dict Text Fault} (unfolded : Unfolded faults) (entry : Entry) :
    Unfolded (observe database tools knownNoise faults entry) := by
  simp only [observe]
  split
  · exact unfolded
  · split
    · exact unfolded.set (newFault knownNoise _ _ _ entry) rfl
    · rename_i fault found
      have memberless : fault.members = [] := unfolded.memberless found
      have stored : Unfolded (faults.set fault.title (fault.again entry)) :=
        unfolded.set (fault.again entry) memberless
      rwa [unfolded.titled found] at stored

theorem ingest_unfolded (entries : List Entry) :
    Unfolded (ingest database tools knownNoise entries) := by
  have start : Unfolded (Dict.empty : Dict Text Fault) :=
    ⟨fun found => by simp at found, fun found => by simp at found⟩
  have run : ∀ faults, Unfolded faults →
      Unfolded (entries.foldl (observe database tools knownNoise) faults) := by
    induction entries with
    | nil => exact fun faults unfolded => unfolded
    | cons entry rest ih => exact fun faults unfolded => ih _ (observe_unfolded unfolded entry)
  exact run _ start

end Ingest

end SysadminAssistant.Monitor
