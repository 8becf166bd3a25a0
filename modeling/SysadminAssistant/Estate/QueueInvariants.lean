import SysadminAssistant.Estate.Judgements

namespace SysadminAssistant.Estate

open Python SysadminAssistant.Core

/-! The GPU queue, judged on its two gauges (`sysadmin/estate/judgements.py`). -/

inductive WaitGauge where
  | unexplained | total
deriving DecidableEq

inductive FloorVerdict where
  | overThreshold | wouldGrant | unreadable | unsampled
deriving DecidableEq

inductive VramVerdict where
  | holds | clear
deriving DecidableEq

def WaitGauge.name : WaitGauge → Text
  | .unexplained => text "unexplained"
  | .total => text "total"

def FloorVerdict.name : FloorVerdict → Text
  | .overThreshold => text "over_threshold"
  | .wouldGrant => text "would_grant"
  | .unreadable => text "unreadable"
  | .unsampled => text "unsampled"

def VramVerdict.name : VramVerdict → Text
  | .holds => text "holds"
  | .clear => text "clear"

def unexplainedWaitKey : String := "oldest_unexplained_wait_seconds"

/-- `_starvation_gauge`: an absent key is not a masked one. -/
def starvationGauge (payload : Payload) : Json × WaitGauge :=
  match Json.field? (text unexplainedWaitKey) payload with
  | some waiting => (waiting, .unexplained)
  | none => (payloadField payload "oldest_waiting_seconds", .total)

/-- `_WAIT_CAUSES`. -/
def waitCause (reason : Text) : Option Text :=
  if reason = text "holder_overdue" then
    some (text
      ("A holder is past its hold deadline, which the arbiter expires before doing anything else — so " ++
      "its tick loop is mid-tick or dead."))
  else if reason = text "nothing_granted" then
    some (text
      ("Nothing holds a lease at all, so the arbiter's tick loop has stopped granting, or its GPU "
      ++ "sampler is pinned by undeclared load."))
  else none

def undiscriminated : Text :=
  text "Either a holder never released, or the arbiter's tick loop has stopped granting."

def starvationCause (gauge : WaitGauge) (reason : Json) : Option Text :=
  match gauge with
  | .total =>
    some (undiscriminated ++
      text (" This surface published no oldest_unexplained_wait_seconds, so a " ++
        "legitimate wait behind a declared holder cannot be ruled out."))
  | .unexplained =>
    if !reason.isHashable then none else some ((reason.text?.bind waitCause).getD undiscriminated)

/-- An integer, which a `bool` is not. -/
def integer? : Json → Option Int
  | .int value => some value
  | _ => none

/-- `_floor_verdict`: the busy floor declines strictly above its own threshold. -/
def floorVerdict (payload : Payload) : Option FloorVerdict :=
  match payloadField payload "gpu_floor" with
  | .obj floor =>
    match Json.field? (text "reading") floor with
    | none => none
    | some .null => some .unsampled
    | some reading =>
      if reading.text? = some (text "unreadable") then some .unreadable
      else if reading.text? ≠ some (text "sampled") then none
      else do
        let percent ← integer? (Json.field (text "percent") floor)
        let threshold ← integer? (Json.field (text "threshold_percent") floor)
        return if percent > threshold then .overThreshold else .wouldGrant
  | _ => none

/-- `VRAM_STATES`, less `None`. -/
def vramStates : List Text :=
  [text "sampled", text "nothing_to_start", text "unreadable", text "undeclared",
    text "table_unreadable"]

/-- `_vram_verdict`: whether the free memory is short of the need and the headroom. -/
def vramVerdict (payload : Payload) : Option (Option VramVerdict) :=
  match payloadField payload "vram_floor" with
  | .obj floor =>
    match Json.field? (text "state") floor with
    | none => some none
    | some .null => some (some .clear)
    | some state =>
      if !state.isHashable then none
      else match state.text?.filter (· ∈ vramStates) with
        | none => some none
        | some state =>
          if state ≠ text "sampled" then some (some .clear)
          else some do
            let free ← integer? (Json.field (text "free_mib") floor)
            let need ← integer? (Json.field (text "need_mib") floor)
            let headroom ← integer? (Json.field (text "headroom_mib") floor)
            return if need > 0 ∧ free < need + headroom then .holds else .clear
  | _ => some none

section

variable (wording : Wording)

/-- `_ago`: the age of a reading, stated and never judged. -/
def agoText (readAt : Json) (now : Int) : Option Text :=
  match readAt.text?.bind wording.instant with
  | none => some []
  | some instant =>
    let seconds := max 0 (totalSeconds (now - instant))
    if seconds < 120 then some (text ", taken " ++ intText (truncate seconds) ++ text " seconds ago")
    else (hoursText wording (.float (.finite seconds))).map fun age =>
      text ", taken " ++ age ++ text " ago"

def floorInt (floor : Json) (key : String) : Int := ((floor.get key).bind integer?).getD 0

def vramHoldsCause (vram : Json) (now : Int) : Option Text := do
  let subject := match (← vram.get "profile").text?.filter (· ≠ []) with
    | some profile => text " for " ++ profile
    | none => []
  let ago ← agoText wording (← vram.get "read_at") now
  return text "Nothing holds a lease at all, and the arbiter's last VRAM floor reading" ++
    subject ++ ago ++
    (if ago = [] then [] else text ",") ++ text " found " ++ wording.grouped
      (floorInt vram "free_mib") ++
    text " MiB free against a need of " ++ wording.grouped (floorInt vram "need_mib") ++
      text " MiB plus " ++
    wording.grouped (floorInt vram "headroom_mib") ++
      text " MiB headroom, so it is waiting for room on the card."

def busyFloorCause (verdict : Option FloorVerdict) (floor : Json) (now : Int) : Option Text :=
  match verdict with
  | none => waitCause (text "nothing_granted")
  | some verdict => do
    let ago ← agoText wording (← floor.get "read_at") now
    let operands := intText (floorInt floor "percent") ++ text "% against its own threshold of " ++
      intText (floorInt floor "threshold_percent") ++ text "%" ++ ago
    return match verdict with
      | .unsampled =>
        text ("Nothing holds a lease at all, and the arbiter has taken no GPU floor reading since " ++
        "it started, so its tick loop has stopped granting.")
      | .unreadable =>
        text "Nothing holds a lease at all, and the arbiter's last GPU floor reading" ++ ago ++
        text " found the counter unreadable, which it grants on — so its tick loop has stopped granting."
      | .overThreshold =>
        text "Nothing holds a lease at all, and the arbiter's last GPU floor reading was " ++
        operands ++ text ", so it was declining on GPU load no lease declares."
      | .wouldGrant =>
        text "Nothing holds a lease at all, yet the arbiter's last GPU floor reading was " ++
        operands ++ text " — a reading it grants on — so its tick loop has stopped granting."

/-- `_nothing_granted_cause`: in the order of the arbiter's tick. -/
def nothingGrantedCause (payload : Payload) (verdict : Option FloorVerdict)
    (vram : Option VramVerdict) (now : Int) : Option Text :=
  if verdict ≠ some .overThreshold ∧ vram = some .holds then
    vramHoldsCause wording (payloadField payload "vram_floor") now
  else do
    let cause ← busyFloorCause wording verdict (payloadField payload "gpu_floor") now
    if verdict ≠ some .overThreshold ∧ (Json.field? (text "vram_floor") payload).isSome ∧
      vram = none then
      return cause ++
        text (" Its VRAM floor reading was not one this monitor recognises, so a lease held for want " ++
        "of room on the card cannot be ruled out.")
    else return cause

def queueTotals (payload : Payload) : List (String × Json) :=
  ["dropped_total", "expired_total", "grants_total"].map fun key => (key, payloadField payload key)

def queueBacklog (payload : Payload) (maxDepth : Int) : Option (List Judgement) := do
  let depth := (payloadField payload "depth").orElse (.int 0)
  if ← depth.above (.finite maxDepth) then
    return [{
      surface := .queueInvariants
      title := text "Estate queue backlog"
      message := wording.str depth ++ text " requests are waiting for a GPU lease (threshold " ++
        intText maxDepth ++
          text ("). The single 24 GB card is shared, so a backlog means callers are blocked " ++
          "rather than slow.")
      details := detailsOf ([("depth", depth), ("max_depth", .int maxDepth)] ++ queueTotals payload) }]
  else return []

/-- What a starved row says, and what it concluded from the floors. -/
def starvedCause (payload : Payload) (gauge : WaitGauge) (reason : Json) (now : Int) :
    Option (Text × Option FloorVerdict × Option VramVerdict) := do
  let cause ← starvationCause gauge reason
  if gauge = .unexplained ∧ reason.text? = some (text "nothing_granted") then
    let verdict := floorVerdict payload
    let vram ← vramVerdict payload
    return (← nothingGrantedCause wording payload verdict vram now, verdict, vram)
  else return (cause, none, none)

def queueStarved (payload : Payload) (maxWaitSeconds : PyFloat) (now : Int) :
    Option (List Judgement) := do
  let (waiting, gauge) := starvationGauge payload
  let reason := payloadField payload "waiting_reason"
  if ← tooOld waiting maxWaitSeconds then
    let (cause, verdict, vram) ← starvedCause wording payload gauge reason now
    let subject := match gauge with
      | .unexplained => text "The oldest unexplained GPU lease request"
      | .total => text "The oldest GPU lease request"
    return [{
      surface := .queueInvariants
      title := text "Estate queue starved"
      message :=
        subject ++ text " has waited " ++ (← hoursText wording waiting) ++ text " (threshold " ++
        wording.fixed 0 (PyFloat.mul (1 / 60) maxWaitSeconds) ++ text " minutes). " ++ cause
      details := detailsOf ([("oldest_waiting_seconds", payloadField payload "oldest_waiting_seconds"),
        (unexplainedWaitKey, payloadField payload unexplainedWaitKey), ("waiting_reason", reason),
        ("wait_gauge", .str gauge.name), ("gpu_floor", payloadField payload "gpu_floor"),
        ("floor_verdict", verdict.elim .null fun verdict => .str verdict.name),
        ("vram_floor", payloadField payload "vram_floor"),
        ("vram_verdict", vram.elim .null fun vram => .str vram.name),
        ("max_wait_seconds", .float maxWaitSeconds),
        ("depth", (payloadField payload "depth").orElse (.int 0)),
        ("active_lease", payloadField payload "active_lease")] ++ queueTotals payload) }]
  else return []

def judgeQueueInvariants (payload : Payload) (maxDepth : Int) (maxWaitSeconds : PyFloat)
    (now : Int) : Option (List Judgement) := do
  return (← queueBacklog wording payload maxDepth) ++
    (← queueStarved wording payload maxWaitSeconds now)

end

end SysadminAssistant.Estate
