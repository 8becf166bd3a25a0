import SysadminAssistant.Monitor.JudgedAlerts

namespace SysadminAssistant.Monitor

open Python SysadminAssistant.Core Library

/-! The service half of `SysAdminAgent._execute`: `_handle_status` and the loop that
gives every service a savepoint of its own. -/

/-- The estate library's cut, and `repr` of a float. -/
structure Wording where
  truncateAtWord : Text → Nat → Text
  floatText : PyFloat → Text

def degradedStreak : Nat := 3

def reasonChars : Nat := 200

/-- One service as a run finds it.  `restarted` is what `restart_unit` would answer.
`refused` says that its rows are refused for a reason other than the alert index, and
`isolationRefused` that the row standing in for them is refused as well. -/
structure ServiceCheck where
  entry : ServiceEntry
  status : ServiceStatus
  details : Details
  restarted : Bool × Text
  refused : Bool
  isolationRefused : Bool

/-- The counters a process keeps between runs. -/
structure Streaks where
  degradedCounts : Dict Text Nat
  failureCounts : Dict Text Nat

def degradedMessage (wording : Wording) (serviceName : Text) (details : Details) : Text :=
  let message := serviceName ++ text " has been degraded for " ++ intText degradedStreak ++
    text " consecutive checks"
  match details.get? (text "reason") with
  | some (.str reason) =>
    if reason = [] then message
    else message ++ text "; last check: " ++ wording.truncateAtWord reason.squeezed reasonChars
  | _ => message

def statusWord : ServiceStatus → Text
  | .ok => text "ok"
  | .degraded => text "degraded"
  | .warning => text "warning"
  | .critical => text "critical"
  | .unreachable => text "unreachable"
  | .error => text "error"
  | .skipped => text "skipped"

def withServiceName (details : Details) (serviceName : Text) : Details :=
  details.set (text "service_name") (.str serviceName)

def degradedDraft (wording : Wording) (check : ServiceCheck) : Draft where
  severity := .warning
  title := serviceAlertTitle check.entry.name .degraded
  message := degradedMessage wording check.entry.name check.details
  details := withServiceName check.details check.entry.name

def warningDraft (check : ServiceCheck) : Draft where
  severity := .warning
  title := serviceAlertTitle check.entry.name .warning
  message := check.entry.name ++ text " is in warning state"
  details := withServiceName check.details check.entry.name

def restartDraft (check : ServiceCheck) : Draft where
  severity := .warning
  title := serviceAlertTitle check.entry.name .autoRestarted
  message := check.entry.name ++ text " was automatically restarted after " ++
    intText check.entry.autoRestartAfterChecks ++ text " consecutive failures — " ++
    if check.restarted.1 then text "succeeded" else text "failed: " ++ check.restarted.2
  details := (withServiceName check.details check.entry.name).set (text "auto_restart") (.bool true)

def outageMessage (stops : ArbitratedStops) (check : ServiceCheck) : Text :=
  let message := check.entry.name ++ text " is " ++ statusWord check.status
  if stops.stopped check.entry.systemdUnit then
    message ++ text " — stopped by the estate's arbiter under lease " ++
      stops.leaseId.elim (text "None") intText ++
      (stops.profile.filter (· ≠ [])).elim [] fun profile => text " (" ++ profile ++ text ")"
  else message

def outageDraft (stops : ArbitratedStops) (kind : ServiceAlertKind) (check : ServiceCheck) :
    Draft where
  severity := if stops.stopped check.entry.systemdUnit then arbitratedStopSeverity else .critical
  title := serviceAlertTitle check.entry.name kind
  message := outageMessage stops check
  details := (withServiceName check.details check.entry.name).set (text "arbitration") (.obj
    [(text "reading", .str stops.reading),
      (text "unit", .nullable check.entry.systemdUnit),
      (text "stopped_by_estate", .bool (stops.stopped check.entry.systemdUnit)),
      (text "lease_id", stops.leaseId.elim .null .int),
      (text "profile", .nullable stops.profile)])

def failureCount (streaks : Streaks) (serviceName : Text) : Nat :=
  (streaks.failureCounts.get? serviceName).getD 0

/-- Whether a check takes the auto-restart branch. -/
def restarts (streaks : Streaks) (check : ServiceCheck) : Bool :=
  (check.status = .critical || check.status = .unreachable) && check.entry.autoRestart &&
    check.entry.controllable && check.entry.systemdUnit.any (· ≠ []) &&
    check.entry.autoRestartAfterChecks ≤ (failureCount streaks check.entry.name + 1 : Nat)

/-- What a check has `_raise_judged` told, if anything, and whether with the dedup. -/
def judgement (wording : Wording) (stops : ArbitratedStops) (streaks : Streaks)
    (check : ServiceCheck) : Option (Draft × Bool) :=
  match check.status with
  | .skipped | .error | .ok => none
  | .degraded =>
    if degradedStreak ≤ (streaks.degradedCounts.get? check.entry.name).getD 0 + 1 then
      some (degradedDraft wording check, true)
    else none
  | .warning => some (warningDraft check, true)
  | .critical =>
    if restarts streaks check then some (restartDraft check, false)
    else some (outageDraft stops .critical check, true)
  | .unreachable =>
    if restarts streaks check then some (restartDraft check, false)
    else some (outageDraft stops .unreachable check, true)

/-- The counters after a check. -/
def counted (streaks : Streaks) (check : ServiceCheck) : Streaks :=
  let serviceName := check.entry.name
  match check.status with
  | .skipped | .error => streaks
  | .ok | .warning =>
    { degradedCounts := streaks.degradedCounts.set serviceName 0
      failureCounts := streaks.failureCounts.set serviceName 0 }
  | .degraded =>
    { degradedCounts := streaks.degradedCounts.set serviceName
        ((streaks.degradedCounts.get? serviceName).getD 0 + 1)
      failureCounts := streaks.failureCounts.set serviceName 0 }
  | .critical | .unreachable =>
    { degradedCounts := streaks.degradedCounts.set serviceName 0
      failureCounts := streaks.failureCounts.set serviceName
        (if restarts streaks check then 0 else failureCount streaks serviceName + 1) }

def handleStatus (wording : Wording) (stops : ArbitratedStops) (stamp : Int) (streaks : Streaks)
    (state : Judging) (check : ServiceCheck) : Streaks × Judging × Option Nat :=
  (counted streaks check, match judgement wording stops streaks check with
    | none => (state, some 0)
    | some (draft, dedup) => raiseJudged stamp dedup state draft)

/-- What the service loop accumulates.  `health` holds the rows of `service_health`. -/
structure Progress where
  streaks : Streaks
  judging : Judging
  unhealthy : List Text
  writeFailures : List Text
  health : List (Text × ServiceStatus)
  alertsRaised : Nat

/-- One turn of the loop: a savepoint around the service's rows, and
`_isolate_write_failure` when it rolls back. -/
def checkService (wording : Wording) (stops : ArbitratedStops) (stamp : Int) (progress : Progress)
    (check : ServiceCheck) : Progress :=
  let unhealthy :=
    if check.status = .ok ∨ check.status = .skipped then progress.unhealthy
    else progress.unhealthy.insert check.entry.name
  let (streaks, judging, raised) :=
    handleStatus wording stops stamp progress.streaks progress.judging check
  match raised, check.refused with
  | some raised, false =>
    { streaks, judging, unhealthy
      writeFailures := progress.writeFailures
      health := progress.health ++ [(check.entry.name, check.status)]
      alertsRaised := progress.alertsRaised + raised }
  | _, _ =>
    { streaks
      judging := rollBack progress.judging judging
      unhealthy := unhealthy.insert check.entry.name
      writeFailures := progress.writeFailures ++ [check.entry.name]
      health := if check.isolationRefused then progress.health
        else progress.health ++ [(check.entry.name, .error)]
      alertsRaised := progress.alertsRaised }

def startProgress (table : AlertTable) (streaks : Streaks) : Progress where
  streaks
  judging := startJudging table
  unhealthy := []
  writeFailures := []
  health := []
  alertsRaised := 0

/-- The alert index refuses nothing a service writes. -/
def NoneRefused (wording : Wording) (stops : ArbitratedStops) (stamp : Int) :
    Progress → List ServiceCheck → Prop
  | _, [] => True
  | progress, check :: rest =>
    (handleStatus wording stops stamp progress.streaks progress.judging check).2.2.isSome ∧
      NoneRefused wording stops stamp (checkService wording stops stamp progress check) rest

section

variable {wording : Wording} {stops : ArbitratedStops} {stamp : Int} {streaks : Streaks}
  {check : ServiceCheck}

/-- Only the auto-restart branch skips the dedup, and every judgement is about the
service's own titles. -/
theorem judgement_title {draft : Draft} {dedup : Bool}
    (judged : judgement wording stops streaks check = some (draft, dedup)) :
    ∃ kind, draft.title = serviceAlertTitle check.entry.name kind ∧
      (dedup = false → kind = .autoRestarted ∧ restarts streaks check = true) := by
  unfold judgement at judged
  split at judged
  · contradiction
  · contradiction
  · contradiction
  · split at judged
    · cases judged
      exact ⟨.degraded, rfl, by simp⟩
    · contradiction
  · cases judged
    exact ⟨.warning, rfl, by simp⟩
  · split at judged
    · rename_i fires
      cases judged
      exact ⟨.autoRestarted, rfl, fun _ => ⟨rfl, fires⟩⟩
    · cases judged
      exact ⟨.critical, rfl, by simp⟩
  · split at judged
    · rename_i fires
      cases judged
      exact ⟨.autoRestarted, rfl, fun _ => ⟨rfl, fires⟩⟩
    · cases judged
      exact ⟨.unreachable, rfl, by simp⟩

theorem judgement_unhealthy {draft : Draft} {dedup : Bool}
    (judged : judgement wording stops streaks check = some (draft, dedup)) :
    check.status ≠ .ok ∧ check.status ≠ .skipped := by
  unfold judgement at judged
  cases status : check.status <;> simp_all

theorem judgement_restarts (fires : restarts streaks check = true) :
    judgement wording stops streaks check = some (restartDraft check, false) := by
  have down : check.status = .critical ∨ check.status = .unreachable := by
    simp only [restarts, Bool.and_eq_true, Bool.or_eq_true, decide_eq_true_eq] at fires
    exact fires.1.1.1.1
  unfold judgement
  rcases down with status | status <;> simp [status, fires]

theorem judgement_skips_dedup {draft : Draft}
    (judged : judgement wording stops streaks check = some (draft, false)) :
    restarts streaks check = true ∧
      draft.title = serviceAlertTitle check.entry.name .autoRestarted := by
  obtain ⟨kind, titled, skips⟩ := judgement_title judged
  obtain ⟨rfl, fires⟩ := skips rfl
  exact ⟨fires, titled⟩

theorem restarts_congr {other : Streaks}
    (same : other.failureCounts.get? check.entry.name = streaks.failureCounts.get? check.entry.name) :
    restarts other check = restarts streaks check := by
  unfold restarts failureCount
  rw [same]

theorem counted_elsewhere {serviceName : Text} (elsewhere : check.entry.name ≠ serviceName) :
    (counted streaks check).failureCounts.get? serviceName =
      streaks.failureCounts.get? serviceName := by
  unfold counted
  cases check.status <;> simp [Dict.get?_set_other _ _ elsewhere]

/-- The index refuses a service's row just when the service is restarted while the row
of an earlier restart is open. -/
theorem handleStatus_refused {state : Judging} (tracks : Tracks state) :
    (handleStatus wording stops stamp streaks state check).2.2 = none ↔
      restarts streaks check = true ∧
        (openUnder state (serviceAlertTitle check.entry.name .autoRestarted)).isSome := by
  simp only [handleStatus]
  cases judged : judgement wording stops streaks check with
  | none =>
    cases fires : restarts streaks check with
    | false => simp
    | true => simp [judgement_restarts fires] at judged
  | some pair =>
    obtain ⟨draft, dedup⟩ := pair
    simp only [raiseJudged_refused tracks]
    constructor
    · intro refused
      obtain ⟨rfl, occupied⟩ := refused
      obtain ⟨fires, titled⟩ := judgement_skips_dedup judged
      exact ⟨fires, titled ▸ occupied⟩
    · intro refused
      rw [judgement_restarts refused.1] at judged
      cases judged
      exact ⟨rfl, refused.2⟩

theorem rollBack_openUnder (before after : Judging) (title : Text) :
    openUnder (rollBack before after) title = openUnder before title := rfl

theorem rollBack_tracks {before after : Judging} (tracks : Tracks before)
    (same : after.openTitles = before.openTitles) : Tracks (rollBack before after) := by
  intro title
  have tracked := tracks title
  rw [← same] at tracked
  exact tracked

theorem handleStatus_openTitles (state : Judging) :
    (handleStatus wording stops stamp streaks state check).2.1.openTitles = state.openTitles := by
  simp only [handleStatus]
  cases judgement wording stops streaks check with
  | none => rfl
  | some pair => exact raiseJudged_openTitles stamp pair.2 state pair.1

theorem handleStatus_judged {state : Judging} {title : Text}
    (member : title ∈ (handleStatus wording stops stamp streaks state check).2.1.judgedTitles) :
    title ∈ state.judgedTitles ∨ ∃ kind, title = serviceAlertTitle check.entry.name kind ∧
      check.status ≠ .ok ∧ check.status ≠ .skipped := by
  simp only [handleStatus] at member
  cases judged : judgement wording stops streaks check with
  | none => exact Or.inl (by simpa [judged] using member)
  | some pair =>
    obtain ⟨draft, dedup⟩ := pair
    simp only [judged, raiseJudged_judged, List.mem_insert_iff] at member
    rcases member with rfl | earlier
    · obtain ⟨kind, titled, _⟩ := judgement_title judged
      exact Or.inr ⟨kind, titled, judgement_unhealthy judged⟩
    · exact Or.inl earlier

theorem handleStatus_keeps_judged {state : Judging} {title : Text}
    (member : title ∈ state.judgedTitles) :
    title ∈ (handleStatus wording stops stamp streaks state check).2.1.judgedTitles := by
  simp only [handleStatus]
  cases judgement wording stops streaks check with
  | none => exact member
  | some pair =>
    simp only [raiseJudged_judged]
    exact List.mem_insert_of_mem member

theorem handleStatus_accepted {state after : Judging} {written : Nat}
    (accepted : (handleStatus wording stops stamp streaks state check).2 = (after, some written))
    (tracks : Tracks state) :
    Tracks after ∧ Grows state after ∧ (Standing state → Standing after) ∧
      ∀ title, openUnder after title = openUnder state title ∨
        ∃ kind, title = serviceAlertTitle check.entry.name kind := by
  simp only [handleStatus] at accepted
  cases judged : judgement wording stops streaks check with
  | none =>
    rw [judged] at accepted
    cases accepted
    exact ⟨tracks, .refl _, id, fun _ => Or.inl rfl⟩
  | some pair =>
    obtain ⟨draft, dedup⟩ := pair
    rw [judged] at accepted
    obtain ⟨kind, titled, _⟩ := judgement_title judged
    refine ⟨raiseJudged_tracks accepted tracks, raiseJudged_grows accepted,
      raiseJudged_standing accepted tracks, fun title => ?_⟩
    rcases raiseJudged_openUnder accepted title with same | ⟨rfl, _⟩
    · exact Or.inl same
    · exact Or.inr ⟨kind, titled⟩

end

section Loop

variable (wording : Wording) (stops : ArbitratedStops) (stamp : Int)

/-- What a turn of the loop keeps. -/
structure Sound (progress : Progress) : Prop where
  tracks : Tracks progress.judging
  owned : ∀ title ∈ progress.judging.judgedTitles,
    ∃ serviceName ∈ progress.unhealthy, ∃ kind, title = serviceAlertTitle serviceName kind

theorem checkService_cases (progress : Progress) (check : ServiceCheck) :
    (∃ after written, (handleStatus wording stops stamp progress.streaks progress.judging check).2 =
        (after, some written) ∧ check.refused = false ∧
        (checkService wording stops stamp progress check).judging = after ∧
        (checkService wording stops stamp progress check).writeFailures = progress.writeFailures ∧
        (checkService wording stops stamp progress check).health =
          progress.health ++ [(check.entry.name, check.status)]) ∨
      (((handleStatus wording stops stamp progress.streaks progress.judging check).2.2 = none ∨
          check.refused = true) ∧
        (checkService wording stops stamp progress check).judging = rollBack progress.judging
          (handleStatus wording stops stamp progress.streaks progress.judging check).2.1 ∧
        (checkService wording stops stamp progress check).writeFailures =
          progress.writeFailures ++ [check.entry.name]) := by
  unfold checkService
  rcases handleStatus wording stops stamp progress.streaks progress.judging check with
    ⟨streaks, judging, raised⟩
  cases raised with
  | none => exact Or.inr ⟨Or.inl rfl, rfl, rfl⟩
  | some written =>
    cases refused : check.refused with
    | true => exact Or.inr ⟨Or.inr rfl, rfl, rfl⟩
    | false => exact Or.inl ⟨judging, written, rfl, rfl, rfl, rfl, rfl⟩

theorem checkService_unhealthy (progress : Progress) (check : ServiceCheck) {serviceName : Text} :
    serviceName ∈ (checkService wording stops stamp progress check).unhealthy ↔
      serviceName ∈ progress.unhealthy ∨ serviceName = check.entry.name ∧
        ((check.status ≠ .ok ∧ check.status ≠ .skipped) ∨
          (checkService wording stops stamp progress check).writeFailures ≠
            progress.writeFailures) := by
  unfold checkService
  rcases handleStatus wording stops stamp progress.streaks progress.judging check with
    ⟨streaks, judging, raised⟩
  by_cases well : check.status = .ok ∨ check.status = .skipped
  · have fine : ¬ (check.status ≠ .ok ∧ check.status ≠ .skipped) := by tauto
    cases raised <;> cases check.refused <;>
      simp [well, fine, List.mem_insert_iff, or_comm]
  · have unwell : check.status ≠ .ok ∧ check.status ≠ .skipped := by tauto
    cases raised <;> cases check.refused <;>
      simp [unwell, List.mem_insert_iff, or_comm]

theorem checkService_sound {progress : Progress} (sound : Sound progress) (check : ServiceCheck) :
    Sound (checkService wording stops stamp progress check) := by
  have listed {title : Text}
      (member : title ∈ (handleStatus wording stops stamp progress.streaks progress.judging
        check).2.1.judgedTitles) :
      ∃ serviceName ∈ (checkService wording stops stamp progress check).unhealthy,
        ∃ kind, title = serviceAlertTitle serviceName kind := by
    rcases handleStatus_judged member with earlier | ⟨kind, titled, unwell⟩
    · obtain ⟨serviceName, inside, kind, titled⟩ := sound.owned title earlier
      refine ⟨serviceName, ?_, kind, titled⟩
      exact (checkService_unhealthy wording stops stamp progress check).mpr (Or.inl inside)
    · refine ⟨check.entry.name, ?_, kind, titled⟩
      exact (checkService_unhealthy wording stops stamp progress check).mpr
        (Or.inr ⟨rfl, Or.inl unwell⟩)
  rcases checkService_cases wording stops stamp progress check with
    ⟨after, written, accepted, _, moved, _⟩ | ⟨_, moved, _⟩
  · rw [accepted] at listed
    refine ⟨?_, ?_⟩
    · rw [moved]
      exact (handleStatus_accepted accepted sound.tracks).1
    · rw [moved]
      exact fun title member => listed member
  · refine ⟨?_, ?_⟩
    · rw [moved]
      exact rollBack_tracks sound.tracks (handleStatus_openTitles progress.judging)
    · rw [moved]
      exact fun title member => listed member

theorem checkService_grows {progress : Progress} (sound : Sound progress) (check : ServiceCheck) :
    Grows progress.judging (checkService wording stops stamp progress check).judging := by
  rcases checkService_cases wording stops stamp progress check with
    ⟨after, written, accepted, _, moved, _⟩ | ⟨_, moved, _⟩
  · rw [moved]
    exact (handleStatus_accepted accepted sound.tracks).2.1
  · rw [moved]
    exact
      { openTitles := handleStatus_openTitles progress.judging
        judged := fun _ member => handleStatus_keeps_judged member
        kept := id
        opened := Or.inl }

theorem checkService_elsewhere {progress : Progress} (sound : Sound progress) (check : ServiceCheck)
    {serviceName : Text} (elsewhere : check.entry.name ≠ serviceName) (kind : ServiceAlertKind) :
    (checkService wording stops stamp progress check).streaks.failureCounts.get? serviceName =
        progress.streaks.failureCounts.get? serviceName ∧
      openUnder (checkService wording stops stamp progress check).judging
          (serviceAlertTitle serviceName kind) =
        openUnder progress.judging (serviceAlertTitle serviceName kind) := by
  constructor
  · have moved : (checkService wording stops stamp progress check).streaks =
        counted progress.streaks check := by
      unfold checkService
      simp only [handleStatus]
      split <;> rfl
    rw [moved, counted_elsewhere elsewhere]
  · rcases checkService_cases wording stops stamp progress check with
      ⟨after, written, accepted, _, moved, _⟩ | ⟨_, moved, _⟩
    · rw [moved]
      rcases (handleStatus_accepted accepted sound.tracks).2.2.2
        (serviceAlertTitle serviceName kind) with same | ⟨other, titled⟩
      · exact same
      · exact absurd (serviceAlertTitle_injective titled).1.symm elsewhere
    · rw [moved, rollBack_openUnder]

/-- The index refuses nothing just when no service is restarted while the row of an
earlier restart is open. -/
theorem noneRefused_iff {checks : List ServiceCheck} {progress : Progress} (sound : Sound progress)
    (distinct : (checks.map fun check => check.entry.name).Nodup) :
    NoneRefused wording stops stamp progress checks ↔
      ∀ check ∈ checks, restarts progress.streaks check = true →
        openUnder progress.judging (serviceAlertTitle check.entry.name .autoRestarted) = none := by
  induction checks generalizing progress with
  | nil => simp [NoneRefused]
  | cons check rest ih =>
    obtain ⟨fresh, restDistinct⟩ := List.nodup_cons.mp distinct
    have elsewhere : ∀ other ∈ rest, check.entry.name ≠ other.entry.name := by
      intro other member same
      exact fresh (List.mem_map.mpr ⟨other, member, same.symm⟩)
    have head : (handleStatus wording stops stamp progress.streaks progress.judging
        check).2.2.isSome ↔ (restarts progress.streaks check = true →
        openUnder progress.judging (serviceAlertTitle check.entry.name .autoRestarted) = none) := by
      rw [← not_iff_not, Option.not_isSome_iff_eq_none, handleStatus_refused sound.tracks,
        Classical.not_imp, Option.isSome_iff_ne_none]
    simp only [NoneRefused, List.forall_mem_cons, head,
      ih (checkService_sound wording stops stamp sound check) restDistinct]
    refine and_congr_right fun _ => forall₂_congr fun other member => ?_
    obtain ⟨counter, title⟩ := checkService_elsewhere wording stops stamp sound check
      (elsewhere other member) .autoRestarted
    rw [restarts_congr counter, title]

theorem startProgress_sound (table : AlertTable) (streaks : Streaks) :
    Sound (startProgress table streaks) where
  tracks := startJudging_tracks table
  owned _ member := absurd member List.not_mem_nil

theorem loop_sound {progress : Progress} (sound : Sound progress) (checks : List ServiceCheck) :
    Sound (checks.foldl (checkService wording stops stamp) progress) := by
  induction checks generalizing progress with
  | nil => exact sound
  | cons check rest ih => exact ih (checkService_sound wording stops stamp sound check)

theorem loop_grows {progress : Progress} (sound : Sound progress) (checks : List ServiceCheck) :
    Grows progress.judging (checks.foldl (checkService wording stops stamp) progress).judging := by
  induction checks generalizing progress with
  | nil => exact .refl _
  | cons check rest ih =>
    exact (checkService_grows wording stops stamp sound check).trans
      (ih (checkService_sound wording stops stamp sound check))

theorem checkService_health (progress : Progress) (check : ServiceCheck) :
    ∀ row ∈ progress.health, row ∈ (checkService wording stops stamp progress check).health := by
  intro row member
  unfold checkService
  rcases handleStatus wording stops stamp progress.streaks progress.judging check with
    ⟨streaks, judging, raised⟩
  have longer (added : Text × ServiceStatus) : row ∈ progress.health ++ [added] :=
    List.mem_append_left _ member
  cases raised <;> cases check.refused <;> cases check.isolationRefused <;>
    first | exact longer _ | exact member

theorem loop_health {progress : Progress} {row : Text × ServiceStatus}
    (member : row ∈ progress.health) (checks : List ServiceCheck) :
    row ∈ (checks.foldl (checkService wording stops stamp) progress).health := by
  induction checks generalizing progress with
  | nil => exact member
  | cons check rest ih => exact ih (checkService_health wording stops stamp progress check row member)

theorem loop_records {checks : List ServiceCheck} {progress : Progress}
    (accepted : NoneRefused wording stops stamp progress checks) :
    ∀ check ∈ checks, check.refused = false → (check.entry.name, check.status) ∈
      (checks.foldl (checkService wording stops stamp) progress).health := by
  induction checks generalizing progress with
  | nil => simp
  | cons first rest ih =>
    intro check member writable
    rcases List.mem_cons.mp member with rfl | later
    · have row : (check.entry.name, check.status) ∈
          (checkService wording stops stamp progress check).health := by
        rcases checkService_cases wording stops stamp progress check with
          ⟨_, _, _, _, _, _, recorded⟩ | ⟨refused | refused, _⟩
        · simp [recorded]
        · rw [NoneRefused, refused] at accepted
          exact absurd accepted.1 (by simp)
        · rw [refused] at writable
          contradiction
      exact loop_health wording stops stamp row rest
    · exact ih accepted.2 check later writable

/-- Without write failures the run judges what stands, and its unhealthy services are
the ones it measured so. -/
theorem loop_clean {checks : List ServiceCheck} {progress : Progress} (sound : Sound progress)
    (standing : Standing progress.judging)
    (clean : (checks.foldl (checkService wording stops stamp) progress).writeFailures =
      progress.writeFailures) :
    Standing (checks.foldl (checkService wording stops stamp) progress).judging ∧
      ∀ serviceName,
        serviceName ∈ (checks.foldl (checkService wording stops stamp) progress).unhealthy ↔
          serviceName ∈ progress.unhealthy ∨ ∃ check ∈ checks, serviceName = check.entry.name ∧
            check.status ≠ .ok ∧ check.status ≠ .skipped := by
  have longer : ∀ (later : List ServiceCheck) (from_ : Progress),
      from_.writeFailures <+:
        (later.foldl (checkService wording stops stamp) from_).writeFailures := by
    intro later
    induction later with
    | nil => exact fun from_ => List.prefix_refl _
    | cons check rest ih =>
      intro from_
      refine List.IsPrefix.trans ?_ (ih _)
      rcases checkService_cases wording stops stamp from_ check with
        ⟨_, _, _, _, _, same, _⟩ | ⟨_, _, grown⟩
      · exact same ▸ List.prefix_refl _
      · exact grown ▸ List.prefix_append _ _
  induction checks generalizing progress with
  | nil => exact ⟨standing, by simp⟩
  | cons check rest ih =>
    have kept := longer rest (checkService wording stops stamp progress check)
    simp only [List.foldl_cons] at clean ⊢
    rw [clean] at kept
    rcases checkService_cases wording stops stamp progress check with
      ⟨after, written, accepted, _, moved, same, _⟩ | ⟨_, _, grown⟩
    · have after_standing : Standing (checkService wording stops stamp progress check).judging := by
        rw [moved]
        exact (handleStatus_accepted accepted sound.tracks).2.2.1 standing
      obtain ⟨stands, unwell⟩ := ih (checkService_sound wording stops stamp sound check)
        after_standing (clean.trans same.symm)
      refine ⟨stands, fun serviceName => ?_⟩
      rw [unwell, checkService_unhealthy]
      simp only [same, ne_eq, not_true_eq_false, or_false, List.exists_mem_cons_iff]
      tauto
    · rw [grown] at kept
      have shorter := kept.length_le
      simp at shorter

end Loop

end SysadminAssistant.Monitor
