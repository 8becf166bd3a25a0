import SysadminAssistant.Core.Alerts
import SysadminAssistant.Python.Dict

namespace SysadminAssistant.Tray

open Python SysadminAssistant.Core

/-! `NotificationPolicy` of the tray (`sysadmin_tray/notifications.py`): which alerts of a
poll become notifications, and how loudly.  Instants are seconds of the monotonic clock. -/

/-- What the policy reads of an alert. -/
structure AlertInfo where
  severity : Severity
  title : Text
  message : Option Text
  serviceName : Option Text
  acknowledged : Bool

structure NotificationRequest where
  summary : Text
  body : Text
  severity : Severity
  alertSeverity : Option Severity
  serviceName : Option Text
  fingerprint : Option Text
  transient : Bool
  snoozeKey : Option Text
  escalation : Bool
  reminder : Bool

structure NotificationSettings where
  enabled : Bool
  minSeverity : Text
  flapCooldownMinutes : Int
  escalationPolls : Int
  coalesceThreshold : Int
  snoozeMinutes : Int
  digestMode : Bool
  digestIntervalMinutes : Int
  respectDesktopDnd : Bool
  mutedServices : List Text
  reminderHours : PyFloat

/-- `min_severity_level`: an unknown name counts as critical. -/
def NotificationSettings.minSeverityLevel (settings : NotificationSettings) : Nat :=
  (([.info, .warning, .critical] : List Severity).find? fun severity =>
    severity.name = settings.minSeverity).elim Severity.critical.order Severity.order

/-- In seconds. -/
def NotificationSettings.cooldown (settings : NotificationSettings) : ℚ :=
  settings.flapCooldownMinutes * 60

def NotificationSettings.reminderInterval (settings : NotificationSettings) : PyFloat :=
  settings.reminderHours.mul 3600

structure FingerprintState where
  fingerprint : Text
  severity : Severity
  episodeOpen : Bool := false
  pollsActive : Nat := 0
  notifiedThisEpisode : Bool := false
  escalated : Bool := false
  lastNotifiedAt : Option ℚ := none
  firstNotifiedAt : Option ℚ := none
  remindersSent : Nat := 0
  suppressedEpisodes : Nat := 0

structure PolicyState where
  states : Dict Text FingerprintState
  snoozes : Dict Text ℚ
  digest : List (Severity × Text)
  digestStartedAt : Option ℚ

def PolicyState.initial : PolicyState := ⟨.empty, .empty, [], none⟩

/-- Of the interpreter: its Unicode database, and `str.lower`. -/
structure TextTools where
  database : CharDatabase
  lower : Text → Text

def fpCoalesced : Text := text "sysadmin:new-alert-summary"

def fpDigest : Text := text "sysadmin:warning-digest"

def fpReminder : Text := text "sysadmin:still-open-summary"

def fpBackendUnreachable : Text := text "sysadmin:backend-unreachable"

def maxListedTitles : Nat := 5

def AlertInfo.fingerprint (alert : AlertInfo) : Text := alert.severity.name ++ text ":" ++ alert.title

def humaniseMinutes (minutes : ℚ) : Text :=
  let mins := roundHalfEven minutes
  if mins ≥ 60 ∧ mins % 60 = 0 then
    let hours := mins / 60
    if hours = 1 then text "hour" else intText hours ++ text " hours"
  else intText (if mins ≤ 0 then 1 else mins) ++ text " min"

/-- `_count_line`: the highest severity first, zeroes omitted. -/
def countLine (severities : List Severity) : Text :=
  (((([.critical, .warning, .info] : List Severity).filter fun severity => severity ∈ severities).map
    fun severity => intText (severities.count severity) ++ text " " ++ severity.name).intersperse
      (text ", ")).flatten

def highest (severities : List Severity) : Severity :=
  severities.foldl (fun loudest severity => if severity.order > loudest.order then severity
    else loudest) .info

/-! ## Suppression -/

section

variable (tools : TextTools) (settings : NotificationSettings)

/-- `\b` between two neighbours. -/
def wordBoundary (before after : Option CodePoint) : Bool :=
  before.any tools.database.isWord != after.any tools.database.isWord

/-- `re.search(rf"\b{re.escape(name)}\b", value)`, from after the code point `previous`. -/
def searchWord (name : Text) : Option CodePoint → Text → Bool
  | previous, [] => name.isEmpty && wordBoundary tools previous none
  | previous, c :: rest =>
    (name.isPrefixOf (c :: rest) && wordBoundary tools previous (some c) &&
      wordBoundary tools (name.getLast?.or previous) ((c :: rest).drop name.length).head?) ||
    searchWord name (some c) rest

def isMuted (alert : AlertInfo) : Bool :=
  let muted := (settings.mutedServices.filter (· ≠ [])).map tools.lower
  if muted.isEmpty then false
  else
    let service := tools.lower (alert.serviceName.getD [])
    if service ≠ [] then service ∈ muted
    else muted.any fun name => searchWord tools name none (tools.lower alert.title)

/-- `is_snoozed`: an entry that has expired is dropped. -/
def isSnoozed (clock : ℚ) (snoozes : Dict Text ℚ) (key : Text) : Bool × Dict Text ℚ :=
  match snoozes.get? key with
  | none => (false, snoozes)
  | some expiry => if expiry ≤ clock then (false, snoozes.erase key) else (true, snoozes)

/-- `_suppressed_by_dnd`: the more restrictive of the two wins. -/
def suppressedByDnd (severity : Severity) (dndActive dndAllowCritical desktopInhibited : Bool) :
    Bool :=
  if dndActive && !(severity = .critical && dndAllowCritical) then true
  else settings.respectDesktopDnd && desktopInhibited && severity ≠ .critical

/-- An alert as a poll shows it, and what the clock says when its snoozes are looked up. -/
structure Seen where
  alert : AlertInfo
  fingerprintClock : ℚ
  serviceClock : ℚ

structure Poll where
  now : ℚ
  alerts : List Seen
  dndActive : Bool
  dndAllowCritical : Bool
  desktopInhibited : Bool

/-- `_is_snoozed`. -/
def seenSnoozed (snoozes : Dict Text ℚ) (seen : Seen) : Bool × Dict Text ℚ :=
  let first := isSnoozed seen.fingerprintClock snoozes (text "fp:" ++ seen.alert.fingerprint)
  if first.1 then first
  else match seen.alert.serviceName with
    | none | some [] => first
    | some service => isSnoozed seen.serviceClock first.2 (text "service:" ++ tools.lower service)

/-- The four rules that decide whether an alert may speak at all in this poll. -/
def admitted (poll : Poll) (snoozes : Dict Text ℚ) (seen : Seen) : Bool × Dict Text ℚ :=
  let alert := seen.alert
  if alert.severity.order < settings.minSeverityLevel then (false, snoozes)
  else if isMuted tools settings alert then (false, snoozes)
  else
    let snoozed := seenSnoozed tools snoozes seen
    (!snoozed.1 && !suppressedByDnd settings alert.severity poll.dndActive poll.dndAllowCritical
      poll.desktopInhibited, snoozed.2)

def snoozeKeyFor (alert : AlertInfo) : Text :=
  match alert.serviceName with
  | none | some [] => text "fp:" ++ alert.fingerprint
  | some service => text "service:" ++ tools.lower service

/-! ## What an alert says -/

def messageLines (alert : AlertInfo) : List Text := (alert.message.filter (· ≠ [])).toList

/-- What the notifications about one alert share. -/
def requestFor (alert : AlertInfo) (summary : Text) (lines : List Text) (severity : Severity)
    (transient escalation reminder : Bool) : NotificationRequest where
  summary
  body := Text.joinLines (lines ++ messageLines alert)
  severity
  alertSeverity := some alert.severity
  serviceName := alert.serviceName
  fingerprint := some alert.fingerprint
  transient
  snoozeKey := some (snoozeKeyFor tools alert)
  escalation
  reminder

def summaryOf (alert : AlertInfo) : Text :=
  (alert.severity.name.map fun c => if 97 ≤ c.val ∧ c.val ≤ 122 then c - 32 else c) ++
    text ": sysadmin"

def firstNotification (alert : AlertInfo) (state : FingerprintState) (now : ℚ) :
    NotificationRequest × FingerprintState :=
  let effective :=
    if alert.severity = .critical ∧ settings.escalationPolls > 1 then .info else alert.severity
  let flaps := match state.lastNotifiedAt with
    | some last =>
      if state.suppressedEpisodes = 0 then []
      else [alert.title ++ text " flapped " ++ intText (state.suppressedEpisodes + 1) ++
        text "× in the last " ++ humaniseMinutes (roundToDouble (elapsed now last / 60))]
    | none => []
  (requestFor tools alert (summaryOf alert) (alert.title :: flaps) effective
    (effective = .info) false false, { state with
      suppressedEpisodes := 0
      notifiedThisEpisode := true
      escalated := false
      lastNotifiedAt := some now
      firstNotifiedAt := some now
      remindersSent := 0 })

def maybeEscalate (alert : AlertInfo) (state : FingerprintState) (now : ℚ) :
    Option (NotificationRequest × FingerprintState) :=
  if alert.severity ≠ .critical ∨ state.escalated then none
  else if settings.escalationPolls ≤ 1 then none
  else if state.pollsActive < settings.escalationPolls then none
  else some (requestFor tools alert (text "CRITICAL: sysadmin")
      [alert.title, text "Still failing after " ++ intText state.pollsActive ++
        text " checks"] .critical
      false true false,
    { state with escalated := true, lastNotifiedAt := some now })

def reminderDue (state : FingerprintState) (now : ℚ) : Bool :=
  let interval := settings.reminderInterval
  if reaches 0 interval then false
  else state.lastNotifiedAt.any fun last => reaches (elapsed now last) interval

def reminder (alert : AlertInfo) (state : FingerprintState) (now : ℚ) :
    Option (NotificationRequest × FingerprintState) :=
  if reminderDue settings state now then
    let opened := (state.firstNotifiedAt.or state.lastNotifiedAt).getD now
    some (requestFor tools alert (summaryOf alert)
        [alert.title,
          text "Still open " ++ humaniseHours (roundToDouble (elapsed now opened / 3600)) ++
          text " after the first alert"] alert.severity false false true,
      { state with lastNotifiedAt := some now, remindersSent := state.remindersSent + 1 })
  else none

/-- Still inside the flap cooldown of what was said last? -/
def coolingDown (state : FingerprintState) (now : ℚ) : Bool :=
  settings.cooldown > 0 && state.lastNotifiedAt.any fun last => elapsed now last < settings.cooldown

/-- The rest of `_consider`, for an alert that may speak and does not go to the digest. -/
def speak (alert : AlertInfo) (state : FingerprintState) (now : ℚ) (firstPoll : Bool) :
    Option NotificationRequest × FingerprintState :=
  if state.notifiedThisEpisode then
    match maybeEscalate tools settings alert state now with
    | some (request, state) => (some request, state)
    | none =>
      match reminder tools settings alert state now with
      | some (request, state) => (some request, state)
      | none => (none, state)
  else if coolingDown settings state now then
    (none, if firstPoll then { state with suppressedEpisodes := state.suppressedEpisodes + 1 }
      else state)
  else
    let (request, state) := firstNotification tools settings alert state now
    (some request, state)

/-- What one poll did about one fingerprint. -/
structure Consideration where
  alert : AlertInfo
  admitted : Bool
  queued : Bool
  request : Option NotificationRequest

def Consideration.fingerprint (considered : Consideration) : Text := considered.alert.fingerprint

/-- The state an alert finds: its own, or a new one; and whether an episode begins. -/
def enterPoll (alert : AlertInfo) (before : Option FingerprintState) : FingerprintState × Bool :=
  let state := before.getD { fingerprint := alert.fingerprint, severity := alert.severity }
  ({ state with episodeOpen := true, pollsActive := state.pollsActive + 1 }, !state.episodeOpen)

/-- `_consider`, once the four rules have answered. -/
def consider (alert : AlertInfo) (before : Option FingerprintState) (now : ℚ) (admits : Bool) :
    Consideration × FingerprintState :=
  let (state, firstPoll) := enterPoll alert before
  if !admits then (⟨alert, false, false, none⟩, state)
  else if settings.digestMode && alert.severity ≠ .critical
    then (⟨alert, true, firstPoll, none⟩, state)
  else
    let (request, state) := speak tools settings alert state now firstPoll
    (⟨alert, true, false, request⟩, state)

/-- The loop over the alerts; what it has considered, in order. -/
structure Considering where
  policy : PolicyState
  considered : List Consideration

def Considering.active (round : Considering) : List Text :=
  round.considered.map Consideration.fingerprint

def considerSeen (poll : Poll) (round : Considering) (seen : Seen) : Considering :=
  let fingerprint := seen.alert.fingerprint
  if seen.alert.acknowledged || fingerprint ∈ round.active then round
  else
    let (admits, snoozes) := admitted tools settings poll round.policy.snoozes seen
    let (considered, state) :=
      consider tools settings seen.alert (round.policy.states.get? fingerprint) poll.now admits
    { policy :=
        { states := round.policy.states.set fingerprint state
          snoozes
          digest := if considered.queued then round.policy.digest ++
            [(seen.alert.severity, seen.alert.title)]
            else round.policy.digest
          digestStartedAt := if considered.queued then round.policy.digestStartedAt.or (some poll.now)
            else round.policy.digestStartedAt }
      considered := round.considered ++ [considered] }

/-! ## One poll -/

/-- `body.splitlines()[0]`; of an empty text there is no first line. -/
def firstLine (body : Text) : Option Text :=
  if body = [] then none
  else some (body.takeWhile fun c => c.val ∉ [0x0A, 0x0B, 0x0C, 0x0D, 0x1C, 0x1D, 0x1E, 0x85,
    0x2028, 0x2029])

def listedLines (lines : List Text) (count : Nat) : List Text :=
  lines.map (text "• " ++ ·) ++
    if count > maxListedTitles then [text "…and " ++ intText (count - maxListedTitles) ++
      text " more"] else []

/-- `_coalesce`; `none` is an `IndexError`. -/
def coalesce (fresh : List NotificationRequest) (label fingerprint : Text) (reminder : Bool) :
    Option (List NotificationRequest) :=
  if fresh.length < max settings.coalesceThreshold 2 then some fresh
  else do
    let reported := fresh.map fun request => request.alertSeverity.getD request.severity
    let urgency := highest (fresh.map NotificationRequest.severity)
    let titles ← (fresh.take maxListedTitles).mapM fun request => firstLine request.body
    some [{
      summary := intText fresh.length ++ text " " ++ label
      body := Text.joinLines (countLine reported :: listedLines titles fresh.length)
      severity := urgency
      alertSeverity := some (highest reported)
      serviceName := none
      fingerprint := some fingerprint
      transient := if reminder then false else urgency ≠ .critical
      snoozeKey := none
      escalation := false
      reminder }]

/-- `self._digest_started_at or now`: an instant zero is none. -/
def digestStart (policy : PolicyState) (now : ℚ) : ℚ :=
  (policy.digestStartedAt.filter (· ≠ 0)).getD now

def flushDigest (policy : PolicyState) (now : ℚ) : PolicyState × Option NotificationRequest :=
  if policy.digest.isEmpty then (policy, none)
  else
    let items := policy.digest
    let elapsed := max (roundToDouble (elapsed now (digestStart policy now) / 60)) 1
    let window := humaniseMinutes (if settings.digestIntervalMinutes = 0 then elapsed
      else min elapsed settings.digestIntervalMinutes)
    ({ policy with digest := [], digestStartedAt := none },
      some {
        summary :=
          text "SysAdmin digest — " ++ intText items.length ++ text " alerts in the last " ++ window
        body := Text.joinLines (countLine (items.map Prod.fst) ::
          listedLines ((items.map Prod.snd).take maxListedTitles) items.length)
        severity := .info
        alertSeverity := some (highest (items.map Prod.fst))
        serviceName := none
        fingerprint := some fpDigest
        transient := false
        snoozeKey := none
        escalation := false
        reminder := false })

def maybeFlushDigest (policy : PolicyState) (now : ℚ) : PolicyState × Option NotificationRequest :=
  if policy.digest.isEmpty then (policy, none)
  else if elapsed now (digestStart policy now) < settings.digestIntervalMinutes * 60
    then (policy, none)
  else flushDigest settings policy now

def FingerprintState.closed (state : FingerprintState) : FingerprintState :=
  { state with
    episodeOpen := false
    pollsActive := 0
    notifiedThisEpisode := false
    escalated := false
    firstNotifiedAt := none
    remindersSent := 0 }

/-- Is there nothing left to remember of it? -/
def isCold (state : FingerprintState) (now : ℚ) : Bool :=
  state.lastNotifiedAt.all fun last => elapsed now last > settings.cooldown

def closeOne (active : List Text) (now : ℚ) (states : Dict Text FingerprintState)
    (entry : Text × FingerprintState) : Dict Text FingerprintState :=
  if entry.1 ∈ active then states
  else if entry.1 = fpBackendUnreachable then states
  else if isCold settings entry.2 now then states.erase entry.1
  else states.set entry.1 entry.2.closed

def closeInactive (active : List Text) (now : ℚ) (states : Dict Text FingerprintState) :
    Dict Text FingerprintState := states.entries.foldl (closeOne settings active now) states

/-- What a poll considered; the digest buffer it found, and as its loop left it; and what it
returned, `none` for an exception that came before it closed what was absent. -/
structure PollRecord where
  now : ℚ
  considered : List Consideration
  digestFound : List (Severity × Text)
  digestLeft : List (Severity × Text)
  returned : Option (List NotificationRequest)

def PollRecord.raised (record : PollRecord) : Bool := record.returned.isNone

def evaluate (policy : PolicyState) (poll : Poll) : PolicyState × PollRecord :=
  if !settings.enabled then (policy, ⟨poll.now, [], policy.digest, policy.digest, some []⟩)
  else
    let round := poll.alerts.foldl (considerSeen tools settings poll) ⟨policy, []⟩
    let requests := round.considered.filterMap Consideration.request
    let fresh := requests.filter fun request => !request.escalation && !request.reminder
    let reminders := requests.filter fun request => !request.escalation && request.reminder
    let escalations := requests.filter NotificationRequest.escalation
    let record := PollRecord.mk poll.now round.considered policy.digest round.policy.digest
    let coalesced := do
      let fresh ← coalesce settings fresh (text "new alerts") fpCoalesced false
      let reminders ← coalesce settings reminders (text "alerts still open") fpReminder true
      some (fresh ++ reminders ++ escalations)
    match coalesced with
    | none => (round.policy, record none)
    | some requests =>
      let (flushed, digest) := maybeFlushDigest settings round.policy poll.now
      ({ flushed with states := closeInactive settings round.active poll.now flushed.states },
        record (some (requests ++ digest.toList)))

def snooze (policy : PolicyState) (clock : ℚ) (key : Text) (minutes : Option Int) : PolicyState :=
  { policy with
    snoozes := policy.snoozes.set key
      (roundToDouble (clock + roundToDouble ((minutes.getD settings.snoozeMinutes : Int) * 60))) }

end

end SysadminAssistant.Tray
