import SysadminAssistant.Library.FirstRows
import SysadminAssistant.Library.StepHistory
import SysadminAssistant.Monitor.DesktopNotifier
import SysadminAssistant.Tray.CalmNotifications

namespace SysadminAssistant.Tray

open Library Python SysadminAssistant.Core
open Monitor.Desktop (TrayPresence)

/-! `GET /api/sysadmin/alerts` (`monitor/routers/sysadmin.py`), and the tray's polls of it
(`sysadmin_tray/client.py`). -/

/-- A row of the alerts table; `serviceName` is that of its details. -/
structure StoredAlert where
  id : Nat
  agent : Text
  severity : Severity
  title : Text
  message : Option Text
  serviceName : Option Text
  acknowledged : Bool
  resolved : Bool
  createdAt : Int
deriving DecidableEq

structure Service where
  rows : List StoredAlert
  distinct : (rows.map StoredAlert.id).Nodup

def StoredAlert.unresolved (row : StoredAlert) : Bool := !row.resolved

/-- Open, and nobody has acknowledged it. -/
def StoredAlert.standing (row : StoredAlert) : Bool := row.unresolved && !row.acknowledged

/-- `AlertInfo.from_dict` of what the route says of a row. -/
def StoredAlert.info (row : StoredAlert) : AlertInfo where
  severity := row.severity
  title := row.title
  message := row.message
  serviceName := row.serviceName
  acknowledged := row.acknowledged

def trayClient : Text := text "sysadmin-tray"

def defaultLimit : Nat := 50

/-- `get_alerts`, over the database's arrangement of rows by falling `created_at`. -/
def getAlerts (order : NewestFirst StoredAlert.createdAt) (activeOnly : Bool) (limit : Nat)
    (client : Option Text) (monotonic : ℚ) (rows : List StoredAlert) (presence : TrayPresence) :
    TrayPresence × List StoredAlert :=
  let presence :=
    if client = some trayClient then { presence with lastSeen := some monotonic } else presence
  let query := order.arrange (if activeOnly then rows.filter StoredAlert.unresolved else rows)
  (presence, query.take limit)

/-- `ApiWorker.fetch_alerts`: the default limit, under the tray's header. -/
def fetchAlerts (order : NewestFirst StoredAlert.createdAt) (monotonic : ℚ)
    (rows : List StoredAlert) (presence : TrayPresence) : TrayPresence × List StoredAlert :=
  getAlerts order true defaultLimit (some trayClient) monotonic rows presence

/-- One poll: the table it reads, the daemon's clock at the request, and the tray's at `evaluate`
and at the snooze lookups of each alert. -/
structure TrayPoll where
  service : Service
  served : ℚ
  now : ℚ
  clocks : Nat → ℚ × ℚ
  dndActive : Bool
  dndAllowCritical : Bool
  desktopInhibited : Bool

inductive TrayOp where
  | poll (poll : TrayPoll)
  | snooze (clock : ℚ) (key : Text) (minutes : Option Int)

/-- The policy and the daemon's presence; and which fingerprints have been announced, and have had
a standing row in every poll since. -/
structure TrayRun where
  policy : PolicyState
  presence : TrayPresence
  announced : Text → Bool

def TrayRun.start (startedAt : ℚ) : TrayRun where
  policy := .initial
  presence := ⟨none, startedAt⟩
  announced _ := false

section

variable (tools : TextTools) (settings : NotificationSettings)
  (order : NewestFirst StoredAlert.createdAt)

def TrayPoll.page (poll : TrayPoll) (presence : TrayPresence) : List StoredAlert :=
  (fetchAlerts order poll.served poll.service.rows presence).2

/-- What the policy sees of a page. -/
def TrayPoll.seen (poll : TrayPoll) (page : List StoredAlert) : Poll where
  now := poll.now
  alerts := page.mapIdx fun index row => ⟨row.info, (poll.clocks index).1, (poll.clocks index).2⟩
  dndActive := poll.dndActive
  dndAllowCritical := poll.dndAllowCritical
  desktopInhibited := poll.desktopInhibited

/-- A row with the fingerprint stands. -/
def TrayPoll.stands (poll : TrayPoll) (fingerprint : Text) : Bool :=
  poll.service.rows.any fun row => row.standing && row.info.fingerprint = fingerprint

def TrayRun.evaluated (run : TrayRun) (poll : TrayPoll) : PolicyState × PollRecord :=
  evaluate tools settings run.policy (poll.seen (poll.page order run.presence))

def TrayRun.step (run : TrayRun) : TrayOp → Option TrayRun
  | .poll poll => some {
      policy := (run.evaluated tools settings order poll).1
      presence := (fetchAlerts order poll.served poll.service.rows run.presence).1
      announced := fun fingerprint => poll.stands fingerprint &&
        (run.announced fingerprint || (run.evaluated tools settings order poll).2.did fingerprint
          Consideration.opens) }
  | .snooze clock key minutes =>
    some { run with policy := snooze settings run.policy clock key minutes }

/-- The episode of a fingerprint is open. -/
def PolicyState.openFor (policy : PolicyState) (fingerprint : Text) : Bool :=
  (policy.states.get? fingerprint).any FingerprintState.episodeOpen

/-- The poll considers every open alert, and marks the tray as watching. -/
structure ConsidersAll (run : TrayRun) (poll : TrayPoll) : Prop where
  payload : ∀ row ∈ poll.service.rows, row.standing → row ∈ poll.page order run.presence
  considered : settings.enabled → ∀ fingerprint, poll.stands fingerprint →
    (run.evaluated tools settings order poll).2.considers fingerprint
  closed : ∀ fingerprint, run.policy.openFor fingerprint →
    ¬ (run.evaluated tools settings order poll).1.openFor fingerprint → ¬ poll.stands fingerprint
  again : ∀ fingerprint, run.announced fingerprint → poll.stands fingerprint →
    (run.evaluated tools settings order poll).2.did fingerprint Consideration.opens = false
  watched : (fetchAlerts order poll.served poll.service.rows run.presence).1.lastSeen =
    some poll.served

def meetsAll (run : TrayRun) : TrayOp → Prop
  | .poll poll => ConsidersAll tools settings order run poll
  | .snooze _ _ _ => True

end

/-- No standing row has a page of other open rows as new as it is. -/
def Fits (rows : List StoredAlert) : Prop :=
  ∀ row ∈ rows, row.standing →
    (rows.filter StoredAlert.unresolved).countP (fun other => row.createdAt ≤ other.createdAt) ≤
      defaultLimit

section

variable {tools : TextTools} {settings : NotificationSettings}
  {order : NewestFirst StoredAlert.createdAt}

/-! The page. -/

theorem Service.nodup (service : Service) : service.rows.Nodup := List.Nodup.of_map _ service.distinct

theorem mem_page {poll : TrayPoll} (fits : Fits poll.service.rows) (presence : TrayPresence)
    {row : StoredAlert} (member : row ∈ poll.service.rows) (standing : row.standing = true) :
    row ∈ poll.page order presence := by
  have opened : row ∈ poll.service.rows.filter StoredAlert.unresolved := by
    simp only [StoredAlert.standing, Bool.and_eq_true] at standing
    exact List.mem_filter.mpr ⟨member, standing.1⟩
  exact order.mem_page (poll.service.nodup.filter _) opened (fits row member standing)

theorem fits_of_pages {poll : TrayPoll} (pages : ∀ order, ∃ presence, ∀ row ∈ poll.service.rows,
    row.standing = true → row ∈ poll.page order presence) : Fits poll.service.rows := by
  intro row member standing
  by_contra many
  have opened : row ∈ poll.service.rows.filter StoredAlert.unresolved := by
    simp only [StoredAlert.standing, Bool.and_eq_true] at standing
    exact List.mem_filter.mpr ⟨member, standing.1⟩
  obtain ⟨presence, listed⟩ := pages (NewestFirst.putLast _ row)
  exact NewestFirst.not_mem_page (poll.service.nodup.filter _) opened (not_le.mp many)
    (listed row member standing)

/-! The policy. -/

theorem considerSeen_grows (poll : Poll) (round : Considering) (seen : Seen) {fingerprint : Text}
    (active : fingerprint ∈ round.active) :
    fingerprint ∈ (considerSeen tools settings poll round seen).active := by
  simp only [considerSeen]
  split
  · exact active
  · simp only [Considering.active, List.map_append, List.mem_append]
    exact Or.inl active

theorem considerSeen_active (poll : Poll) (round : Considering) (seen : Seen)
    (unacknowledged : seen.alert.acknowledged = false) :
    seen.alert.fingerprint ∈ (considerSeen tools settings poll round seen).active := by
  simp only [considerSeen]
  split
  · rename_i known
    simpa [unacknowledged] using known
  · simp [Considering.active, Consideration.fingerprint, consider_alert]

theorem considerAll_grows (poll : Poll) (alerts : List Seen) (round : Considering)
    {fingerprint : Text} (active : fingerprint ∈ round.active) :
    fingerprint ∈ (alerts.foldl (considerSeen tools settings poll) round).active := by
  induction alerts generalizing round with
  | nil => exact active
  | cons seen rest ih => exact ih _ (considerSeen_grows poll round seen active)

theorem considerAll_active (poll : Poll) {alerts : List Seen} (round : Considering) {seen : Seen}
    (member : seen ∈ alerts) (unacknowledged : seen.alert.acknowledged = false) :
    seen.alert.fingerprint ∈ (alerts.foldl (considerSeen tools settings poll) round).active := by
  induction alerts generalizing round with
  | nil => cases member
  | cons first rest ih =>
    rcases List.mem_cons.mp member with here | later
    · subst here
      exact considerAll_grows poll rest _ (considerSeen_active poll round seen unacknowledged)
    · exact ih _ later

theorem evaluate_considers (enabled : settings.enabled = true) (policy : PolicyState) (poll : Poll)
    {seen : Seen} (member : seen ∈ poll.alerts) (unacknowledged : seen.alert.acknowledged = false) :
    (evaluate tools settings policy poll).2.considers seen.alert.fingerprint = true := by
  have active :=
    @considerAll_active tools settings poll poll.alerts ⟨policy, []⟩ seen member unacknowledged
  simp only [evaluate, enabled, Bool.not_true, Bool.false_eq_true, if_false]
  split <;> exact decide_eq_true active

theorem enterPoll_notified (alert : AlertInfo) (before : Option FingerprintState) :
    (enterPoll alert before).1.notifiedThisEpisode =
      before.any FingerprintState.notifiedThisEpisode := by
  cases before <;> rfl

theorem Spoken.tells {considered : Consideration} {now : ℚ} {entered after : FingerprintState}
    (spoken : Spoken settings considered.alert now entered considered.request after) :
    after.episodeOpen = entered.episodeOpen ∧
      (entered.notifiedThisEpisode = true → considered.opens = false) ∧
      (entered.notifiedThisEpisode = true ∨ considered.opens = true →
        after.notifiedThisEpisode = true) := by
  generalize said : considered.request = request at spoken
  cases spoken with
  | silent same =>
    have opens : considered.opens = false := by simp [Consideration.opens, said]
    exact ⟨same.episodeOpen, fun _ => opens, fun told => by simpa [same.notified, opens] using told⟩
  | opening fresh _ _ same =>
    exact ⟨same.episodeOpen, fun notified => by simp [fresh] at notified, fun _ => same.notified⟩
  | escalation announced _ _ _ kind same =>
    exact ⟨same.episodeOpen, fun _ => by simp [Consideration.opens, said, kind],
      fun _ => same.notified.trans announced⟩
  | reminder announced _ kind same =>
    exact ⟨same.episodeOpen, fun _ => by simp [Consideration.opens, said, kind],
      fun _ => same.notified.trans announced⟩

/-- The fingerprint has been announced in its episode. -/
def PolicyState.toldOf (policy : PolicyState) (fingerprint : Text) : Bool :=
  (policy.states.get? fingerprint).any FingerprintState.notifiedThisEpisode

theorem evaluate_tells (enabled : settings.enabled = true) (policy : PolicyState) (poll : Poll)
    {fingerprint : Text}
    (considers : (evaluate tools settings policy poll).2.considers fingerprint = true) :
    (evaluate tools settings policy poll).1.openFor fingerprint = true ∧
      (policy.toldOf fingerprint = true →
        (evaluate tools settings policy poll).2.did fingerprint Consideration.opens = false) ∧
      (policy.toldOf fingerprint = true ∨
        (evaluate tools settings policy poll).2.did fingerprint Consideration.opens = true →
        (evaluate tools settings policy poll).1.toldOf fingerprint = true) := by
  obtain ⟨round, spec, same, states⟩ := (@evaluate_evaluated tools settings enabled policy poll).loop
  obtain ⟨considered, member, named⟩ := List.mem_map.mp (of_decide_eq_true considers)
  have once :
      ((evaluate tools settings policy poll).2.considered.map Consideration.fingerprint).Nodup := by
    rw [same]
    exact spec.once
  have did := did_of_mem once member Consideration.opens
  rw [same] at member
  obtain ⟨alert, admits, titled, result, stored⟩ := spec.done considered member
  have own : considered.alert = alert := by
    rw [result]
    exact consider_alert alert _ _ _
  have kept := states fingerprint (named ▸ titled ▸ fingerprint_ne_backend alert)
  rw [considers, Bool.true_or, if_pos rfl, ← named, ← titled, stored] at kept
  have spoken :=
    @consider_spoken tools settings alert (policy.states.get? alert.fingerprint) poll.now admits
  subst own
  rw [← result] at spoken
  obtain ⟨opened, quiet, told⟩ := spoken.tells
  rw [enterPoll_notified] at quiet told
  rw [← named, did]
  simp only [PolicyState.openFor, PolicyState.toldOf, ← titled, kept, Option.any_some]
  exact ⟨opened, quiet, told⟩

/-! Runs. -/

theorem stands_iff {poll : TrayPoll} {fingerprint : Text} : poll.stands fingerprint = true ↔
    ∃ row ∈ poll.service.rows, row.standing = true ∧ row.info.fingerprint = fingerprint := by
  simp [TrayPoll.stands]

theorem considers_of_stands (enabled : settings.enabled = true) {run : TrayRun} {poll : TrayPoll}
    (fits : Fits poll.service.rows) {fingerprint : Text} (stands : poll.stands fingerprint = true) :
    (run.evaluated tools settings order poll).2.considers fingerprint = true := by
  obtain ⟨row, member, standing, named⟩ := stands_iff.mp stands
  have listed := @mem_page order poll fits run.presence row member standing
  obtain ⟨index, place, here⟩ := List.mem_iff_getElem.mp listed
  have seen : (⟨row.info, (poll.clocks index).1, (poll.clocks index).2⟩ : Seen) ∈
      (poll.seen (poll.page order run.presence)).alerts :=
    List.mem_mapIdx.mpr ⟨index, place, by rw [here]⟩
  have unacknowledged : row.info.acknowledged = false := by
    simp only [StoredAlert.standing, Bool.and_eq_true, Bool.not_eq_true'] at standing
    exact standing.2
  exact named ▸ evaluate_considers enabled run.policy _ seen unacknowledged

/-- An announced fingerprint is one that its episode has been told of. -/
def Recorded (run : TrayRun) : Prop :=
  ∀ fingerprint, run.announced fingerprint = true → run.policy.toldOf fingerprint = true

theorem considersAll_of_fits {run : TrayRun} (recorded : Recorded run) {poll : TrayPoll}
    (fits : Fits poll.service.rows) : ConsidersAll tools settings order run poll := by
  refine ⟨fun row member standing => mem_page fits run.presence member standing,
    fun enabled fingerprint stands => considers_of_stands enabled fits stands, ?_, ?_, ?_⟩
  · intro fingerprint opened closed stands
    cases enabled : settings.enabled with
    | false => exact closed (by simpa [TrayRun.evaluated, evaluate, enabled] using opened)
    | true => exact closed (evaluate_tells enabled _ _ (considers_of_stands enabled fits stands)).1
  · intro fingerprint announced stands
    cases enabled : settings.enabled with
    | false => simp [TrayRun.evaluated, evaluate, enabled, PollRecord.did]
    | true =>
      exact (evaluate_tells enabled _ _ (considers_of_stands enabled fits stands)).2.1
        (recorded fingerprint announced)
  · simp [fetchAlerts, getAlerts]

theorem Recorded.poll {run : TrayRun} (recorded : Recorded run) {poll : TrayPoll}
    (fits : Fits poll.service.rows) {after : TrayRun}
    (stepped : run.step tools settings order (.poll poll) = some after) : Recorded after := by
  cases stepped
  intro fingerprint announced
  simp only [Bool.and_eq_true, Bool.or_eq_true] at announced
  obtain ⟨stands, told⟩ := announced
  cases enabled : settings.enabled with
  | false =>
    simp only [TrayRun.evaluated, evaluate, enabled, Bool.not_false, if_true, PollRecord.did,
      List.any_nil, Bool.false_eq_true, or_false] at told ⊢
    exact recorded fingerprint told
  | true =>
    exact (evaluate_tells enabled _ _ (considers_of_stands enabled fits stands)).2.2
      (told.imp_left (recorded fingerprint))

theorem step_isSome (run : TrayRun) (op : TrayOp) : (run.step tools settings order op).isSome := by
  cases op <;> rfl

def fitsOp (_ : TrayRun) : TrayOp → Prop
  | .poll poll => Fits poll.service.rows
  | .snooze _ _ _ => True

theorem considersAll_throughout (startedAt : ℚ) {ops : List TrayOp}
    (fits : ∀ poll, TrayOp.poll poll ∈ ops → Fits poll.service.rows) :
    Throughout (TrayRun.step tools settings order) (meetsAll tools settings order)
      (TrayRun.start startedAt) ops := by
  have room : Throughout (TrayRun.step tools settings order) fitsOp (TrayRun.start startedAt) ops := by
    apply Throughout.of_forall
    intro op member run
    cases op with
    | poll poll => exact fits poll member
    | snooze clock key minutes => trivial
  have initial : Recorded (TrayRun.start startedAt) := fun fingerprint announced => by cases announced
  refine Throughout.carries ?_ initial room
  intro run op (recorded : Recorded run) fitting
  cases op with
  | poll poll => exact ⟨considersAll_of_fits recorded fitting, fun after => recorded.poll fitting⟩
  | snooze clock key minutes =>
    refine ⟨trivial, fun after stepped => ?_⟩
    cases stepped
    exact recorded

theorem fits_of_throughout {startedAt : ℚ} {ops : List TrayOp}
    (considered : ∀ order, Throughout (TrayRun.step tools settings order)
    (meetsAll tools settings order)
      (TrayRun.start startedAt) ops) {poll : TrayPoll} (member : TrayOp.poll poll ∈ ops) :
    Fits poll.service.rows := by
  apply fits_of_pages
  intro order
  obtain ⟨run, met⟩ := (considered order).meets_mem step_isSome member
  exact ⟨run.presence, fun row inside standing => met.payload row inside standing⟩

/-- Every poll of the tray considers every open alert, however the database breaks ties, exactly if
at every poll no standing alert has a page of other open rows as new as it is. -/
theorem polls_consider_every_alert (tools : TextTools) (settings : NotificationSettings)
    (startedAt : ℚ) (ops : List TrayOp) :
    (∀ order, Throughout (TrayRun.step tools settings order) (meetsAll tools settings order)
      (TrayRun.start startedAt) ops) ↔
    ∀ poll, TrayOp.poll poll ∈ ops → Fits poll.service.rows :=
  ⟨fun considered _ member => fits_of_throughout considered member,
    fun fits _ => considersAll_throughout startedAt fits⟩

end

/-! A critical alert stands, and fifty newer warnings open. -/

def alertRow (id : Nat) : StoredAlert where
  id
  agent := text "sysadmin"
  severity := if id = 0 then .critical else .warning
  title := text "alert " ++ intText id
  message := none
  serviceName := none
  acknowledged := false
  resolved := false
  createdAt := id

theorem alertRows_distinct (count : Nat) :
    (((List.range count).map alertRow).map StoredAlert.id).Nodup := by
  have same : ((List.range count).map alertRow).map StoredAlert.id = List.range count := by
    rw [List.map_map]
    exact List.map_id _
  rw [same]
  exact List.nodup_range

def crowdedPoll (count : Nat) (now : ℚ) : TrayPoll where
  service := ⟨(List.range count).map alertRow, alertRows_distinct count⟩
  served := now
  now
  clocks _ := (now, now)
  dndActive := false
  dndAllowCritical := true
  desktopInhibited := false

theorem newer_alerts_hide_critical :
    ¬ ∀ order, Throughout (TrayRun.step trayTools traySettings order)
      (meetsAll trayTools traySettings order)
      (TrayRun.start 0) [.poll (crowdedPoll 1 10), .poll (crowdedPoll 51 70)] := by
  intro considered
  have fits : Fits (crowdedPoll 51 70).service.rows := fits_of_throughout considered (by simp)
  have few := fits (alertRow 0) (List.mem_map_of_mem (by simp)) rfl
  exact absurd few (by decide)

end SysadminAssistant.Tray
