import SysadminAssistant.Monitor.GpuReadings
import SysadminAssistant.Monitor.Services
import SysadminAssistant.Core.Alerts
import SysadminAssistant.Python.Rounding
import SysadminAssistant.Units.UnitFiles

namespace SysadminAssistant.Monitor.HttpCheck

open Python SysadminAssistant.Core

/-! One service checked over HTTP, and by its unit where one is declared
(`SysAdminAgent._check_service`). -/

inductive Kind where
  | http | tcp | systemd | timer | oneshot | static
deriving DecidableEq

def Kind.word : Kind → Text
  | .http => text "http"
  | .tcp => text "tcp"
  | .systemd => text "systemd"
  | .timer => text "timer"
  | .oneshot => text "oneshot"
  | .static => text "static"

structure SystemdRef where
  unit : Text
  scope : Units.Scope

/-- The declaration of a service, as its validator admits it. -/
structure CheckedService where
  kind : Kind
  systemd : Option SystemdRef
  monitor : Bool
  reason : Option Text
  holdsVram : Bool
  held : holdsVram = true → kind = .http ∧ systemd.isSome = true

def CheckedService.user (svc : CheckedService) : Bool := svc.systemd.all fun ref => ref.scope = .user

structure CheckPlan where
  pollUrl : Bool := false
  connect : Bool := false
  assertActive : Bool := false
  inspectTimer : Bool := false

def CheckPlan.checksNothing (plan : CheckPlan) : Bool :=
  !(plan.pollUrl || plan.connect || plan.assertActive)

def checkPlan (svc : CheckedService) : CheckPlan :=
  if !svc.monitor || svc.kind = .oneshot || svc.kind = .static then {}
  else match svc.kind with
    | .http => { pollUrl := true, assertActive := svc.systemd.isSome }
    | .tcp => { connect := true }
    | .timer => { assertActive := true, inspectTimer := true }
    | _ => { assertActive := true }

structure Reading where
  status : ServiceStatus
  elapsedMs : Option Int
  details : Details

def noted (entries : List (String × Json)) : Details :=
  .ofEntries (entries.map fun entry => (text entry.1, entry.2))

/-- What came of the request; `unmet` is what a declared `expect:` finds wrong with the body. -/
inductive Exchange where
  | noUrl
  | answered (statusCode : Int) (elapsedMs : Int) (unmet : Option Details)
  | timedOut (elapsedMs : Int)
  | refused
  | failed (error : CheckError)

def checkHttp : Exchange → Except CheckError Reading
  | .noUrl => .ok ⟨.error, none, noted [("error", .str (text "no url configured for http check"))]⟩
  | .answered statusCode elapsedMs unmet =>
    if statusCode = 200 then
      match unmet with
      | some details => .ok ⟨.degraded, some elapsedMs, details⟩
      | none =>
        if 5000 < elapsedMs then .ok ⟨.degraded, some elapsedMs,
          noted [("reason", .str (text "slow response"))]⟩
        else .ok ⟨.ok, some elapsedMs, .empty⟩
    else if statusCode < 500 then
      .ok ⟨.degraded, some elapsedMs, noted [("status_code", .int statusCode),
        ("reason", .str (text "HTTP " ++ intText statusCode))]⟩
    else .ok ⟨.critical, some elapsedMs, noted [("status_code", .int statusCode)]⟩
  | .timedOut elapsedMs => .ok ⟨.unreachable, some elapsedMs, noted [("error", .str (text "timeout"))]⟩
  | .refused => .ok ⟨.unreachable, none, noted [("error", .str (text "connection refused"))]⟩
  | .failed error => .error error

/-- What a check meets: the answer of the URL, `systemctl`, the database session with what reading
`log_entries` gives, `/proc`, and the slot of the card.  The other two checks are given by their
results. -/
structure Surroundings where
  exchange : Exchange
  systemctl : Systemctl
  session : Option (Except CheckError (List StoredLine))
  fdinfo : Int → FdInfo
  gpuPciSlot : Text
  tcp : Except CheckError Reading
  systemd : Except CheckError Reading

def contextKey : Text := text "gpu_context"

def residencyKey : Text := text "gpu_residency"

/-- What `{**details, **unit_info}` takes of a unit. -/
def withUnitInfo (details : Details) (info : UnitInfo) : Details :=
  (info.entries.foldl (fun details entry => details.set entry.1 (.str entry.2)) details).set
    (text "is_active") (.bool info.isActive)

section

variable (wording : Wording) (unit : Text) (info : UnitInfo)

def gpuContextReading (session : Option (Except CheckError (List StoredLine))) (reading : Reading) :
    Except CheckError Reading :=
  let unread (why : Text) :=
    { reading with details := reading.details.set contextKey (unreadableReading unit why) }
  match parseStartInstant wording (info.get? startInstantProp) with
  | .error error => .error error
  | .ok none => .ok (unread (text "systemd published no usable ActiveEnterTimestamp"))
  | .ok (some startedAt) => match session with
    | none => .ok (unread (text "no database session was supplied to the check"))
    | some (.error (.sqlAlchemy message)) =>
      .ok (unread (text "log_entries could not be read: " ++ message))
    | some (.error error) => .error error
    | some (.ok lines) =>
      let sighting := resetSince wording.database lines startedAt
      let details := reading.details.set contextKey (verdictReading wording unit startedAt sighting)
      match sighting with
      | none => .ok { reading with details }
      | some sighting => .ok {
          status := .degraded
          elapsedMs := reading.elapsedMs
          details := details.set (text "reason") (.str (text "url ok and " ++ unit ++
            text " is active, but its GPU context was created before the card reset at " ++
            wording.isoformat sighting.at ++ text " — every client lost its VRAM")) }

/-- `int(unit_info.get("MainPID") or 0)`. -/
def mainPid : Except PyError Int :=
  match info.get? (text "MainPID") with
  | none | some [] => .ok 0
  | some value => wording.database.intOfText value

/-- A quotient of two `int`s; one beyond the doubles raises. -/
def quotient : PyFloat → Except PyError ℚ
  | .finite value => .ok value
  | .infinite _ | .nan => .error .overflowError

/-- `evicted_kib / 1024**2`. -/
def gibOf (evictedKib : Int) : Except PyError ℚ := quotient (PyFloat.round (evictedKib / 1048576))

def gpuResidencyReading (slot : Text) (fdinfo : Int → FdInfo) (reading : Reading) :
    Except CheckError Reading :=
  let unread (why : Text) :=
    { reading with details := reading.details.set residencyKey (unreadableReading unit why) }
  match mainPid wording info with
  | .error error => .error (raised wording error)
  | .ok pid =>
    if pid ≤ 0 then .ok (unread (text "systemd published no MainPID"))
    else if slot = [] then .ok (unread (text "llm.gpu_pci_slot is empty"))
    else match readResidency wording slot (fdinfo pid) with
      | .error (.osError message) =>
        .ok (unread (text "/proc/" ++ intText pid ++ text "/fdinfo could not be read: " ++ message))
      | .error error => .error error
      | .ok residency =>
        let details := reading.details.set residencyKey (residencyReading unit pid residency)
        if reading.status = .ok ∧ evictionFloorKib ≤ residency.evictedKib then
          match gibOf residency.evictedKib with
          | .error error => .error (raised wording error)
          | .ok gib => .ok {
              status := .degraded
              elapsedMs := reading.elapsedMs
              details :=
                details.set (text "reason")
                  (.str (text "url ok and " ++ unit ++ text " is active, but " ++
                wording.tenths gib ++
                  text (" GiB of its VRAM has been evicted to GTT — restart the unit to " ++
                  "put it back on the card"))) }
        else .ok { reading with details }

end

section

variable (wording : Wording) (svc : CheckedService) (surroundings : Surroundings)

/-- What follows an active unit. -/
def activeReading (unit : Text) (info : UnitInfo) (reading : Reading) : Except CheckError Reading :=
  if svc.holdsVram then do
    let known ← gpuContextReading wording unit info surroundings.session reading
    gpuResidencyReading wording unit info surroundings.gpuPciSlot surroundings.fdinfo known
  else .ok reading

/-- `_check_http_and_unit` from the query of the unit on. -/
def assertUnit (ref : SystemdRef) (reading : Reading) : Except CheckError Reading :=
  match getUnitStatus wording surroundings.systemctl ref.unit svc.user svc.holdsVram with
  | .error (.systemdQuery message) =>
    let unavailable := reading.details.set (text "unit_check") (.str (text "unavailable"))
    .ok { reading with
      details := if svc.holdsVram then
          unavailable.set contextKey
            (unreadableReading ref.unit (text "systemctl could not be queried: " ++ message))
        else unavailable }
  | .error error => .error error
  | .ok info =>
    if info.isActive then activeReading wording svc surroundings ref.unit info reading
    else
      let reason :=
        if info.activeState = some (text "activating") then text "url ok, unit still activating"
        else text "url ok but " ++ ref.unit ++ text " is not active"
      .ok {
        status := .degraded
        elapsedMs := reading.elapsedMs
        details := withUnitInfo (reading.details.set (text "reason") (.str reason)) info }

def checkHttpAndUnit (plan : CheckPlan) : Except CheckError Reading := do
  let reading ← checkHttp surroundings.exchange
  match svc.systemd with
  | none => return reading
  | some ref =>
    if !plan.assertActive || reading.status ≠ .ok then return reading
    else assertUnit wording svc surroundings ref reading

def skipDetails : Details :=
  let reason := match svc.reason with
    | some (c :: rest) => c :: rest
    | _ => text "kind " ++ svc.kind.word ++ text ": not expected to be running between invocations"
  let details :=
    noted [("kind", .str svc.kind.word), ("monitored", .bool svc.monitor), ("reason", .str reason)]
  match svc.systemd with
  | none => details
  | some ref => if ref.unit = [] then details else details.set (text "unit") (.str ref.unit)

/-- The handler of `_check_service`. -/
def settled : Except CheckError Reading → Reading
  | .ok reading => reading
  | .error error => ⟨.unreachable, none, noted [("error", .str error.message)]⟩

def checkService : Reading :=
  let plan := checkPlan svc
  if plan.checksNothing then ⟨.skipped, none, skipDetails svc⟩
  else
    settled (if plan.connect then surroundings.tcp
      else if plan.pollUrl then checkHttpAndUnit wording svc surroundings plan
      else surroundings.systemd)

end

/-! ## The two terms of a service that holds VRAM -/

/-- A start instant and the stored lines were read. -/
def ContextRead (wording : Wording) (info : UnitInfo)
    (session : Option (Except CheckError (List StoredLine))) (startedAt : Int)
    (lines : List StoredLine) : Prop :=
  parseStartInstant wording (info.get? startInstantProp) = .ok (some startedAt) ∧
    session = some (.ok lines)

/-- A read that is not asked for, succeeds, or fails by `SQLAlchemyError`. -/
def SessionHandled : Option (Except CheckError (List StoredLine)) → Prop
  | none | some (.ok _) | some (.error (.sqlAlchemy _)) => True
  | some (.error _) => False

structure ContextHandled (wording : Wording) (info : UnitInfo)
    (session : Option (Except CheckError (List StoredLine))) : Prop where
  start : StartWithinReach wording (info.get? startInstantProp)
  session : ∀ startedAt, parseStartInstant wording (info.get? startInstantProp) =
    .ok (some startedAt) → SessionHandled session

def recorded (reading : Reading) (key : Text) (value : Json) : Reading :=
  { reading with details := reading.details.set key value }

/-- What the context term comes to. -/
inductive ContextOutcome (wording : Wording) (unit : Text) (info : UnitInfo)
    (session : Option (Except CheckError (List StoredLine))) (reading : Reading) :
    Except CheckError Reading → Prop
  | unread {why : Text} (handled : ContextHandled wording info session)
      (unknown : ∀ startedAt lines, ¬ ContextRead wording info session startedAt lines) :
      ContextOutcome wording unit info session reading
        (.ok (recorded reading contextKey (unreadableReading unit why)))
  | current {startedAt : Int} {lines : List StoredLine} {value : Json}
      (read : ContextRead wording info session startedAt lines) :
      ContextOutcome wording unit info session reading (.ok (recorded reading contextKey value))
  | lost {startedAt : Int} {lines : List StoredLine} {after : Reading}
      (read : ContextRead wording info session startedAt lines)
      (reset : ∃ line ∈ lines, line.declared wording.database = true ∧ startedAt < line.loggedAt)
      (degraded : after.status = .degraded) :
      ContextOutcome wording unit info session reading (.ok after)
  | escaped {error : CheckError} (unhandled : ¬ ContextHandled wording info session)
      (unknown : ∀ startedAt lines, ¬ ContextRead wording info session startedAt lines) :
      ContextOutcome wording unit info session reading (.error error)

section

variable {wording : Wording} {unit : Text} {info : UnitInfo}
  {session : Option (Except CheckError (List StoredLine))}

theorem handled_of_read {startedAt : Int} {lines : List StoredLine}
    (read : ContextRead wording info session startedAt lines) :
    ContextHandled wording info session where
  start := parseStartInstant_answers.mp ⟨_, read.1⟩
  session _ _ := by
    rw [read.2]
    trivial

variable (wording unit info session) in
theorem gpuContextReading_outcome (reading : Reading) :
    ContextOutcome wording unit info session reading
      (gpuContextReading wording unit info session reading) := by
  cases started : parseStartInstant wording (info.get? startInstantProp) with
  | error error =>
    have unread : ∀ startedAt lines, ¬ ContextRead wording info session startedAt lines := by
      intro startedAt lines read
      simp [read.1] at started
    simp only [gpuContextReading, started]
    refine .escaped (fun handled => ?_) unread
    obtain ⟨found, answered⟩ := parseStartInstant_answers.mpr handled.start
    simp [started] at answered
  | ok found =>
    have start := parseStartInstant_answers.mp ⟨_, started⟩
    cases found with
    | none =>
      simp only [gpuContextReading, started]
      exact .unread ⟨start, fun _ same => by simp [started] at same⟩ fun startedAt lines read => by
        simp [read.1] at started
    | some startedAt =>
      have handled (taken : SessionHandled session) : ContextHandled wording info session :=
        ⟨start, fun _ _ => taken⟩
      have unhandled (refused : ¬ SessionHandled session) : ¬ ContextHandled wording info session :=
        fun handled => refused (handled.session startedAt started)
      have unread (none : ∀ lines, session ≠ some (.ok lines)) :
          ∀ startedAt lines, ¬ ContextRead wording info session startedAt lines :=
        fun _ lines read => none lines read.2
      cases session with
      | none =>
        simp only [gpuContextReading, started]
        exact .unread (handled trivial) (unread (by simp))
      | some answer =>
        cases answer with
        | ok lines =>
          have read : ContextRead wording info (some (.ok lines)) startedAt lines := ⟨started, rfl⟩
          simp only [gpuContextReading, started]
          cases sighted : resetSince wording.database lines startedAt with
          | none => exact .current read
          | some sighting => exact .lost read (resetSince_isSome.mp (by simp [sighted])) rfl
        | error error =>
          simp only [gpuContextReading, started]
          cases error with
          | sqlAlchemy message => exact .unread (handled trivial) (unread (by simp))
          | systemdQuery message => exact .escaped (unhandled id) (unread (by simp))
          | osError message => exact .escaped (unhandled id) (unread (by simp))
          | other message => exact .escaped (unhandled id) (unread (by simp))

end

/-- A main process, a slot, and the figures of the clients on it. -/
def ResidencyRead (wording : Wording) (info : UnitInfo) (slot : Text) (fdinfo : Int → FdInfo)
    (residency : Residency) : Prop :=
  ∃ pid, mainPid wording info = .ok pid ∧ 0 < pid ∧ slot ≠ [] ∧
    readResidency wording slot (fdinfo pid) = .ok residency

/-- A directory whose files and figures are legible, or that cannot be listed by `OSError`. -/
def FdHandled (wording : Wording) (slot : Text) : FdInfo → Prop
  | .ok files => Legible wording slot files
  | .error (.osError _) => True
  | .error _ => False

structure ResidencyHandled (wording : Wording) (info : UnitInfo) (slot : Text)
    (fdinfo : Int → FdInfo) : Prop where
  pid : ∃ pid, mainPid wording info = .ok pid
  files : ∀ pid, mainPid wording info = .ok pid → 0 < pid → slot ≠ [] →
    FdHandled wording slot (fdinfo pid)

/-- Where a number of KiB, in GiB, leaves the doubles. -/
def endOfDoublesKib : Int := 2 ^ 1044 - 2 ^ 990

/-- What the residency term comes to. -/
inductive ResidencyTerm (wording : Wording) (unit : Text) (info : UnitInfo) (slot : Text)
    (fdinfo : Int → FdInfo) (reading : Reading) : Except CheckError Reading → Prop
  | unread {why : Text} (handled : ResidencyHandled wording info slot fdinfo)
      (unknown : ∀ residency, ¬ ResidencyRead wording info slot fdinfo residency) :
      ResidencyTerm wording unit info slot fdinfo reading
        (.ok (recorded reading residencyKey (unreadableReading unit why)))
  | resident {residency : Residency} {value : Json}
      (read : ResidencyRead wording info slot fdinfo residency)
      (quiet : reading.status = .ok → residency.evictedKib < evictionFloorKib) :
      ResidencyTerm wording unit info slot fdinfo reading (.ok (recorded reading residencyKey value))
  | evicted {residency : Residency} {value : Json} {reason : Text}
      (read : ResidencyRead wording info slot fdinfo residency)
      (above : evictionFloorKib ≤ residency.evictedKib)
        (fits : residency.evictedKib < endOfDoublesKib) :
      ResidencyTerm wording unit info slot fdinfo reading
        (.ok ⟨.degraded, reading.elapsedMs, (recorded reading residencyKey value).details.set
          (text "reason") (.str reason)⟩)
  | overflow {residency : Residency} {error : CheckError}
      (read : ResidencyRead wording info slot fdinfo residency)
      (ok : reading.status = .ok) (above : evictionFloorKib ≤ residency.evictedKib)
      (beyond : ¬ residency.evictedKib < endOfDoublesKib) :
      ResidencyTerm wording unit info slot fdinfo reading (.error error)
  | escaped {error : CheckError} (unhandled : ¬ ResidencyHandled wording info slot fdinfo)
      (unknown : ∀ residency, ¬ ResidencyRead wording info slot fdinfo residency) :
      ResidencyTerm wording unit info slot fdinfo reading (.error error)

theorem gibOf_eq_ok {evictedKib : Int} (positive : 0 ≤ evictedKib) :
    (∃ gib, gibOf evictedKib = .ok gib) ↔ evictedKib < endOfDoublesKib := by
  have finite : (∃ gib, gibOf evictedKib = .ok gib) ↔ |roundToDouble ((evictedKib : ℚ) / 1048576)| <
      2 ^ 1024 := by
    rw [gibOf, PyFloat.round]
    -- the bound is never to be computed here
    generalize (2 : ℚ) ^ 1024 = bound
    by_cases small : |roundToDouble ((evictedKib : ℚ) / 1048576)| < bound
    · simp [small, quotient]
    · simp [small, quotient]
  have nonneg : (0 : ℚ) ≤ (evictedKib : ℚ) / 1048576 :=
    div_nonneg (by exact_mod_cast positive) (by norm_num)
  rw [finite, endOfDoublesKib, abs_of_nonneg (roundToDouble_nonneg nonneg)]
  constructor
  · intro small
    by_contra beyond
    have start : ¬ |roundToDouble (((2 ^ 1044 - 2 ^ 990 : Int) : ℚ) / 1048576)| < 2 ^ 1024 := by
      decide +kernel
    have large : (0 : ℚ) ≤ ((2 ^ 1044 - 2 ^ 990 : Int) : ℚ) / 1048576 :=
      div_nonneg (Int.cast_nonneg (by decide +kernel)) (by norm_num)
    refine start ((abs_of_nonneg (roundToDouble_nonneg large)).trans_lt (lt_of_le_of_lt ?_ small))
    refine roundToDouble_mono large (div_le_div_of_nonneg_right ?_ (by norm_num))
    exact_mod_cast not_lt.mp beyond
  · intro below
    have last : |roundToDouble (((2 ^ 1044 - 2 ^ 990 - 1 : Int) : ℚ) / 1048576)| < 2 ^ 1024 := by
      decide +kernel
    refine lt_of_le_of_lt ?_ ((le_abs_self _).trans_lt last)
    refine roundToDouble_mono nonneg (div_le_div_of_nonneg_right ?_ (by norm_num))
    exact_mod_cast Int.le_sub_one_of_lt below

section

variable {wording : Wording} {unit : Text} {info : UnitInfo} {slot : Text} {fdinfo : Int → FdInfo}

theorem evictedKib_nonneg (residency : Residency) : 0 ≤ residency.evictedKib := le_max_left _ _

variable (wording unit info slot fdinfo) in
theorem gpuResidencyReading_outcome (reading : Reading) :
    ResidencyTerm wording unit info slot fdinfo reading
      (gpuResidencyReading wording unit info slot fdinfo reading) := by
  cases numbered : mainPid wording info with
  | error error =>
    simp only [gpuResidencyReading, numbered]
    refine .escaped (fun handled => ?_) fun residency read => ?_
    · obtain ⟨pid, known⟩ := handled.pid
      simp [numbered] at known
    · obtain ⟨pid, known, _⟩ := read
      simp [numbered] at known
  | ok pid =>
    have same : ∀ other, mainPid wording info = .ok other → other = pid := by
      intro other known
      exact Except.ok.inj (known.symm.trans numbered)
    simp only [gpuResidencyReading, numbered]
    by_cases gone : pid ≤ 0
    · rw [if_pos gone]
      refine .unread ⟨⟨pid, numbered⟩, fun other known positive => ?_⟩ fun residency read => ?_
      · exact absurd (same other known ▸ positive) (not_lt.mpr gone)
      · obtain ⟨other, known, positive, _⟩ := read
        exact absurd (same other known ▸ positive) (not_lt.mpr gone)
    · rw [if_neg gone]
      by_cases empty : slot = []
      · rw [if_pos empty]
        exact .unread ⟨⟨pid, numbered⟩, fun _ _ _ some => absurd empty some⟩ fun residency read => by
          obtain ⟨_, _, _, some, _⟩ := read
          exact some empty
      · rw [if_neg empty]
        have positive : 0 < pid := not_le.mp gone
        have handled (taken : FdHandled wording slot (fdinfo pid)) : ResidencyHandled wording info
            slot fdinfo :=
          ⟨⟨pid, numbered⟩, fun other known _ _ => same other known ▸ taken⟩
        have unhandled (refused : ¬ FdHandled wording slot (fdinfo pid)) :
            ¬ ResidencyHandled wording info slot fdinfo :=
          fun handled => refused (handled.files pid numbered positive empty)
        have unread {error : CheckError} (failed : readResidency wording slot
            (fdinfo pid) = .error error) :
            ∀ residency, ¬ ResidencyRead wording info slot fdinfo residency := by
          intro residency read
          obtain ⟨other, known, _, _, listed⟩ := read
          rw [same other known, failed] at listed
          contradiction
        have outcome := readResidency_outcome wording slot (fdinfo pid)
        cases result : readResidency wording slot (fdinfo pid) with
        | error error =>
          rw [result] at outcome
          cases outcome with
          | unlisted absent => exact .unread (handled (by rw [absent]; trivial)) (unread result)
          | lost unknown listing illegible =>
            have refused : ¬ FdHandled wording slot (fdinfo pid) := by
              cases listed : fdinfo pid with
              | ok files => exact illegible files listed
              | error other =>
                cases other with
                | osError message => exact absurd listed (listing message)
                | systemdQuery message => exact id
                | sqlAlchemy message => exact id
                | other message => exact id
            cases error with
            | osError message => exact absurd rfl (unknown message)
            | systemdQuery message => exact .escaped (unhandled refused) (unread result)
            | sqlAlchemy message => exact .escaped (unhandled refused) (unread result)
            | other message => exact .escaped (unhandled refused) (unread result)
        | ok residency =>
          have read : ResidencyRead wording info slot fdinfo residency :=
            ⟨pid, numbered, positive, empty, result⟩
          by_cases fault : reading.status = .ok ∧ evictionFloorKib ≤ residency.evictedKib
          · have fits := gibOf_eq_ok (evictedKib_nonneg residency)
            simp only [if_pos fault]
            cases sized : gibOf residency.evictedKib with
            | ok gib => exact .evicted read fault.2 (fits.mp ⟨gib, sized⟩)
            | error error =>
              refine .overflow read fault.1 fault.2 fun below => ?_
              obtain ⟨gib, found⟩ := fits.mpr below
              simp [sized] at found
          · simp only [if_neg fault]
            exact .resident read fun ok => by
              by_contra above
              exact fault ⟨ok, not_lt.mp above⟩

theorem residencyRead_unique {first second : Residency}
    (read : ResidencyRead wording info slot fdinfo first)
    (again : ResidencyRead wording info slot fdinfo second) : second = first := by
  obtain ⟨pid, known, _, _, listed⟩ := read
  obtain ⟨other, alsoKnown, _, _, alsoListed⟩ := again
  cases known.symm.trans alsoKnown
  exact Except.ok.inj (alsoListed.symm.trans listed)

theorem residencyHandled_of_read {residency : Residency}
    (read : ResidencyRead wording info slot fdinfo residency) :
    ResidencyHandled wording info slot fdinfo := by
  obtain ⟨pid, known, positive, some, result⟩ := read
  refine ⟨⟨pid, known⟩, fun other again _ _ => ?_⟩
  cases known.symm.trans again
  have outcome := readResidency_outcome wording slot (fdinfo pid)
  rw [result] at outcome
  cases outcome with
  | measured listed legible =>
    rw [listed]
    exact legible

end

end SysadminAssistant.Monitor.HttpCheck
