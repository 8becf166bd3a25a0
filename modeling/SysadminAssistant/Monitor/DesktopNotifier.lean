import Mathlib.Data.List.Sort
import SysadminAssistant.Core.Alerts
import SysadminAssistant.Python.DecimalText

namespace SysadminAssistant.Monitor.Desktop

open Python SysadminAssistant.Core

/-! The daemon's own notifications (`sysadmin/monitor/desktop.py`): what `DesktopNotifier`
carries, what it reads of the alerts table and what it says.  Instants are the doubles of
`time.time()` and `time.monotonic()`. -/

def rungs : List Severity := [.info, .warning, .critical]

/-- `SEVERITY_LEVELS.get(name, fallback)`. -/
def severityLevel (name : Text) (fallback : Nat) : Nat :=
  (rungs.find? fun severity => severity.name = name).elim fallback Severity.order

/-- `_loudest`: the first of the loudest. -/
def loudest : List Text → Text
  | [] => text "info"
  | first :: rest => rest.foldl
      (fun best name => if severityLevel best 0 < severityLevel name 0 then name else best) first

theorem loudest_mem (first : Text) (rest : List Text) : loudest (first :: rest) ∈ first :: rest := by
  rw [loudest]
  induction rest generalizing first with
  | nil => simp
  | cons next rest ih =>
    rw [List.foldl_cons]
    split
    · exact List.mem_cons_of_mem _ (ih next)
    · rcases List.mem_cons.mp (ih first) with same | later
      · rw [same]
        exact List.mem_cons_self
      · exact List.mem_cons_of_mem _ (List.mem_cons_of_mem _ later)

structure DesktopConfig where
  enabled : Bool
  minSeverity : Text
  trayGraceSeconds : Int
  reminderHours : PyFloat
deriving DecidableEq

def DesktopConfig.threshold (config : DesktopConfig) : Nat := severityLevel config.minSeverity 1

/-- In seconds. -/
def DesktopConfig.interval (config : DesktopConfig) : PyFloat := config.reminderHours.mul 3600

/-- The rungs a sweep adopts at. -/
def DesktopConfig.admitted (config : DesktopConfig) : List Severity :=
  rungs.filter fun severity => config.threshold ≤ severity.order

structure TrayPresence where
  lastSeen : Option ℚ
  startedAt : ℚ
deriving DecidableEq

namespace TrayPresence

def secondsSinceSeen (presence : TrayPresence) (monotonic : ℚ) : Option ℚ :=
  presence.lastSeen.map fun seen => roundToDouble (monotonic - seen)

def isWatching (presence : TrayPresence) (monotonic : ℚ) (graceSeconds : Int) : Bool :=
  (presence.secondsSinceSeen monotonic).any fun elapsed => elapsed ≤ (graceSeconds : ℚ)

def absentFor (presence : TrayPresence) (monotonic : ℚ) : ℚ :=
  (presence.secondsSinceSeen monotonic).getD (roundToDouble (monotonic - presence.startedAt))

end TrayPresence

/-- `DndManager`, whose schedule has decided whether it is `active`. -/
structure Dnd where
  active : Bool
  allowCritical : Bool
deriving DecidableEq

def Dnd.shouldSuppress (dnd : Dnd) (severity : Text) : Bool :=
  dnd.active && !(severity = text "critical" && dnd.allowCritical)

/-- `_SpokenFault`.  Its `serial` says which object it is: they are numbered as they are made. -/
structure SpokenFault where
  serial : Nat
  title : Text
  severity : Text
  episodeStartedAt : ℚ
  lastSpokenAt : ℚ
  remindersSent : Nat
  adopted : Bool
deriving DecidableEq

def SpokenFault.markSpoken (fault : SpokenFault) (now : ℚ) : SpokenFault :=
  { fault with lastSpokenAt := now, remindersSent := fault.remindersSent + 1 }

/-- A fault adopted and never restated was never said. -/
def SpokenFault.said (fault : SpokenFault) : Bool := !fault.adopted || 0 < fault.remindersSent

/-- A row of `desktop_notifications`, under its title. -/
structure StoredFault where
  severity : Text
  episodeStartedAt : Int
  lastSpokenAt : Int
  remindersSent : Nat
  adopted : Bool
deriving DecidableEq

abbrev Store := Dict Text StoredFault

/-- The row `_remember` writes. -/
def SpokenFault.row (fault : SpokenFault) : Except PyError (Text × StoredFault) := do
  let episodeStartedAt ← fromTimestamp fault.episodeStartedAt
  let lastSpokenAt ← fromTimestamp fault.lastSpokenAt
  return (fault.title, ⟨fault.severity, episodeStartedAt, lastSpokenAt, fault.remindersSent,
    fault.adopted⟩)

/-- `datetime.timestamp()`. -/
def timestamp (moment : Int) : ℚ := roundToDouble (moment / 1000000)

/-- The fault `_load_spoken` makes of a row. -/
def StoredFault.restored (row : StoredFault) (serial : Nat) (title : Text) : SpokenFault where
  serial
  title
  severity := row.severity
  episodeStartedAt := timestamp row.episodeStartedAt
  lastSpokenAt := timestamp row.lastSpokenAt
  remindersSent := row.remindersSent
  adopted := row.adopted

/-- `_remember`: an upsert on the title. -/
def remember (store : Store) (rows : List (Text × StoredFault)) : Store :=
  rows.foldl (fun store row => store.set row.1 row.2) store

def forget (store : Store) (titles : List Text) : Store := titles.foldl Dict.erase store

/-! The reads of the alerts table. -/

def openOf (alerts : List Alert) (title : Text) : List Alert :=
  alerts.filter fun alert => alert.title = title && alert.resolvedAt.isNone

/-- `_is_new_incident`, once the database has answered. -/
def isNewIncident (alerts : List Alert) (title : Text) : Bool := (openOf alerts title).length ≤ 1

/-- `_still_open`, once the database has answered. -/
def stillOpen (alerts : List Alert) (titles : List Text) : Dict Text Text :=
  (alerts.filter fun alert => alert.title ∈ titles && alert.resolvedAt.isNone).foldl
    (fun current alert => current.set alert.title
      (loudest (alert.severity.name :: (current.get? alert.title).toList))) .empty

private theorem stillOpen_fold (rows : List Alert) (current : Dict Text Text) (title : Text) :
    let folded := (rows.foldl (fun current alert => current.set alert.title
      (loudest (alert.severity.name :: (current.get? alert.title).toList))) current).get? title
    (folded.isSome ↔ (current.get? title).isSome ∨ ∃ alert ∈ rows, alert.title = title) ∧
      ∀ rung, folded = some rung → current.get? title = some rung ∨
        ∃ alert ∈ rows, alert.title = title ∧ rung = alert.severity.name := by
  induction rows generalizing current with
  | nil => simp
  | cons alert rest ih =>
    obtain ⟨named, rungs⟩ := ih (current.set alert.title
      (loudest (alert.severity.name :: (current.get? alert.title).toList)))
    rw [List.foldl_cons]
    refine ⟨?_, fun rung found => ?_⟩
    · rw [named, Dict.get?_set]
      by_cases same : alert.title = title
      · simp [same]
      · simp [same]
    · rcases rungs rung found with here | ⟨other, member, same, shape⟩
      · rw [Dict.get?_set] at here
        split at here
        · rename_i same
          have listed := loudest_mem alert.severity.name (current.get? alert.title).toList
          rw [Option.some.inj here] at listed
          rcases List.mem_cons.mp listed with own | earlier
          · exact Or.inr ⟨alert, List.mem_cons_self, same, own⟩
          · exact Or.inl (by rw [← same]; exact Option.mem_toList.mp earlier)
        · exact Or.inl here
      · exact Or.inr ⟨other, List.mem_cons_of_mem _ member, same, shape⟩

theorem mem_openOf {alerts : List Alert} {title : Text} {alert : Alert} :
    alert ∈ openOf alerts title ↔ alert ∈ alerts ∧ alert.title = title ∧ alert.resolvedAt = none := by
  simp [openOf]

theorem openOf_ne_nil {alerts : List Alert} {title : Text} : openOf alerts title ≠ [] ↔
    ∃ alert ∈ alerts, alert.title = title ∧ alert.resolvedAt = none := by
  rw [ne_eq, List.eq_nil_iff_forall_not_mem]
  simp [mem_openOf]

theorem stillOpen_isSome {alerts : List Alert} {titles : List Text} {title : Text} :
    ((stillOpen alerts titles).get? title).isSome ↔ title ∈ titles ∧ openOf alerts title ≠ [] := by
  rw [stillOpen, (stillOpen_fold _ _ title).1, openOf_ne_nil]
  simp only [Dict.get?_empty, Option.isSome_none, Bool.false_eq_true, false_or, List.mem_filter,
    Bool.and_eq_true, decide_eq_true_eq, Option.isNone_iff_eq_none]
  constructor
  · intro found
    obtain ⟨alert, ⟨member, asked, standing⟩, same⟩ := found
    exact ⟨same ▸ asked, alert, member, same, standing⟩
  · intro found
    obtain ⟨asked, alert, member, same, standing⟩ := found
    exact ⟨alert, ⟨member, same ▸ asked, standing⟩, same⟩

theorem stillOpen_rung {alerts : List Alert} {titles : List Text} {title rung : Text}
    (found : (stillOpen alerts titles).get? title = some rung) :
    ∃ alert ∈ openOf alerts title, rung = alert.severity.name := by
  rcases (stillOpen_fold _ _ title).2 rung found with impossible | ⟨alert, member, same, shape⟩
  · simp at impossible
  · simp only [List.mem_filter, Bool.and_eq_true, Option.isNone_iff_eq_none] at member
    exact ⟨alert, mem_openOf.mpr ⟨member.1, same, member.2.2⟩, shape⟩

/-- `_closed_since`; a failure answers nothing. -/
def closedSince (alerts : List Alert) (titles : List Text) (since : ℚ) : List Text :=
  match fromTimestamp since with
  | .error _ => []
  | .ok moment => (alerts.filter fun alert => alert.title ∈ titles &&
      alert.resolvedAt.any fun closed => moment ≤ closed).map Alert.title

/-- A row of the adoption scan. -/
structure Candidate where
  title : Text
  opened : Int
  rungs : List Text

/-- The adoption scan: the oldest standing titles first. -/
def adoptable (alerts : List Alert) (admitted : List Severity) (spokenFor : List Text)
    (room : Nat) : List Candidate :=
  let standing := alerts.filter fun alert =>
    alert.resolvedAt.isNone && alert.severity ∈ admitted && alert.title ∉ spokenFor
  let candidates := (standing.map Alert.title).dedup.map fun title =>
    let rows := standing.filter fun alert => alert.title = title
    { title
      opened := (rows.map Alert.createdAt).foldl min ((rows.map Alert.createdAt).headD 0)
      rungs := (rows.map fun alert => alert.severity.name).dedup : Candidate }
  (candidates.insertionSort fun left right => left.opened ≤ right.opened).take room

/-! What is said. -/

structure Toast where
  severity : Text
  title : Text
  body : Text
deriving DecidableEq

/-- A notification that landed, with the faults it was about. -/
inductive Notice where
  | opening (title : Text) (toast : Toast)
  | reminder (faults : List SpokenFault) (toast : Toast)
  | recovery (faults : List SpokenFault) (toast : Toast)
deriving DecidableEq

/-- The payload of `alert.raised`. -/
structure AlertRaised where
  severity : Option Text
  title : Option Text
  agent : Option Text

def openingToast (event : AlertRaised) (title severity : Text) : Toast where
  severity
  title
  body := event.agent.getD (text "sysadmin") ++ text " · " ++ severity

def maxListedTitles : Nat := 5

def maxAdoptedTitles : Nat := maxListedTitles

def listedTitles (faults : List SpokenFault) : Text :=
  let lines := (faults.take maxListedTitles).map fun fault => text "• " ++ fault.title
  let rest := if maxListedTitles < faults.length then
    [text "…and " ++ intText (faults.length - maxListedTitles : Nat) ++ text " more"] else []
  Text.joinLines (lines ++ rest)

/-- How long the episode has lasted, for a sentence. -/
def SpokenFault.age (fault : SpokenFault) (now : ℚ) : Text :=
  humaniseHours (roundToDouble (max 0 (roundToDouble (now - fault.episodeStartedAt)) / 3600))

/-- `_restate`: one reminder, or from two on one roll-up. -/
def reminderToast (now : ℚ) : List SpokenFault → Toast
  | [fault] => ⟨fault.severity, fault.title,
      text "Still open " ++ fault.age now ++ text " after the first alert"⟩
  | due => ⟨loudest (due.map SpokenFault.severity),
      intText due.length ++ text " faults still open", listedTitles due⟩

def recoveryRung : Text := text "warning"

/-- `_announce_recoveries`: one ending, or from two on one roll-up. -/
def recoveryToast (now : ℚ) : List SpokenFault → Toast
  | [fault] => ⟨recoveryRung, text "Recovered: " ++ fault.title,
      text "Cleared within " ++ fault.age now ++ text " of the first alert"⟩
  | recovered => ⟨recoveryRung, intText recovered.length ++ text " faults recovered",
      listedTitles recovered⟩

end SysadminAssistant.Monitor.Desktop
