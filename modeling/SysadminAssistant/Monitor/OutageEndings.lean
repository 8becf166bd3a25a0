import Mathlib.Data.List.Dedup
import SysadminAssistant.Monitor.SpokenFaults

namespace SysadminAssistant.Monitor.Desktop

open Python SysadminAssistant.Core Library

/-! Which endings have been told, which the sweep in flight has still to tell, and when the
rows of the alerts table bear them out. -/

/-- The title was announced, or adopted and restated. -/
def Daemon.speaksFor (daemon : Daemon) (title : Text) : Bool :=
  (daemon.spoken.get? title).any SpokenFault.said

def Notice.endings (title : Text) : Notice → Nat
  | .recovery faults _ => faults.countP fun fault => fault.title = title
  | _ => 0

/-- The endings of `title` that landed. -/
def Daemon.endings (daemon : Daemon) (title : Text) : Nat :=
  (daemon.notices.map (Notice.endings title)).sum

/-- The endings of `title` that the sweep in flight has in hand: it has read the table
without an open row of it, and has not come to its notification. -/
def Daemon.owed (daemon : Daemon) (title : Text) : Nat :=
  (daemon.sweep.clearing.countP fun fault => fault.title = title && fault.said) +
    daemon.sweep.answer?.elim 0 fun answer =>
      if (answer.get? title).isNone && daemon.speaksFor title then 1 else 0

/-- A row of `title` closed at or after `mark`. -/
def closedBy (alerts : List Alert) (title : Text) (mark : ℚ) : Bool :=
  title ∈ closedSince alerts [title] mark

/-- `title` has an open row, or one whose end is news at `mark`. -/
def standing (alerts : List Alert) (title : Text) (mark : ℚ) : Bool :=
  !(openOf alerts title).isEmpty || closedBy alerts title mark

theorem mem_closedSince {alerts : List Alert} {titles : List Text} {title : Text} {since : ℚ} :
    title ∈ closedSince alerts titles since ↔ ∃ moment, fromTimestamp since = .ok moment ∧
      title ∈ titles ∧ ∃ alert ∈ alerts, alert.title = title ∧
        ∃ closed, alert.resolvedAt = some closed ∧ moment ≤ closed := by
  unfold closedSince
  split
  · rename_i raised answered
    simp only [List.not_mem_nil, false_iff]
    intro found
    obtain ⟨moment, ok, _⟩ := found
    rw [ok] at answered
    contradiction
  · rename_i moment answered
    constructor
    · intro found
      obtain ⟨alert, inside, same⟩ := List.mem_map.mp found
      obtain ⟨member, taken⟩ := List.mem_filter.mp inside
      rw [Bool.and_eq_true, decide_eq_true_eq, Option.any_eq_true] at taken
      obtain ⟨asked, closed, resolved, late⟩ := taken
      exact ⟨moment, answered, same ▸ asked, alert, member, same, closed, resolved,
        of_decide_eq_true late⟩
    · intro found
      obtain ⟨current, ok, asked, alert, member, same, closed, resolved, late⟩ := found
      rw [ok, Except.ok.injEq] at answered
      subst answered
      refine List.mem_map.mpr ⟨alert, List.mem_filter.mpr ⟨member, ?_⟩, same⟩
      rw [Bool.and_eq_true, decide_eq_true_eq, Option.any_eq_true]
      exact ⟨same ▸ asked, closed, resolved, decide_eq_true late⟩

theorem closedBy_iff {alerts : List Alert} {title : Text} {mark : ℚ} :
    closedBy alerts title mark = true ↔ ∃ moment, fromTimestamp mark = .ok moment ∧
      ∃ alert ∈ alerts, alert.title = title ∧
        ∃ closed, alert.resolvedAt = some closed ∧ moment ≤ closed := by
  rw [closedBy, decide_eq_true_eq, mem_closedSince]
  simp only [List.mem_singleton, true_and]

theorem closedBy_apply (closing : Closing) {alerts : List Alert} {title : Text} {mark : ℚ}
    (closed : closedBy alerts title mark = true) :
    closedBy (closing.apply alerts) title mark = true := by
  rw [closedBy_iff] at closed ⊢
  obtain ⟨moment, ok, alert, member, same, at_, resolved, late⟩ := closed
  refine ⟨moment, ok, alert, List.mem_map.mpr ⟨alert, member, ?_⟩, same, at_, resolved, late⟩
  simp [resolved]

theorem mem_openOf_apply {closing : Closing} {alerts : List Alert} {title : Text} {alert : Alert}
    (member : alert ∈ openOf (closing.apply alerts) title) : alert ∈ openOf alerts title := by
  rw [mem_openOf] at member ⊢
  obtain ⟨inside, named, standing⟩ := member
  obtain ⟨original, listed, shape⟩ := List.mem_map.mp inside
  split at shape
  · rw [← shape] at standing
    contradiction
  · exact ⟨shape ▸ listed, named, standing⟩

theorem standing_of_closed {alerts : List Alert} {title : Text} {mark : ℚ}
    (closed : closedBy alerts title mark = true) : standing alerts title mark = true := by
  simp [standing, closed]

theorem standing_of_open {alerts : List Alert} {title : Text} (mark : ℚ)
    (opened : openOf alerts title ≠ []) : standing alerts title mark = true := by
  simp [standing, opened]

theorem closed_of_standing {alerts : List Alert} {title : Text} {mark : ℚ}
    (stands : standing alerts title mark = true) (closed : openOf alerts title = []) :
    closedBy alerts title mark = true := by
  simpa [standing, closed] using stands

def Sweeping.look? : Sweeping → Option Look
  | .idle | .storingReminders _ => none
  | .loading look | .loadAnswered look _ | .asking look _ | .answered look _ | .forgetting look _ _
  | .forgot look _ _ | .confirming look _ _ | .confirmed look _ _ _ | .telling look _ _ | .told look _
  | .adopting look _ _ | .adoptAnswered look _ | .storingAdopted look _ | .adoptedStored look
  | .restating look _ | .restated look _ => some look

/-- The watermarks in play. -/
def Daemon.watermarks (daemon : Daemon) : List ℚ :=
  daemon.lookedAt :: daemon.sweep.look?.elim [] fun look => [look.since, look.now]

/-- The watermark that the sweep which drops `title` next will hold its rows against: the
clock reading of the last sweep that has read the table with the title open. -/
def Daemon.mark (daemon : Daemon) (title : Text) : ℚ :=
  match daemon.sweep with
  | .loading look | .loadAnswered look _ | .asking look _ => look.since
  | .answered look stillOpen => if (stillOpen.get? title).isSome then look.now else look.since
  | .forgetting look _ _ | .forgot look _ _ | .confirming look _ _ | .confirmed look _ _ _
  | .telling look _ _ | .told look _ => look.now
  | _ => daemon.lookedAt

theorem mark_mem (daemon : Daemon) (title : Text) : daemon.mark title ∈ daemon.watermarks := by
  cases phase : daemon.sweep with
  | answered look answer =>
    simp only [Daemon.mark, Daemon.watermarks, phase, Sweeping.look?, Option.elim_some]
    split <;> simp
  | _ => simp [Daemon.mark, Daemon.watermarks, phase, Sweeping.look?]

theorem since_mem {daemon : Daemon} {look : Look} (current : daemon.sweep.look? = some look) :
    look.since ∈ daemon.watermarks := by
  simp [Daemon.watermarks, current]

/-- The desktop is the daemon's own: configured, no tray polling, not to be left in peace. -/
def Surroundings.quiet (around : Surroundings) (config : DesktopConfig) : Bool :=
  around.config = config && config.enabled && !around.trayWatches config && !around.dnd.active

def loudEnough (config : DesktopConfig) (severity : Text) : Bool :=
  config.threshold ≤ severityLevel severity 0

/-- The open rows of `title` are at or above the threshold. -/
def rungHolds (config : DesktopConfig) (alerts : List Alert) (title : Text) : Bool :=
  (openOf alerts title).all fun alert => loudEnough config alert.severity.name

theorem severityLevel_name (severity : Severity) (fallback : Nat) :
    severityLevel severity.name fallback = severity.order := by
  cases severity <;> rfl

theorem loudEnough_answer {config : DesktopConfig} {alerts : List Alert} {titles : List Text}
    {title rung : Text} (holds : rungHolds config alerts title = true)
    (found : (stillOpen alerts titles).get? title = some rung) : loudEnough config rung = true := by
  obtain ⟨alert, member, shape⟩ := stillOpen_rung found
  rw [shape]
  exact List.all_eq_true.mp holds alert member

theorem loudEnough_adoptable {config : DesktopConfig} {alerts : List Alert} {spokenFor : List Text}
    {room : Nat} {candidate : Candidate}
    (member : candidate ∈ adoptable alerts config.admitted spokenFor room) :
    loudEnough config (loudest candidate.rungs) = true := by
  have listed := (List.mem_insertionSort _).mp (List.mem_of_mem_take member)
  obtain ⟨title, titled, shape⟩ := List.mem_map.mp listed
  obtain ⟨row, standing, same⟩ := List.mem_map.mp (List.mem_dedup.mp titled)
  have every : ∀ name ∈ candidate.rungs, loudEnough config name = true := by
    intro name inside
    rw [← shape] at inside
    obtain ⟨alert, found, named⟩ := List.mem_map.mp (List.mem_dedup.mp inside)
    have admitted := (List.mem_filter.mp (List.mem_of_mem_filter found)).2
    simp only [Bool.and_eq_true, decide_eq_true_eq] at admitted
    have loud := (List.mem_filter.mp admitted.1.2).2
    rw [← named, loudEnough, severityLevel_name]
    exact loud
  have own : row.severity.name ∈ candidate.rungs := by
    rw [← shape]
    refine List.mem_dedup.mpr (List.mem_map.mpr ⟨row, ?_, rfl⟩)
    exact List.mem_filter.mpr ⟨standing, by simpa using same⟩
  cases rungs : candidate.rungs with
  | nil => simp [rungs] at own
  | cons first rest => exact every _ (rungs ▸ loudest_mem first rest)

/-- One turn of a history with a non-decreasing clock, a readable database and sends that
succeed, in which nobody else speaks, rows close in transactions and the rung of `title`
stays at or above the threshold. -/
def uneventful (config : DesktopConfig) (title : Text) (daemon : Daemon) : Turn → Bool
  | .surroundings next => next.quiet config && daemon.around.clock ≤ next.clock
  | .alerts next => rungHolds config next title &&
      ((openOf daemon.alerts title).isEmpty || !(openOf next title).isEmpty)
  | .sweep succeeds => match daemon.sweep with
      | .loadAnswered _ (some stored) => (stored.get? title).all fun row =>
        loudEnough config row.severity
      | .loading _ | .asking _ _ | .confirming _ _ _ | .telling _ _ _ | .adopting _ _ _
      | .restating _ _ =>
        succeeds
      | _ => true
  | _ => true

/-- One turn in which the stamps of the rows and the looks of the sweeps agree about `title`. -/
def timely (title : Text) (daemon : Daemon) (turn : Turn) : Bool :=
  lookedWhole title daemon turn && match turn with
  | .alerts next => daemon.watermarks.all fun mark =>
    !closedBy daemon.alerts title mark || closedBy next title mark
  | .commit index => (daemon.closings[index]?).all fun closing => !daemon.speaksFor title ||
      standing (closing.apply daemon.alerts) title (daemon.mark title)
  | .handler index _ => match daemon.handlers[index]? with
      | some (.landed recorded _) =>
        recorded ≠ title || standing daemon.alerts title (daemon.mark title)
      | _ => true
  | .sweep _ => match daemon.sweep with
      | .loadAnswered look (some stored) => (daemon.spoken.get? title).isSome ||
          (stored.get? title).all (fun row => row.adopted && row.remindersSent = 0) ||
          standing daemon.alerts title look.since
      | .adoptAnswered _ candidates => !daemon.speaksFor title ||
          candidates.all fun candidate => candidate.title ≠ title
      | .restated _ due => daemon.speaksFor title ||
          ((daemon.spoken.get? title).all fun fault => fault.serial ∉ due.map SpokenFault.serial) ||
          standing daemon.alerts title (daemon.mark title)
      | _ => true
  | _ => true

/-- The turn takes `title` up, as an outage of its own. -/
def takesUp (title : Text) (daemon : Daemon) (turn : Turn) : Bool :=
  !daemon.speaksFor title && (daemon.turn turn).any fun next => next.speaksFor title

end SysadminAssistant.Monitor.Desktop
