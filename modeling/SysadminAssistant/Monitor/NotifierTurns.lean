import SysadminAssistant.Monitor.DesktopNotifier

namespace SysadminAssistant.Monitor.Desktop

open Python SysadminAssistant.Core

/-! The coroutines of `DesktopNotifier` between their awaits: any number of `_handle`s and at
most one `_sweep`, with the alerts table, the store and the clocks moving in between.  What
stands between two awaits is one turn; so is what the database or `notify-send` does for one. -/

/-- What a coroutine reads around it. -/
structure Surroundings where
  clock : ℚ
  monotonic : ℚ
  config : DesktopConfig
  tray : TrayPresence
  dnd : Dnd
deriving DecidableEq

def Surroundings.trayWatches (around : Surroundings) (config : DesktopConfig) : Bool :=
  around.tray.isWatching around.monotonic config.trayGraceSeconds

/-- A transaction that has stamped the rows it closes and has not committed. -/
structure Closing where
  ids : List Nat
  resolvedAt : Int

/-- `_handle`, by the await it stands at. -/
inductive Handling where
  | checking (title severity : Text) (toast : Toast)
  | sending (title severity : Text) (toast : Toast)
  | landed (title severity : Text)
  | storing (fault : SpokenFault) (row : Text × StoredFault)
  | done
deriving DecidableEq

/-- The locals of one `_sweep`. -/
structure Look where
  now : ℚ
  since : ℚ
  config : DesktopConfig
  loaded : Bool

/-- `_sweep`, by the await it stands at: before the database or `notify-send` has acted, and
after. -/
inductive Sweeping where
  | idle
  | loading (look : Look)
  | loadAnswered (look : Look) (stored : Option Store)
  | asking (look : Look) (titles : List Text)
  | answered (look : Look) (stillOpen : Dict Text Text)
  | forgetting (look : Look) (stillOpen : Dict Text Text) (cleared : List SpokenFault)
  | forgot (look : Look) (stillOpen : Dict Text Text) (cleared : List SpokenFault)
  | confirming (look : Look) (stillOpen : Dict Text Text) (candidates : List SpokenFault)
  | confirmed (look : Look) (stillOpen : Dict Text Text) (candidates : List SpokenFault)
      (fresh : List Text)
  | telling (look : Look) (stillOpen : Dict Text Text) (recovered : List SpokenFault)
  | told (look : Look) (stillOpen : Dict Text Text)
  | adopting (look : Look) (spokenFor : List Text) (room : Nat)
  | adoptAnswered (look : Look) (candidates : List Candidate)
  | storingAdopted (look : Look) (rows : List (Text × StoredFault))
  | adoptedStored (look : Look)
  | restating (look : Look) (due : List SpokenFault)
  | restated (look : Look) (due : List SpokenFault)
  | storingReminders (rows : List (Text × StoredFault))

structure Daemon where
  around : Surroundings
  alerts : List Alert
  closings : List Closing
  store : Store
  spoken : Dict Text SpokenFault
  loaded : Bool
  lookedAt : ℚ
  made : Nat
  sweep : Sweeping
  handlers : List Handling
  notices : List Notice

/-- A new process, over the tables that the last one left. -/
def Daemon.start (around : Surroundings) (alerts : List Alert) (store : Store) : Daemon where
  around
  alerts
  closings := []
  store
  spoken := .empty
  loaded := false
  lookedAt := around.clock
  made := 0
  sweep := .idle
  handlers := []
  notices := []

/-! `_handle`. -/

/-- The gates before the first await. -/
def onAlertRaised (around : Surroundings) (event : AlertRaised) : Handling :=
  let severity := event.severity.getD (text "info")
  let title := (event.title.filter (· ≠ [])).getD (text "SysAdmin alert")
  if !around.config.enabled || severityLevel severity 0 < around.config.threshold ||
      around.dnd.shouldSuppress severity || around.trayWatches around.config then .done
  else .checking title severity (openingToast event title severity)

/-- The fault an opening notification records. -/
def Daemon.openingFault (daemon : Daemon) (title severity : Text) : SpokenFault where
  serial := daemon.made
  title
  severity
  episodeStartedAt := daemon.around.clock
  lastSpokenAt := daemon.around.clock
  remindersSent := 0
  adopted := false

def Daemon.becomes (daemon : Daemon) (index : Nat) (handling : Handling) : Daemon :=
  { daemon with handlers := daemon.handlers.set index handling }

def Daemon.handle (daemon : Daemon) (index : Nat) (succeeds : Bool) : Handling → Option Daemon
  | .checking title severity toast => some <| daemon.becomes index <|
      if succeeds && isNewIncident daemon.alerts title then .sending title severity toast else .done
  | .sending title severity toast => some <|
      if succeeds then
        { daemon.becomes index (.landed title severity) with
          notices := daemon.notices ++ [.opening title toast] }
      else daemon.becomes index .done
  | .landed title severity =>
    let fault := daemon.openingFault title severity
    some { daemon.becomes index (match fault.row with
        | .ok row => .storing fault row
        | .error _ => .done) with
      spoken := daemon.spoken.set title fault
      made := daemon.made + 1 }
  | .storing _ row => some
      { daemon.becomes index .done with
        store := if succeeds then remember daemon.store [row] else daemon.store }
  | .done => none

/-! `_sweep`. -/

/-- The reminders that are due, which is where a sweep ends unless there are some. -/
def Daemon.takeDue (daemon : Daemon) (look : Look) : Daemon :=
  let ordered := (daemon.spoken.entries.insertionSort fun left right => left.1 ≤ right.1).map Prod.snd
  let due := ordered.filter fun fault =>
    reaches (elapsed look.now fault.lastSpokenAt) look.config.interval &&
      look.config.threshold ≤ severityLevel fault.severity 0 &&
      !daemon.around.dnd.shouldSuppress fault.severity
  { daemon with sweep := if due.isEmpty then .idle else .restating look due }

/-- From the watermark to the adoption scan or the reminders. -/
def Daemon.afterLook (daemon : Daemon) (look : Look) : Daemon :=
  let looked := { daemon with lookedAt := look.now }
  let adoptedAlready := looked.spoken.values.countP SpokenFault.adopted
  if look.config.interval.isNonPositive then { looked with sweep := .idle }
  else if look.loaded && adoptedAlready < maxAdoptedTitles && look.config.admitted ≠ [] then
    { looked with sweep := .adopting look looked.spoken.keys (maxAdoptedTitles - adoptedAlready) }
  else looked.takeDue look

/-- The row's rung, not the one this process announced. -/
def takeRung (stillOpen : Dict Text Text) (title : Text) (fault : SpokenFault) : SpokenFault :=
  { fault with severity := (stillOpen.get? title).getD fault.severity }

def Daemon.settle (daemon : Daemon) (look : Look) (stillOpen : Dict Text Text) : Daemon :=
  { daemon with spoken := daemon.spoken.mapValues (takeRung stillOpen) }.afterLook look

/-- From the load to the question which titles are still open. -/
def Daemon.afterLoad (daemon : Daemon) (look : Look) : Daemon :=
  if daemon.around.trayWatches look.config then
    { daemon with
      spoken := daemon.spoken.mapValues fun _ fault => { fault with lastSpokenAt := look.now }
      lookedAt := look.now
      sweep := .idle }
  else if daemon.spoken.keys = [] then daemon.afterLook look
  else { daemon with sweep := .asking look daemon.spoken.keys }

def Daemon.beginSweep (daemon : Daemon) : Daemon :=
  let look : Look := ⟨daemon.around.clock, daemon.lookedAt, daemon.around.config, true⟩
  if !look.config.enabled then { daemon with lookedAt := look.now }
  else if daemon.loaded then daemon.afterLoad look
  else { daemon with sweep := .loading look }

/-- `_load_spoken`, one row: a title spoken of since wins over it. -/
def Daemon.restore (daemon : Daemon) (entry : Text × StoredFault) : Daemon :=
  if (daemon.spoken.get? entry.1).isSome then daemon
  else { daemon with
    spoken := daemon.spoken.set entry.1 (entry.2.restored daemon.made entry.1)
    made := daemon.made + 1 }

/-- `set(self._spoken) - set(still_open)`. -/
def unnamed (spoken : Dict Text SpokenFault) (stillOpen : Dict Text Text) :
    List (Text × SpokenFault) :=
  spoken.entries.filter fun entry => (stillOpen.get? entry.1).isNone

def keepNamed (spoken : Dict Text SpokenFault) (stillOpen : Dict Text Text) : Dict Text SpokenFault :=
  ((unnamed spoken stillOpen).map Prod.fst).foldl Dict.erase spoken

/-- What `_still_open` did not name is dropped, and then forgotten. -/
def Daemon.dropCleared (daemon : Daemon) (look : Look) (stillOpen : Dict Text Text) : Daemon :=
  let cleared := (unnamed daemon.spoken stillOpen).map Prod.snd
  let kept := { daemon with spoken := keepNamed daemon.spoken stillOpen }
  if cleared.isEmpty then kept.settle look stillOpen
  else { kept with sweep := .forgetting look stillOpen cleared }

/-- Which of the cleared faults an ending may be said of. -/
def endingCandidates (look : Look) (dnd : Dnd) (cleared : List SpokenFault) : List SpokenFault :=
  (cleared.insertionSort fun left right => left.title ≤ right.title).filter fun fault =>
    fault.said && look.config.threshold ≤ severityLevel fault.severity 0 &&
      !dnd.shouldSuppress fault.severity

def Daemon.weighEndings (daemon : Daemon) (look : Look) (stillOpen : Dict Text Text)
    (cleared : List SpokenFault) : Daemon :=
  let candidates := endingCandidates look daemon.around.dnd cleared
  if candidates.isEmpty then daemon.settle look stillOpen
  else { daemon with sweep := .confirming look stillOpen candidates }

def Daemon.tellEndings (daemon : Daemon) (look : Look) (stillOpen : Dict Text Text)
    (candidates : List SpokenFault) (fresh : List Text) : Daemon :=
  let recovered := candidates.filter fun fault => fault.title ∈ fresh
  if recovered.isEmpty then daemon.settle look stillOpen
  else { daemon with sweep := .telling look stillOpen recovered }

/-- The fault `_adopt` makes of a candidate, its clock set back by the silence. -/
def adoptedFault (around : Surroundings) (look : Look) (serial : Nat) (candidate : Candidate) :
    SpokenFault where
  serial
  title := candidate.title
  severity := loudest candidate.rungs
  episodeStartedAt := timestamp candidate.opened
  lastSpokenAt :=
    let absent := around.tray.absentFor around.monotonic
    roundToDouble (look.now - match look.config.interval with
      | .finite interval => if interval < absent then interval else absent
      | _ => absent)
  remindersSent := 0
  adopted := true

def Daemon.adoptOne (look : Look) (daemon : Daemon) (candidate : Candidate) : Daemon :=
  { daemon with
    spoken := daemon.spoken.set candidate.title (adoptedFault daemon.around look daemon.made candidate)
    made := daemon.made + 1 }

def Daemon.adopt (daemon : Daemon) (look : Look) (candidates : List Candidate) : Daemon :=
  let carried := candidates.foldl (Daemon.adoptOne look) daemon
  let fresh := candidates.filterMap fun candidate => carried.spoken.get? candidate.title
  if candidates.isEmpty then daemon.takeDue look
  else { carried with sweep := match fresh.mapM SpokenFault.row with
    | .ok rows => .storingAdopted look rows
    | .error _ => .idle }

/-- `mark_spoken`, on the objects that are still carried. -/
def Daemon.markDue (daemon : Daemon) (look : Look) (due : List SpokenFault) : Daemon :=
  { daemon with
    spoken := daemon.spoken.mapValues fun _ fault =>
      if fault.serial ∈ due.map SpokenFault.serial then fault.markSpoken look.now else fault
    sweep := match (due.map fun fault => fault.markSpoken look.now).mapM SpokenFault.row with
      | .ok rows => .storingReminders rows
      | .error _ => .idle }

/-- One turn of the sweep; `succeeds` is how the awaited input or output went. -/
def Daemon.sweepOn (daemon : Daemon) (succeeds : Bool) : Option Daemon :=
  match daemon.sweep with
  | .idle => none
  | .loading look => some
      { daemon with sweep := .loadAnswered look (if succeeds then some daemon.store else none) }
  | .loadAnswered look none => some (daemon.afterLoad { look with loaded := false })
  | .loadAnswered look (some stored) =>
    let restored := stored.entries.foldl Daemon.restore daemon
    some ({ restored with loaded := true }.afterLoad look)
  | .asking look titles => some
      { daemon with sweep := if succeeds then .answered look (stillOpen daemon.alerts titles) else .idle }
  | .answered look stillOpen => some (daemon.dropCleared look stillOpen)
  | .forgetting look stillOpen cleared => some
      { daemon with
        store := if succeeds then forget daemon.store (cleared.map SpokenFault.title) else daemon.store
        sweep := .forgot look stillOpen cleared }
  | .forgot look stillOpen cleared => some (daemon.weighEndings look stillOpen cleared)
  | .confirming look stillOpen candidates =>
    let titles := candidates.map SpokenFault.title
    let fresh := if succeeds then closedSince daemon.alerts titles look.since else []
    some { daemon with sweep := .confirmed look stillOpen candidates fresh }
  | .confirmed look stillOpen candidates fresh =>
    some (daemon.tellEndings look stillOpen candidates fresh)
  | .telling look stillOpen recovered => some
      { daemon with
        notices := if succeeds then
          daemon.notices ++ [.recovery recovered (recoveryToast look.now recovered)]
            else daemon.notices
        sweep := .told look stillOpen }
  | .told look stillOpen => some (daemon.settle look stillOpen)
  | .adopting look spokenFor room =>
    let candidates :=
      if succeeds then adoptable daemon.alerts look.config.admitted spokenFor room else []
    some { daemon with sweep := .adoptAnswered look candidates }
  | .adoptAnswered look candidates => some (daemon.adopt look candidates)
  | .storingAdopted look rows => some
      { daemon with
        store := if succeeds then remember daemon.store rows else daemon.store
        sweep := .adoptedStored look }
  | .adoptedStored look => some (daemon.takeDue look)
  | .restating look due => some (if succeeds then
      { daemon with
        notices := daemon.notices ++ [.reminder due (reminderToast look.now due)]
        sweep := .restated look due }
      else { daemon with sweep := .idle })
  | .restated look due => some (daemon.markDue look due)
  | .storingReminders rows => some
      { daemon with
        store := if succeeds then remember daemon.store rows else daemon.store
        sweep := .idle }

/-! What the turns of a sweep come to. -/

/-- Where a sweep stands once it has moved the watermark. -/
def Rests (spoken : Dict Text SpokenFault) (look : Look) : Sweeping → Prop
  | .idle => True
  | .adopting current _ _ => current = look
  | .restating current due => current = look ∧ ∀ fault ∈ due, ∃ title,
      spoken.get? title = some fault ∧ look.config.threshold ≤ severityLevel fault.severity 0
  | _ => False

theorem takeDue_spec (daemon : Daemon) (look : Look) :
    ∃ phase, daemon.takeDue look = { daemon with sweep := phase } ∧
      Rests daemon.spoken look phase := by
  refine ⟨_, rfl, ?_⟩
  split
  · trivial
  · refine ⟨rfl, fun fault member => ?_⟩
    obtain ⟨inside, due⟩ := List.mem_filter.mp member
    simp only [Bool.and_eq_true, decide_eq_true_eq] at due
    obtain ⟨entry, listed, same⟩ := List.mem_map.mp inside
    rw [List.mem_insertionSort] at listed
    exact ⟨entry.1, Dict.get?_eq_some.mpr (same ▸ listed), due.1.2⟩

theorem afterLook_spec (daemon : Daemon) (look : Look) :
    ∃ phase, daemon.afterLook look = { daemon with lookedAt := look.now, sweep := phase } ∧
      Rests daemon.spoken look phase := by
  simp only [Daemon.afterLook]
  split
  · exact ⟨_, rfl, trivial⟩
  · split
    · exact ⟨_, rfl, rfl⟩
    · exact takeDue_spec { daemon with lookedAt := look.now } look

theorem settle_spec (daemon : Daemon) (look : Look) (stillOpen : Dict Text Text) :
    ∃ phase, daemon.settle look stillOpen = { daemon with
        spoken := daemon.spoken.mapValues (takeRung stillOpen)
        lookedAt := look.now
        sweep := phase } ∧ Rests (daemon.spoken.mapValues (takeRung stillOpen)) look phase :=
  afterLook_spec { daemon with spoken := daemon.spoken.mapValues (takeRung stillOpen) } look

theorem get?_keepNamed (spoken : Dict Text SpokenFault) (stillOpen : Dict Text Text)
    (title : Text) : (keepNamed spoken stillOpen).get? title =
      if (stillOpen.get? title).isSome then spoken.get? title else none := by
  rw [keepNamed, Dict.get?_foldl_erase]
  cases named : stillOpen.get? title with
  | some rung =>
    have kept : title ∉ (unnamed spoken stillOpen).map Prod.fst := by
      intro member
      obtain ⟨entry, inside, same⟩ := List.mem_map.mp member
      have absent := (List.mem_filter.mp inside).2
      rw [same, named] at absent
      contradiction
    simp [kept]
  | none =>
    cases carried : spoken.get? title with
    | none => simp
    | some fault =>
      have dropped : title ∈ (unnamed spoken stillOpen).map Prod.fst := by
        refine List.mem_map.mpr ⟨(title, fault), List.mem_filter.mpr ⟨?_, ?_⟩, rfl⟩
        · exact Dict.get?_eq_some.mp carried
        · simp [named]
      simp [dropped]

theorem mem_unnamed {spoken : Dict Text SpokenFault} {stillOpen : Dict Text Text} {title : Text}
    {fault : SpokenFault} : (title, fault) ∈ unnamed spoken stillOpen ↔
      spoken.get? title = some fault ∧ stillOpen.get? title = none := by
  rw [unnamed, List.mem_filter, Dict.get?_eq_some, Option.isNone_iff_eq_none]

theorem get?_restored {daemon : Daemon} {title : Text} {fault : SpokenFault}
    (carried : daemon.spoken.get? title = some fault) (entries : List (Text × StoredFault)) :
    (entries.foldl Daemon.restore daemon).spoken.get? title = some fault := by
  induction entries generalizing daemon with
  | nil => exact carried
  | cons entry rest ih =>
    apply ih
    simp only [Daemon.restore]
    split
    · exact carried
    · rename_i fresh
      have other : entry.1 ≠ title := by
        intro same
        exact fresh (by rw [same, carried]; rfl)
      rw [Dict.get?_set_other _ _ other, carried]

theorem restored_shape (daemon : Daemon) (entries : List (Text × StoredFault)) :
    ∃ spoken made, daemon.made ≤ made ∧
      entries.foldl Daemon.restore daemon = { daemon with spoken, made } := by
  induction entries generalizing daemon with
  | nil => exact ⟨daemon.spoken, daemon.made, le_refl _, rfl⟩
  | cons entry rest ih =>
    obtain ⟨spoken, made, grown, shape⟩ := ih (daemon.restore entry)
    refine ⟨spoken, made, ?_, ?_⟩
    · apply le_trans _ grown
      simp only [Daemon.restore]
      split
      · exact le_refl _
      · exact Nat.le_succ _
    · rw [List.foldl_cons, shape]
      simp only [Daemon.restore]
      split <;> rfl

theorem adopted_shape (look : Look) (daemon : Daemon) (candidates : List Candidate) :
    ∃ spoken made, daemon.made ≤ made ∧
      candidates.foldl (Daemon.adoptOne look) daemon = { daemon with spoken, made } := by
  induction candidates generalizing daemon with
  | nil => exact ⟨daemon.spoken, daemon.made, le_refl _, rfl⟩
  | cons candidate rest ih =>
    obtain ⟨spoken, made, grown, shape⟩ := ih (daemon.adoptOne look candidate)
    exact ⟨spoken, made, le_trans (Nat.le_succ _) grown, by rw [List.foldl_cons, shape]; rfl⟩

/-! Everything that moves. -/

inductive Turn where
  | surroundings (next : Surroundings)
  | alerts (next : List Alert)
  | stamp (ids : List Nat)
  | commit (index : Nat)
  | rollBack (index : Nat)
  | alertRaised (event : AlertRaised)
  | handler (index : Nat) (succeeds : Bool)
  | sweepBegins
  | sweep (succeeds : Bool)

/-- `datetime.now(UTC)`. -/
def utcNow (clock : ℚ) : Int := (clock * 1000000).floor

/-- `resolved=True, resolved_at=…`, on the rows that are open still. -/
def Closing.apply (closing : Closing) (alerts : List Alert) : List Alert :=
  alerts.map fun alert => if alert.id ∈ closing.ids && alert.resolvedAt.isNone then
    { alert with resolvedAt := some closing.resolvedAt } else alert

def Daemon.turn (daemon : Daemon) : Turn → Option Daemon
  | .surroundings next => some { daemon with around := next }
  | .alerts next => some { daemon with alerts := next }
  | .stamp ids => some
      { daemon with closings := daemon.closings ++ [⟨ids, utcNow daemon.around.clock⟩] }
  | .commit index => (daemon.closings[index]?).map fun closing =>
    { daemon with
      alerts := closing.apply daemon.alerts
      closings := daemon.closings.eraseIdx index }
  | .rollBack index => some { daemon with closings := daemon.closings.eraseIdx index }
  | .alertRaised event => some
      { daemon with handlers := daemon.handlers ++ [onAlertRaised daemon.around event] }
  | .handler index succeeds => (daemon.handlers[index]?).bind (daemon.handle index succeeds)
  | .sweepBegins => match daemon.sweep with
      | .idle => some daemon.beginSweep
      | _ => none
  | .sweep succeeds => daemon.sweepOn succeeds

end SysadminAssistant.Monitor.Desktop
