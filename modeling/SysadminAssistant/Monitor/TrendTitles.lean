import SysadminAssistant.Monitor.LogAggregator
import SysadminAssistant.Monitor.LogTrends
import SysadminAssistant.Monitor.QuietResolution

namespace SysadminAssistant.Monitor

open Python SysadminAssistant.Core Library

/-! A fault has two titles: the one its row was opened under, and the one the trend report
computes from the stored lines. -/

section

variable (poll : AlertPoll)

/-- The declaration of a line, if it has one. -/
def declarationOf (entry : Entry) : Option CriticalSignature :=
  criticalSignature? entry.source (signature poll.database entry.message)

/-- The gate of the ingest loop. -/
def IsFault (entry : Entry) : Prop :=
  ¬ (declarationOf poll entry = none ∧ entry.severity ∉ faultSeverities)

/-- The title an entry is counted under. -/
def faultTitle (entry : Entry) : Text :=
  match declarationOf poll entry with
  | some declaration => declaration.title
  | none => alertTitle poll.database poll.titles entry.severity entry.source entry.message

/-- Some trend of the stored line's signature carries this title. -/
def TrendNames (report : LogTrendReport) (entry : Entry) (title : Text) : Prop :=
  ∃ trend ∈ report.signatures, trend.source = entry.source ∧ trend.severity = entry.severity ∧
    trend.signature = signature poll.database (storedRow entry).message ∧ trend.alertTitle = title

def titleBefore (severity : LogSeverity) (source : Text) : Text :=
  text "Log " ++ severity.name ++ text ": " ++ source ++ text " — "

/-- What a title shows of a signature: all of it, or a cut and the digest of the whole. -/
def printedSignature (tools : TitleTools) (severity : LogSeverity) (source body : Text) : Text :=
  let budget : Int :=
    titleMax - (titleBefore severity source).length - tools.truncationMarker.length - 1
  if body.length ≤ budget then body
  else
    let suffix := text " [" ++ tools.signatureDigest body ++ text "]"
    tools.truncateAtWord body (max (budget - suffix.length) 1).toNat ++ suffix

/-- The line is undeclared, and its first 5000 characters print like the whole. -/
def NamedAlike (entry : Entry) : Prop :=
  declarationOf poll entry = none ∧
    printedSignature poll.titles entry.severity entry.source
        (signature poll.database (storedRow entry).message) =
      printedSignature poll.titles entry.severity entry.source (signature poll.database entry.message)

end

section

variable {poll : AlertPoll} {entry : Entry}

theorem alertTitle_eq (database : CharDatabase) (tools : TitleTools) (severity : LogSeverity)
    (source message : Text) : alertTitle database tools severity source message =
      titleBefore severity source ++ printedSignature tools severity source
        (signature database message) := by
  have before : text "Log " ++ severity.name ++ text ": " ++ source ++ text " — " =
      titleBefore severity source := rfl
  unfold alertTitle printedSignature
  rw [before]
  simp only
  split
  · rfl
  · rw [List.append_assoc]

theorem declared_title_head {source sig : Text} {declaration : CriticalSignature}
    (declared : criticalSignature? source sig = some declaration) :
    declaration.title.head? = some (codePoint 'G') := by
  unfold criticalSignature? at declared
  split at declared
  · split at declared
    · cases declared
      rfl
    · split at declared
      · cases declared
        rfl
      · cases declared
  · cases declared

theorem alertTitle_head (database : CharDatabase) (tools : TitleTools) (severity : LogSeverity)
    (source message : Text) :
    (alertTitle database tools severity source message).head? = some (codePoint 'L') := by
  rw [alertTitle_eq]
  rfl

theorem alertTitle_ne_declared {source sig : Text} {declaration : CriticalSignature}
    (declared : criticalSignature? source sig = some declaration) (severity : LogSeverity)
    (other message : Text) :
    alertTitle poll.database poll.titles severity other message ≠ declaration.title := by
  intro equal
  have heads := alertTitle_head poll.database poll.titles severity other message
  rw [equal, declared_title_head declared] at heads
  revert heads
  decide

theorem namedAlike_of_short (short : entry.message.length ≤ storedMessageChars)
    (undeclared : declarationOf poll entry = none) : NamedAlike poll entry :=
  ⟨undeclared, by rw [storedRow_message, List.take_of_length_le short]⟩

theorem observe_eq (faults : Dict Text Fault) (fault : IsFault poll entry) :
    ∃ value, observe poll.database poll.titles poll.knownNoise faults entry =
      faults.set (faultTitle poll entry) value := by
  have gate := fault
  simp only [IsFault, declarationOf] at gate
  simp only [observe, if_neg gate, faultTitle, declarationOf]
  split <;> exact ⟨_, rfl⟩

theorem observe_present {faults : Dict Text Fault} {title : Text}
    (present : (faults.get? title).isSome) (entry : Entry) :
    ((observe poll.database poll.titles poll.knownNoise faults entry).get? title).isSome := by
  by_cases fault : IsFault poll entry
  · obtain ⟨value, stored⟩ := observe_eq faults fault
    rw [stored, Dict.get?_set]
    split
    · rfl
    · exact present
  · simp only [IsFault, declarationOf, not_not] at fault
    simp only [observe, if_pos fault]
    exact present

theorem observedFaults_title {entries : List Entry} (member : entry ∈ entries)
    (fault : IsFault poll entry) :
    ((observedFaults poll entries).get? (faultTitle poll entry)).isSome := by
  have kept : ∀ (rest : List Entry) (faults : Dict Text Fault),
      (faults.get? (faultTitle poll entry)).isSome →
      ((rest.foldl (observe poll.database poll.titles poll.knownNoise) faults).get?
        (faultTitle poll entry)).isSome := by
    intro rest
    induction rest with
    | nil => exact fun _ present => present
    | cons next rest ih => exact fun faults present => ih _ (observe_present present next)
  obtain ⟨before, after, shape⟩ := List.append_of_mem member
  rw [observedFaults, ingest, shape, List.foldl_append, List.foldl_cons]
  refine kept after _ ?_
  obtain ⟨value, filed⟩ :=
    observe_eq (before.foldl (observe poll.database poll.titles poll.knownNoise) Dict.empty) fault
  rw [filed, Dict.get?_set_self]
  rfl

theorem raised_row {table : AlertTable} {entries : List Entry} {outcome : AlertOutcome}
    (polled : alertPhase poll table entries = some outcome) {title : Text}
    (observed : ((observedFaults poll entries).get? title).isSome)
    (unfolded : ¬ Swallowed (some poll.relations) alertIncidentWindowSeconds
    (observedFaults poll entries) title) :
    ∃ row, outcome.raised.openRow? (logAggregatorName, title) = some row ∧ row.title = title := by
  obtain ⟨_, raised, _⟩ := alertPhase_eq_some polled
  have present : (outcome.faults.get? title).isSome := by
    cases absent : outcome.faults.get? title with
    | none => exact absurd ((alertPhase_absent_iff polled observed).mp absent) unfolded
    | some fault => rfl
  obtain ⟨row, found⟩ := Option.isSome_iff_exists.mp ((raiseFaults_rows raised).1 title present)
  exact ⟨row, found, congrArg Prod.snd (Table.openRow?_eq_some.mp found).2⟩

theorem trendNames_iff {window : TrendWindow} {groups : List MessageGroup}
    (stored : ∃ group ∈ groups, group.source = entry.source ∧ group.severity = entry.severity ∧
      group.message = (storedRow entry).message) (title : Text) :
    TrendNames poll (buildReport poll.database poll.titles window groups) entry title ↔
      alertTitle poll.database poll.titles entry.severity entry.source
        (storedRow entry).message = title := by
  have start : Keyed poll.database (Dict.empty : Dict TrendKey Accumulated) := fun _ _ found => by
    simp at found
  obtain ⟨keyed, present⟩ := accumulated groups start
  constructor
  · intro names
    obtain ⟨trend, listed, source, severity, sig, named⟩ := names
    obtain ⟨key, known, found, shape⟩ := mem_signatureTrends.mp listed
    subst shape
    have sample : signature poll.database known.sample = signature poll.database
        (storedRow entry).message :=
      (keyed key known found).trans sig
    rw [← named, trendOf, alertTitle_eq, alertTitle_eq, ← sample, ← source, ← severity]
    rfl
  · intro same
    obtain ⟨group, member, source, severity, message⟩ := stored
    have held := (present (group.key poll.database)).mpr (Or.inl ⟨group, member, rfl⟩)
    obtain ⟨known, found⟩ := Option.isSome_iff_exists.mp held
    have sample : signature poll.database known.sample = signature poll.database
        (storedRow entry).message := by
      rw [keyed _ known found, MessageGroup.key, message]
    refine ⟨trendOf poll.database poll.titles window.windowStart (group.key poll.database) known,
      mem_signatureTrends.mpr ⟨_, known, found, rfl⟩, source, severity, ?_, ?_⟩
    · simp only [trendOf, MessageGroup.key, message]
    · rw [← same, trendOf, alertTitle_eq, alertTitle_eq, sample]
      simp only [MessageGroup.key, source, severity]

/-- When the report and the table name a fault of this line alike. -/
theorem trend_names_row_iff (poll : AlertPoll) (table : AlertTable) (entries : List Entry)
    (outcome : AlertOutcome) (entry : Entry) (window : TrendWindow) (groups : List MessageGroup)
    (polled : alertPhase poll table entries = some outcome) (ingested : entry ∈ entries)
    (fault : IsFault poll entry)
    (unfolded : ¬ Swallowed (some poll.relations) alertIncidentWindowSeconds
    (observedFaults poll entries)
      (faultTitle poll entry))
    (stored : ∃ group ∈ groups, group.source = entry.source ∧ group.severity = entry.severity ∧
      group.message = (storedRow entry).message) :
    ∃ row, outcome.raised.openRow? (logAggregatorName, faultTitle poll entry) = some row ∧
      (TrendNames poll (buildReport poll.database poll.titles window groups) entry row.title ↔
        NamedAlike poll entry) := by
  obtain ⟨row, standing, titled⟩ := raised_row polled (observedFaults_title ingested fault) unfolded
  refine ⟨row, standing, ?_⟩
  rw [trendNames_iff stored, titled, NamedAlike]
  cases declared : declarationOf poll entry with
  | some declaration =>
    rw [faultTitle, declared]
    simp only [reduceCtorEq, false_and, iff_false]
    exact alertTitle_ne_declared declared _ _ _
  | none =>
    rw [faultTitle, declared]
    simp only [alertTitle_eq, List.append_cancel_left_eq, true_and]

end

def trendWindow : TrendWindow where
  windowDays := 7
  windowStart := 0
  previousStart := 0
  generatedAt := 3600000000
  coverage := none
  truncated := false

/-- The group of one line that was stored once. -/
def loneGroup (entry : Entry) : MessageGroup where
  source := entry.source
  severity := entry.severity
  message := (storedRow entry).message
  current := 1
  previous := 0
  total := 1
  firstSeen := entry.loggedAt
  lastSeen := entry.loggedAt

def usbLine : Entry :=
  kernelLine .error "usb 1-11: device not accepting address 12, error -71" 3595000000

def recoveryFailedLine : Entry :=
  kernelLine .error "amdgpu 0000:03:00.0: GPU Recovery Failed: -110" 3595000000

/-- An undeclared line has one name. -/
theorem usb_line_named : ∃ outcome, alertPhase resetPoll Table.empty [usbLine] = some outcome ∧
    ∃ row, outcome.raised.openRow? (logAggregatorName, faultTitle resetPoll usbLine) = some row ∧
      TrendNames resetPoll
        (buildReport resetPoll.database resetPoll.titles trendWindow [loneGroup usbLine])
        usbLine row.title := by
  have done : (alertPhase resetPoll Table.empty [usbLine]).isSome = true := by decide
  have kept : ∀ outcome ∈ alertPhase resetPoll Table.empty [usbLine],
      (outcome.faults.get? (faultTitle resetPoll usbLine)).isSome = true := by decide
  have undeclared : declarationOf resetPoll usbLine = none := by decide
  obtain ⟨outcome, polled⟩ := Option.isSome_iff_exists.mp done
  have fault : IsFault resetPoll usbLine := fun quiet => quiet.2 (by decide)
  have unfolded : ¬ Swallowed (some resetPoll.relations) alertIncidentWindowSeconds
      (observedFaults resetPoll [usbLine]) (faultTitle resetPoll usbLine) := by
    intro swallowed
    have absent :=
      (alertPhase_absent_iff polled (observedFaults_title List.mem_cons_self fault)).mpr swallowed
    have present := kept outcome polled
    rw [absent] at present
    cases present
  obtain ⟨row, standing, named⟩ := trend_names_row_iff resetPoll Table.empty [usbLine] outcome usbLine
    trendWindow [loneGroup usbLine] polled List.mem_cons_self fault unfolded
    ⟨loneGroup usbLine, List.mem_cons_self, rfl, rfl, rfl⟩
  exact ⟨outcome, polled, row, standing, named.mpr (namedAlike_of_short (by decide) undeclared)⟩

/-- A declared line has two. -/
theorem recovery_failed_line_misnamed :
    ∃ outcome, alertPhase resetPoll Table.empty [recoveryFailedLine] = some outcome ∧
      ∃ row, outcome.raised.openRow? (logAggregatorName, faultTitle resetPoll recoveryFailedLine) =
        some row ∧ ¬ TrendNames resetPoll
          (buildReport resetPoll.database resetPoll.titles trendWindow [loneGroup recoveryFailedLine])
          recoveryFailedLine row.title := by
  have done : (alertPhase resetPoll Table.empty [recoveryFailedLine]).isSome = true := by decide
  have raised : ∀ outcome ∈ alertPhase resetPoll Table.empty [recoveryFailedLine],
      (outcome.raised.openRow? (logAggregatorName,
        faultTitle resetPoll recoveryFailedLine)).isSome = true := by
    decide
  have declared : faultTitle resetPoll recoveryFailedLine = gpuRecoveryFailed.title := by decide
  have apart : alertTitle resetPoll.database resetPoll.titles recoveryFailedLine.severity
      recoveryFailedLine.source (storedRow recoveryFailedLine).message ≠ gpuRecoveryFailed.title := by
    decide
  obtain ⟨outcome, polled⟩ := Option.isSome_iff_exists.mp done
  obtain ⟨row, standing⟩ := Option.isSome_iff_exists.mp (raised outcome polled)
  refine ⟨outcome, polled, row, standing, fun names => ?_⟩
  have titled : row.title = faultTitle resetPoll recoveryFailedLine :=
    congrArg Prod.snd (Table.openRow?_eq_some.mp standing).2
  rw [titled, declared] at names
  exact apart ((trendNames_iff ⟨loneGroup recoveryFailedLine, List.mem_cons_self, rfl, rfl,
    rfl⟩ _).mp names)

end SysadminAssistant.Monitor
