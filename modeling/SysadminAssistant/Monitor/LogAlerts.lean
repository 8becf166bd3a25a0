import SysadminAssistant.Core.Alerts
import SysadminAssistant.Monitor.IncidentFold
import SysadminAssistant.Python.DecimalText

namespace SysadminAssistant.Monitor

open Python SysadminAssistant.Core Library

/-! What `LogAggregatorAgent._execute` does with the faults of a poll: one open row for
each, a repeat bumps it, and silence resolves it. -/

def logAggregatorName : Text := text "log_aggregator"

def foldedSampleChars : Nat := 300

/-- What a poll finds beside its lines.  Durations and instants are in microseconds; `stamp`
is the clock of the transaction.  `castMoment` is the database's cast of a text to a
timestamp, `none` its error, and `str` the text of a JSON value that is none. -/
structure AlertPoll where
  database : CharDatabase
  titles : TitleTools
  isoformat : Int → Text
  str : Json → Text
  castMoment : Json → Option Int
  knownNoise : Dict (Text × Text) Text
  relations : Relations
  criticalRepeat : Int
  alertQuiet : Int
  stamp : Int
  now : Int

section

variable (poll : AlertPoll)

def faultMessage (fault : Fault) : Text :=
  if fault.members.isEmpty then fault.message.take 500
  else poll.titles.truncateAtWord fault.message foldedSampleChars ++
    text "\n\nOne incident: " ++ intText fault.members.length ++ text " further signature(s) from " ++
    fault.source ++ text " folded into this row, named in details['members']."

def memberFields (member : Member) : List (Text × Json) :=
  [(text "source", .str member.source), (text "signature", .str member.signature),
    (text "alert_title", .str member.alertTitle), (text "occurrences", .int member.occurrences)]

def membersJson (members : List Member) : Json :=
  .arr (members.map fun member => .obj (memberFields member))

/-- `int(value or 0)`. -/
def intOrZero (value : Json) : Except PyError Int :=
  if value.truthy then intOfJson poll.database value else .ok 0

/-- `str(fields.get(key, ""))`. -/
def fieldText (key : Text) (fields : List (Text × Json)) : Text :=
  match Json.field? key fields with
  | none => []
  | some (.str value) => value
  | some value => poll.str value

/-- The dictionaries among `[*(existing or [])]`: the keys of an object and the characters of
a text are none. -/
def memberItems (existing : Json) : Except PyError (List (List (Text × Json))) :=
  if existing.truthy then
    match existing with
    | .arr items => .ok (items.filterMap fun
        | .obj fields => some fields
        | _ => none)
    | .obj _ | .str _ => .ok []
    | _ => .error .typeError
  else .ok []

def mergeMember (merged : Dict (Text × Text) (List (Text × Json))) (member : List (Text × Json)) :
    Except PyError (Dict (Text × Text) (List (Text × Json))) :=
  let key := (fieldText poll (text "source") member, fieldText poll (text "signature") member)
  match merged.get? key with
  | none => .ok (merged.set key member)
  | some known => do
    let before ← intOrZero poll (Json.field (text "occurrences") known)
    let more ← intOrZero poll (Json.field (text "occurrences") member)
    return merged.set key (Json.setField (text "occurrences") (.int (before + more)) known)

def mergeMembers (existing : Json) (incoming : List Member) : Except PyError Json := do
  let items ← memberItems existing
  let merged ← (items ++ incoming.map memberFields).foldlM (mergeMember poll) Dict.empty
  return .arr (merged.values.map .obj)

def setDefault (details : Details) (key : Text) (value : Json) : Details :=
  if (details.get? key).isSome then details else details.set key value

/-- Set to a text that is not empty, or popped. -/
def setOrPop (details : Details) (key : Text) (value : Option Text) : Details :=
  match value.filter (· ≠ []) with
  | some value => details.set key (.str value)
  | none => details.erase key

/-- The details of a row that a fault has bumped, its members aside. -/
def recurredDetails (details : Details) (occurrences : Int) (fault : Fault) : Details :=
  let lastSeen := Json.str (poll.isoformat poll.now)
  let details := details.set (text "last_seen_at") lastSeen
  let details := details.set (text "occurrences") (.int (occurrences + fault.count))
  let details := setDefault details (text "first_seen_at") lastSeen
  let details := setDefault details (text "source") (.str fault.source)
  let details := details.set (text "signature") (.str fault.signature)
  setOrPop (setOrPop details (text "noise_reason") fault.noiseReason)
    (text "covered_by") fault.coveredBy

def recordRecurrence (alert : Alert) (fault : Fault) : Except PyError Alert := do
  let occurrences ← intOrZero poll ((alert.details.get? (text "occurrences")).getD .null)
  let details := recurredDetails poll alert.details occurrences fault
  let details ← if fault.members.isEmpty then pure details else do
    let members ← mergeMembers poll ((details.get? (text "members")).getD .null) fault.members
    pure (details.set (text "members") members)
  return { alert with
    details
    message := faultMessage poll fault
    severity := if mayQuietenInPlace fault.severity alert.severity then fault.severity
      else alert.severity }

/-- `_recent_incidents`: rows, resolved ones included. -/
def recentIncidents (table : AlertTable) (title : Text) : Nat :=
  (table.rows.filter fun alert => alert.agent = logAggregatorName ∧ alert.title = title ∧
    poll.now - poll.criticalRepeat ≤ alert.createdAt).length

/-- The previous incidents of a declared fault that opens at the floor. -/
def priorIncidents (table : AlertTable) (fault : Fault) : Nat :=
  if fault.declared.isSome ∧ fault.severity = declaredFloorSeverity then
    recentIncidents poll table fault.title
  else 0

/-- A text that is left out when it is missing or empty. -/
def quietField (key : String) (value : Option Text) : List (Text × Json) :=
  ((value.filter (· ≠ [])).map fun value => (text key, Json.str value)).toList

/-- The details of a raised row, in order. -/
def faultFields (fault : Fault) (prior : Nat) : List (Text × Json) :=
  let moment := Json.str (poll.isoformat poll.now)
  [(text "source", .str fault.source), (text "signature", .str fault.signature),
      (text "first_seen_at", moment), (text "last_seen_at", moment),
      (text "occurrences", .int fault.count)] ++
    (fault.declared.elim [] fun declared =>
      [(text "escalated_reason", .str declared.reason), (text "prior_incidents", .int prior)]) ++
    (if fault.members.isEmpty then [] else [(text "members", membersJson fault.members)]) ++
    quietField "noise_reason" fault.noiseReason ++ quietField "covered_by" fault.coveredBy

def faultDetails (fault : Fault) (prior : Nat) : Details := .ofEntries (faultFields poll fault prior)

def faultDraft (fault : Fault) (prior : Nat) : Draft where
  severity := if prior = 0 then fault.severity else .critical
  title := fault.title
  message := faultMessage poll fault
  details := faultDetails poll fault prior

/-- One round of the loop over the faults; `standing` is what `_open_alerts` has read
before it. -/
def raiseOrBump (standing table : AlertTable) (fault : Text × Fault) : Option AlertTable :=
  match standing.openRow? (logAggregatorName, fault.1) with
  | some alert => do
    let bumped ← (recordRecurrence poll alert fault.2).toOption
    return table.amend (rewriting bumped)
  | none =>
    raiseAlert table logAggregatorName poll.stamp
      { faultDraft poll fault.2 (priorIncidents poll table fault.2) with title := fault.1 }

def raiseFaults (standing : AlertTable) (faults : Dict Text Fault) : Option AlertTable :=
  faults.entries.foldlM (raiseOrBump poll standing) standing

/-- When the fault of a row was last logged; a row that does not say is as old as itself. -/
def lastSeen (alert : Alert) : Option Int :=
  match alert.details.get? (text "last_seen_at") with
  | none | some .null => some alert.createdAt
  | some moment => poll.castMoment moment

/-- The fault of the row has not been logged for a while. -/
def wentQuiet (alert : Alert) : Bool :=
  (lastSeen poll alert).any fun moment => moment < poll.now - poll.alertQuiet

def mayResolve (seen : List Text) (alert : Alert) : Bool :=
  alert.agent = logAggregatorName && alert.resolvedAt.isNone && alert.title ∉ seen

def resolveQuiet (table : AlertTable) (seen : List Text) : Option AlertTable :=
  if (table.rows.filter (mayResolve seen)).all fun alert => (lastSeen poll alert).isSome then
    some (table.amend
      (resolving (fun alert => mayResolve seen alert && wentQuiet poll alert) poll.now))
  else none

/-- What a poll leaves, and the table as `_resolve_quiet` found it. -/
structure AlertOutcome where
  faults : Dict Text Fault
  raised : AlertTable
  after : AlertTable

def observedFaults (entries : List Entry) : Dict Text Fault :=
  ingest poll.database poll.titles poll.knownNoise entries

/-- `alert_title` returns, where the ingest loop calls it. -/
def titleReturns (entry : Entry) : Bool :=
  (criticalSignature? entry.source (signature poll.database entry.message)).isSome ||
    entry.severity ∉ faultSeverities ||
    titleEncodes poll.database poll.titles entry.severity entry.source entry.message

/-- The alert half of a poll; `none` is an exception, which rolls the poll back. -/
def alertPhase (table : AlertTable) (entries : List Entry) : Option AlertOutcome := do
  guard (entries.all (titleReturns poll))
  let faults ← foldDeclaredIncidents (observedFaults poll entries) (some poll.relations)
    alertIncidentWindowSeconds
  let raised ← raiseFaults poll table faults
  let after ← resolveQuiet poll raised faults.keys
  return { faults, raised, after }

end

section

variable {poll : AlertPoll}

theorem recordRecurrence_row {alert bumped : Alert} {fault : Fault}
    (recorded : recordRecurrence poll alert fault = .ok bumped) : bumped.id = alert.id := by
  simp only [recordRecurrence, bind, Except.bind, pure, Except.pure] at recorded
  split at recorded
  · cases recorded
  · split at recorded
    · cases recorded
      rfl
    · split at recorded
      · cases recorded
      · cases recorded
        rfl

theorem raiseOrBump_step {standing table after : AlertTable} {fault : Text × Fault}
    (unchanged : table.openRow? (logAggregatorName, fault.1) = standing.openRow?
    (logAggregatorName, fault.1))
    (stepped : raiseOrBump poll standing table fault = some after) :
    (after.openRow? (logAggregatorName, fault.1)).isSome ∧
      ∀ key, (logAggregatorName, fault.1) ≠ key → after.openRow? key = table.openRow? key := by
  unfold raiseOrBump at stepped
  cases found : standing.openRow? (logAggregatorName, fault.1) with
  | none =>
    rw [found] at stepped
    constructor
    · simp [openRow?_raiseAlert stepped]
    · intro key apart
      rw [openRow?_raiseAlert stepped, if_neg apart]
  | some alert =>
    rw [found] at stepped unchanged
    cases recorded : recordRecurrence poll alert fault.2 with
    | error raised => simp [recorded, Except.toOption] at stepped
    | ok bumped =>
      simp only [recorded, Except.toOption, Option.bind_eq_bind, Option.bind_some,
        Option.pure_def, Option.some.injEq] at stepped
      subst stepped
      constructor
      · simp [openRow?_rewriting, unchanged]
      · intro key apart
        exact openRow?_rewriting_other unchanged (recordRecurrence_row recorded) apart

theorem raiseFaults_run {standing table after : AlertTable} {faults : List (Text × Fault)}
    (distinct : (faults.map Prod.fst).Nodup)
    (unchanged : ∀ fault ∈ faults,
      table.openRow? (logAggregatorName, fault.1) = standing.openRow? (logAggregatorName, fault.1))
    (ran : faults.foldlM (raiseOrBump poll standing) table = some after) :
    (∀ fault ∈ faults, (after.openRow? (logAggregatorName, fault.1)).isSome) ∧
      ∀ key, (∀ fault ∈ faults, (logAggregatorName, fault.1) ≠ key) →
        after.openRow? key = table.openRow? key := by
  induction faults generalizing table with
  | nil =>
    rw [List.foldlM_nil] at ran
    cases ran
    exact ⟨by simp, fun _ _ => rfl⟩
  | cons fault rest ih =>
    obtain ⟨fresh, distinct'⟩ := List.nodup_cons.mp distinct
    obtain ⟨next, stepped, later⟩ := foldlM_cons_some.mp ran
    obtain ⟨opened, others⟩ := raiseOrBump_step (unchanged fault List.mem_cons_self) stepped
    have apart : ∀ other ∈ rest, (logAggregatorName, other.1) ≠ (logAggregatorName, fault.1) := by
      intro other member equal
      have same : other.1 = fault.1 := congrArg Prod.snd equal
      exact fresh (List.mem_map.mpr ⟨other, member, same⟩)
    have unchanged' : ∀ other ∈ rest,
        next.openRow? (logAggregatorName, other.1) =
          standing.openRow? (logAggregatorName, other.1) := by
      intro other member
      rw [others _ (Ne.symm (apart other member))]
      exact unchanged other (List.mem_cons_of_mem _ member)
    obtain ⟨raised, rested⟩ := ih distinct' unchanged' later
    constructor
    · intro other member
      rcases List.mem_cons.mp member with here | inside
      · subst here
        rw [rested _ apart]
        exact opened
      · exact raised other inside
    · intro key outside
      rw [rested key fun other member => outside other (List.mem_cons_of_mem _ member),
        others key (outside fault List.mem_cons_self)]

theorem raiseFaults_rows {standing after : AlertTable} {faults : Dict Text Fault}
    (ran : raiseFaults poll standing faults = some after) :
    (∀ title, (faults.get? title).isSome → (after.openRow? (logAggregatorName, title)).isSome) ∧
      ∀ title, faults.get? title = none →
        after.openRow? (logAggregatorName, title) = standing.openRow? (logAggregatorName, title) := by
  obtain ⟨raised, others⟩ := raiseFaults_run faults.nodup (fun _ _ => rfl) ran
  constructor
  · intro title present
    obtain ⟨fault, found⟩ := Option.isSome_iff_exists.mp present
    exact raised (title, fault) (Dict.get?_eq_some.mp found)
  · intro title absent
    apply others
    intro fault member equal
    have same : fault.1 = title := congrArg Prod.snd equal
    have found : faults.get? title = some fault.2 := Dict.get?_eq_some.mpr (same ▸ member)
    simp [absent] at found

theorem resolveQuiet_openRow? {table after : AlertTable} {seen : List Text}
    (resolved : resolveQuiet poll table seen = some after) (key : Text × Text) :
    after.openRow? key =
      (table.openRow? key).filter fun alert => !(mayResolve seen alert && wentQuiet poll alert) := by
  unfold resolveQuiet at resolved
  split at resolved
  · cases resolved
    exact openRow?_resolving _ _ _ key
  · cases resolved

theorem alertPhase_eq_some {table : AlertTable} {entries : List Entry} {outcome : AlertOutcome}
    (polled : alertPhase poll table entries = some outcome) :
    foldDeclaredIncidents (observedFaults poll entries)
      (some poll.relations) alertIncidentWindowSeconds =
        some outcome.faults ∧
      raiseFaults poll table outcome.faults = some outcome.raised ∧
      resolveQuiet poll outcome.raised outcome.faults.keys = some outcome.after := by
  simp only [alertPhase, Option.bind_eq_bind, Option.bind_eq_some_iff, Option.pure_def,
    Option.some.injEq] at polled
  obtain ⟨_, _, faults, folded, raised, ran, after, resolved, same⟩ := polled
  subst same
  exact ⟨folded, ran, resolved⟩

end

end SysadminAssistant.Monitor
