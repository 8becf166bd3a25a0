import SysadminAssistant.Monitor.TitleIdentity

namespace SysadminAssistant.Monitor

open Python SysadminAssistant.Core

/-! What the transaction of a poll writes for one entry: its row in `log_entries` and, if the
entry is a fault, the alert it raises.  One value that PostgreSQL refuses fails the poll. -/

/-- PostgreSQL's `text` and `jsonb` hold neither NUL nor half a surrogate pair. -/
def storesText (value : Text) : Bool := value.all fun c => c ≠ 0 && !c.isSurrogate

mutual

/-- `json.dumps` writes a float that is not finite as `Infinity` or `NaN`, which is no JSON. -/
def storesJson : Json → Bool
  | .float (.finite _) => true
  | .float _ => false
  | .str value => storesText value
  | .arr items => storesItems items
  | .obj fields => storesFields fields
  | _ => true

def storesItems : List Json → Bool
  | [] => true
  | item :: rest => storesJson item && storesItems rest

def storesFields : List (Text × Json) → Bool
  | [] => true
  | (key, value) :: rest => storesText key && storesJson value && storesFields rest

end

/-- A `jsonb` column takes the object of these fields. -/
def storesDocument (interpreter : Interpreter) (fields : List (Text × Json)) : Bool :=
  storesFields fields && Json.nestingFields fields ≤ interpreter.storeDepth

/-- `log_entries.source` is `String(100)`. -/
def sourceColumn : Nat := 100

/-- The row of the entry can be inserted. -/
def Entry.storable (interpreter : Interpreter) (entry : Entry) : Bool :=
  storesText entry.source && entry.source.length ≤ sourceColumn &&
    storesText (entry.message.take storedMessageChars) && storesText entry.rawLine &&
    storesDocument interpreter entry.metadata

/-- A row of `alerts` can hold this. -/
def storableAlert (interpreter : Interpreter) (title message : Text) (details : Details) : Bool :=
  storesText title && title.length ≤ titleColumn && storesText message &&
    storesDocument interpreter details.entries

def storableDraft (interpreter : Interpreter) (draft : Draft) : Bool :=
  storableAlert interpreter draft.title draft.message draft.details

/-- Nothing that a poll writes for the entry fails: neither its row, nor its title, nor the
alert that it raises by itself. -/
structure Entry.Commits (interpreter : Interpreter) (alerts : AlertPoll) (entry : Entry) : Prop where
  stored : entry.storable interpreter = true
  titled : titleReturns alerts entry = true
  raised : ∀ fault ∈ (observedFaults alerts [entry]).entries, ∀ prior,
    storableDraft interpreter (faultDraft alerts fault.2 prior) = true

/-- What the code relies on outside the repository: the library's cut, its marker, the digits
of a digest, and the form of a timestamp. -/
structure AlertPoll.Documented (alerts : AlertPoll) : Prop where
  cuts : alerts.titles.Cuts
  marker : alerts.titles.truncationMarker.length ≤ 25
  marks : storesText alerts.titles.truncationMarker = true
  width : ∀ body, (alerts.titles.signatureDigest body).length = 8
  digits : ∀ body, storesText (alerts.titles.signatureDigest body) = true
  moments : ∀ moment, storesText (alerts.isoformat moment) = true

/-! ## Values -/

theorem storesText_iff {value : Text} :
    storesText value = true ↔ ∀ c ∈ value, c ≠ 0 ∧ c.isSurrogate = false := by
  simp [storesText]

theorem storesText_of_subset {value whole : Text} (inside : ∀ c ∈ value, c ∈ whole)
    (stored : storesText whole = true) : storesText value = true :=
  storesText_iff.mpr fun c member => storesText_iff.mp stored c (inside c member)

@[simp] theorem storesText_append (first second : Text) :
    storesText (first ++ second) = (storesText first && storesText second) := by
  simp [storesText, List.all_append]

theorem storesText_shorter {value : Text} {few many : Nat} (below : few ≤ many)
    (stored : storesText (value.take many) = true) : storesText (value.take few) = true := by
  refine storesText_of_subset (fun c member => ?_) stored
  exact (List.take_subset_take_left value below) member

theorem Entry.storable_iff {interpreter : Interpreter} {entry : Entry} :
    entry.storable interpreter = true ↔ storesText entry.source = true ∧
      entry.source.length ≤ sourceColumn ∧
      storesText (entry.message.take storedMessageChars) = true ∧
      storesText entry.rawLine = true ∧ storesDocument interpreter entry.metadata = true := by
  simp only [Entry.storable, Bool.and_eq_true, decide_eq_true_eq, and_assoc]

def Member.storable (member : Member) : Bool :=
  storesText member.source && storesText member.signature && storesText member.alertTitle

/-- What the details of a fault's row repeat of the fault can be stored. -/
def storableFault (fault : Fault) : Bool :=
  storesText fault.source && storesText fault.signature &&
    (fault.declared.all fun declaration => storesText declaration.reason) &&
    fault.members.all Member.storable && fault.noiseReason.all storesText &&
    fault.coveredBy.all storesText

section

variable {interpreter : Interpreter} {alerts : AlertPoll} {entry : Entry} {fault : Fault}

theorem declared_storable {source sig : Text} {declaration : CriticalSignature}
    (declared : criticalSignature? source sig = some declaration) :
    storesText declaration.title = true ∧ declaration.title.length ≤ titleColumn ∧
      storesText declaration.reason = true := by
  have known : declaration ∈ [gpuReset, gpuRecoveryFailed] := by
    unfold criticalSignature? at declared
    repeat' split at declared
    all_goals cases declared
    all_goals simp
  have fits : [gpuReset, gpuRecoveryFailed].all (fun declaration =>
      storesText declaration.title && declaration.title.length ≤ titleColumn &&
        storesText declaration.reason) = true := by decide +kernel
  simpa [and_assoc] using List.all_eq_true.mp fits declaration known

/-- The alert that the entry raises by itself. -/
def ownFault (alerts : AlertPoll) (entry : Entry) : Fault :=
  newFault alerts.knownNoise (faultTitle alerts entry) (signature alerts.database entry.message)
    (declarationOf alerts entry) entry

theorem AlertPoll.Documented.cut (documented : alerts.Documented) {value : Text} {limit : Nat}
    (stored : storesText (value.take limit) = true) :
    storesText (alerts.titles.truncateAtWord value limit) = true := by
  obtain ⟨kept, initial, bound, marked⟩ := documented.cuts value limit
  have first : storesText kept = true := storesText_of_subset
    (fun c member => (List.prefix_take_iff.mpr ⟨initial, bound⟩).subset member) stored
  have blank : storesText (text " ") = true := by decide
  simp only [List.mem_cons, List.not_mem_nil, or_false] at marked
  rcases marked with same | same | same <;> simp [same, first, blank, documented.marks]

theorem AlertPoll.Documented.printed (documented : alerts.Documented) {body : Text}
    (stored : storesText body = true) :
    storesText (printedSignature alerts.titles entry.severity entry.source body) = true := by
  have brackets : storesText (text " [") = true ∧ storesText (text "]") = true := by decide
  by_cases fits : body.length ≤ titleBudget alerts.titles entry.severity entry.source
  · rwa [printedSignature_whole fits]
  · have cut (limit : Nat) : storesText (alerts.titles.truncateAtWord body limit) = true :=
      documented.cut (storesText_of_subset (fun c member => List.mem_of_mem_take member) stored)
    rw [printedSignature_cut fits]
    simp [cut, brackets, documented.digits]

theorem AlertPoll.Documented.title (documented : alerts.Documented)
    (source : storesText entry.source = true) (short : entry.source.length ≤ sourceColumn)
    (stored : storesText (signature alerts.database entry.message) = true) :
    storesText (faultTitle alerts entry) = true ∧
      (faultTitle alerts entry).length ≤ titleColumn := by
  unfold faultTitle
  split
  · rename_i declaration declared
    exact ⟨(declared_storable declared).1, (declared_storable declared).2.1⟩
  · constructor
    · have pieces : storesText (text "Log ") = true ∧ storesText (text ": ") = true ∧
          storesText (text " — ") = true := by decide
      have name : storesText entry.severity.name = true := by cases entry.severity <;> decide
      rw [alertTitle_eq, storesText_append, documented.printed stored]
      simp [titleBefore, pieces, name, source]
    · exact alertTitle_length documented.cuts documented.marker
        (short.trans (by decide)) (documented.width _)

end

end SysadminAssistant.Monitor
