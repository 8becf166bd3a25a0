import SysadminAssistant.Monitor.SystemdQuery
import SysadminAssistant.Monitor.LogFaults
import SysadminAssistant.Library.RaisingLoops
import Mathlib.Data.List.Induction

namespace SysadminAssistant.Monitor.HttpCheck

open Python Library

/-! A service's GPU context (`sysadmin/monitor/gpu_context.py`). -/

/-- The columns of a `log_entries` row that are read. -/
structure StoredLine where
  source : Text
  message : Text
  loggedAt : Int

structure ResetSighting where
  «at» : Int
  signature : Text

def declaredResetSources : List Text := [text "kernel"]

/-- A line whose source and signature `CRITICAL_SIGNATURES` declares. -/
def StoredLine.declared (database : CharDatabase) (line : StoredLine) : Bool :=
  (criticalSignature? line.source (signature database line.message)).isSome

/-- The newest sighting of one message. -/
def group (groups : Dict (Text × Text) Int) (line : StoredLine) : Dict (Text × Text) Int :=
  let key := (line.source, line.message)
  groups.set key (((groups.get? key).map fun newest => max newest line.loggedAt).getD line.loggedAt)

/-- `candidate_statement`, over the rows of the table. -/
def candidateStatement (lines : List StoredLine) (startedAt : Int) : List StoredLine :=
  ((lines.filter fun line => line.source ∈ declaredResetSources ∧
    startedAt ≤ line.loggedAt).foldl group
    .empty).entries.map fun entry => { source := entry.1.1, message := entry.1.2, loggedAt := entry.2 }

def newer (database : CharDatabase) (after : Int) (newest : Option ResetSighting)
    (line : StoredLine) : Option ResetSighting :=
  if !line.declared database then newest
  else if line.loggedAt ≤ after then newest
  else match newest with
    | none => some { «at» := line.loggedAt, signature := signature database line.message }
    | some sighting =>
      if sighting.at < line.loggedAt then
        some { «at» := line.loggedAt, signature := signature database line.message }
      else newest

def newestDeclaredReset (database : CharDatabase) (lines : List StoredLine) (after : Int) :
    Option ResetSighting :=
  lines.foldl (newer database after) none

/-- `reset_since`, over the rows that the session reads. -/
def resetSince (database : CharDatabase) (lines : List StoredLine) (startedAt : Int) :
    Option ResetSighting :=
  newestDeclaredReset database (candidateStatement lines startedAt) startedAt

/-- The reading of a term that did not run; both terms record it so. -/
def unreadableReading (unit why : Text) : Json :=
  .obj [(text "unit", .str unit), (text "evaluated", .bool false), (text "reason", .str why)]

def verdictReading (wording : Wording) (unit : Text) (startedAt : Int)
    (sighting : Option ResetSighting) : Json :=
  .obj ([(text "unit", .str unit), (text "evaluated", .bool true),
    (text "unit_started_at", .str (wording.isoformat startedAt)),
    (text "context_lost", .bool sighting.isSome)] ++
    match sighting with
    | none => []
    | some sighting => [(text "reset_at", .str (wording.isoformat sighting.at)),
        (text "reset_signature", .str sighting.signature)])

/-! A service's memory on the card (`sysadmin/monitor/gpu_residency.py`). -/

def evictionFloorKib : Int := 128 * 1024

structure Residency where
  clients : Nat
  totalVramKib : Int
  residentVramKib : Int
  totalGttKib : Int
  residentGttKib : Int

def Residency.evictedKib (residency : Residency) : Int :=
  max 0 (residency.totalVramKib - residency.residentVramKib)

/-- The units of a figure, in bytes. -/
def unitScale (unit : Text) : Option Int :=
  if unit = [] then some 1
  else if unit = text "KiB" then some 1024
  else if unit = text "MiB" then some (1024 ^ 2)
  else if unit = text "GiB" then some (1024 ^ 3)
  else none

/-- What `listdir` gives of `/proc/<pid>/fdinfo`, and what reading each of its files gives. -/
abbrev FdInfo := Except CheckError (List (Except CheckError Bytes))

def fieldOf (fields : Dict Text Text) (line : Text) : Dict Text Text :=
  match partitionAt 0x3A line with
  | (key, true, value) => fields.set key.strip value.strip
  | _ => fields

/-- The lines of a file; the empty piece inside `\r\n` has no colon. -/
def infoLines (content : Text) : List Text :=
  content.splitOnP fun c => c.val ∈ [0x0A, 0x0B, 0x0C, 0x0D, 0x1C, 0x1D, 0x1E, 0x85, 0x2028, 0x2029]

def fieldsOf (content : Text) : Dict Text Text := (infoLines content).foldl fieldOf .empty

def clientOf (slot : Text) (clients : Dict Text (Dict Text Text)) :
    Option (Dict Text Text) → Dict Text (Dict Text Text)
  | none => clients
  | some fields => match fields.get? (text "drm-client-id") with
    | none => clients
    | some client => if fields.get? (text "drm-pdev") = some slot then clients.set client fields
        else clients

section

variable (wording : Wording)

def kib (value : Text) : Except CheckError Int :=
  let (number, _, unit) := partitionAt 0x20 value.strip
  match unitScale unit.strip with
  | none => .error (.other (wording.repr unit.strip))
  | some scale => match wording.database.intOfText number with
    | .error error => .error (raised wording error)
    | .ok count => .ok (count * scale / 1024)

/-- One file of the directory; a descriptor that has gone is passed over. -/
def readFd : Except CheckError Bytes → Except CheckError (Option (Dict Text Text))
  | .error (.osError _) => .ok none
  | .error error => .error error
  | .ok bytes => match decode bytes with
    | .error error => .error (raised wording error)
    | .ok content => .ok (some (fieldsOf content))

def totalOf (clients : Dict Text (Dict Text Text)) (key : String) : Except CheckError Int :=
  (clients.values.mapM fun fields =>
    kib wording ((fields.get? (text key)).getD (text "0"))).map List.sum

def readResidency (slot : Text) (fdinfo : FdInfo) : Except CheckError Residency := do
  let files ← fdinfo
  let found ← files.mapM (readFd wording)
  let clients := found.foldl (clientOf slot) .empty
  let totalVramKib ← totalOf wording clients "drm-total-vram"
  let residentVramKib ← totalOf wording clients "drm-resident-vram"
  let totalGttKib ← totalOf wording clients "drm-total-gtt"
  let residentGttKib ← totalOf wording clients "drm-resident-gtt"
  return { clients := clients.entries.length, totalVramKib, residentVramKib, totalGttKib, residentGttKib }

end

/-- `reading`. -/
def residencyReading (unit : Text) (pid : Int) (residency : Residency) : Json :=
  .obj [(text "unit", .str unit), (text "evaluated", .bool true), (text "pid", .int pid),
    (text "clients", .int residency.clients), (text "total_vram_kib", .int residency.totalVramKib),
    (text "resident_vram_kib", .int residency.residentVramKib),
    (text "total_gtt_kib", .int residency.totalGttKib),
    (text "resident_gtt_kib", .int residency.residentGttKib),
    (text "evicted_kib", .int residency.evictedKib),
    (text "evicted", .bool (evictionFloorKib ≤ residency.evictedKib))]

/-! When a reset is sighted. -/

section

variable {database : CharDatabase}

theorem newer_isSome {after : Int} {newest : Option ResetSighting} {line : StoredLine} :
    (newer database after newest line).isSome = true ↔
      newest.isSome = true ∨ (line.declared database = true ∧ after < line.loggedAt) := by
  cases declared : line.declared database with
  | false => simp [newer, declared]
  | true =>
    by_cases late : line.loggedAt ≤ after
    · simp [newer, declared, late]
    · have strictly : after < line.loggedAt := by omega
      cases newest with
      | none => simp [newer, declared, late, strictly]
      | some sighting =>
        by_cases overtaken : sighting.at < line.loggedAt
        · simp [newer, declared, late, overtaken]
        · simp [newer, declared, late, overtaken]

theorem newestDeclaredReset_isSome {lines : List StoredLine} {after : Int} :
    (newestDeclaredReset database lines after).isSome = true ↔
      ∃ line ∈ lines, line.declared database = true ∧ after < line.loggedAt := by
  have run : ∀ (lines : List StoredLine) (newest : Option ResetSighting),
      (lines.foldl (newer database after) newest).isSome = true ↔
        newest.isSome = true ∨ ∃ line ∈ lines, line.declared database = true ∧
          after < line.loggedAt := by
    intro lines
    induction lines with
    | nil => simp
    | cons line rest ih =>
      intro newest
      rw [List.foldl_cons, ih, newer_isSome, List.exists_mem_cons_iff, or_assoc]
  simpa [newestDeclaredReset] using run lines none

/-- A group says of its message what the newest of its lines says. -/
structure Grouped (lines : List StoredLine) (groups : Dict (Text × Text) Int) : Prop where
  seen : ∀ {key newest}, groups.get? key = some newest →
    ∃ line ∈ lines, (line.source, line.message) = key ∧ line.loggedAt = newest
  kept : ∀ line ∈ lines, ∃ newest, groups.get? (line.source, line.message) = some newest ∧
    line.loggedAt ≤ newest

theorem Grouped.add {lines : List StoredLine} {groups : Dict (Text × Text) Int}
    (grouped : Grouped lines groups) (line : StoredLine) :
    Grouped (lines ++ [line]) (group groups line) where
  seen := by
    intro key newest found
    rw [group, Dict.get?_set] at found
    by_cases same : (line.source, line.message) = key
    · rw [if_pos same, Option.some.injEq] at found
      cases held : groups.get? (line.source, line.message) with
      | none =>
        simp only [held, Option.map_none, Option.getD_none] at found
        exact ⟨line, by simp, same, found⟩
      | some older =>
        simp only [held, Option.map_some, Option.getD_some] at found
        obtain ⟨earlier, member, named, stamped⟩ := grouped.seen held
        rcases max_cases older line.loggedAt with first | second
        · exact ⟨earlier, by simp [member], named.trans same, by rw [stamped, ← found, first.1]⟩
        · exact ⟨line, by simp, same, by rw [← found, second.1]⟩
    · rw [if_neg same] at found
      obtain ⟨earlier, member, named, stamped⟩ := grouped.seen found
      exact ⟨earlier, by simp [member], named, stamped⟩
  kept := by
    intro other member
    rw [group, Dict.get?_set]
    by_cases same : (line.source, line.message) = (other.source, other.message)
    · rw [if_pos same]
      refine ⟨_, rfl, ?_⟩
      rcases List.mem_append.mp member with earlier | last
      · obtain ⟨newest, held, bound⟩ := grouped.kept other earlier
        rw [← same] at held
        simp only [held, Option.map_some, Option.getD_some]
        omega
      · rw [List.mem_singleton.mp last]
        cases groups.get? (line.source, line.message) with
        | none => simp
        | some older => simp
    · rw [if_neg same]
      rcases List.mem_append.mp member with earlier | last
      · exact grouped.kept other earlier
      · exact absurd (by rw [List.mem_singleton.mp last]) same

theorem grouped_foldl (lines : List StoredLine) : Grouped lines (lines.foldl group .empty) := by
  induction lines using List.reverseRecOn with
  | nil =>
    refine ⟨?_, by simp⟩
    intro key newest found
    cases found
  | append_singleton lines line ih =>
    rw [List.foldl_append, List.foldl_cons, List.foldl_nil]
    exact ih.add line

theorem source_of_declared {line : StoredLine} (declared : line.declared database = true) :
    line.source ∈ declaredResetSources := by
  by_cases kernel : line.source = text "kernel"
  · simp [declaredResetSources, kernel]
  · simp [StoredLine.declared, criticalSignature?, kernel] at declared

theorem resetSince_isSome {lines : List StoredLine} {startedAt : Int} :
    (resetSince database lines startedAt).isSome = true ↔
      ∃ line ∈ lines, line.declared database = true ∧ startedAt < line.loggedAt := by
  have grouped := grouped_foldl (lines.filter fun line => line.source ∈ declaredResetSources ∧
      startedAt ≤ line.loggedAt)
  rw [resetSince, newestDeclaredReset_isSome]
  constructor
  · intro sighted
    obtain ⟨candidate, member, declared, later⟩ := sighted
    obtain ⟨entry, inside, rfl⟩ := List.mem_map.mp member
    obtain ⟨line, kept, named, stamped⟩ := grouped.seen (Dict.get?_eq_some.mpr inside)
    refine ⟨line, List.mem_of_mem_filter kept, ?_, stamped.symm ▸ later⟩
    rwa [StoredLine.declared, ← congrArg Prod.fst named, ← congrArg Prod.snd named] at declared
  · intro sighted
    obtain ⟨line, member, declared, later⟩ := sighted
    have inside : line ∈ lines.filter fun line => line.source ∈ declaredResetSources ∧
        startedAt ≤ line.loggedAt := by
      simp only [List.mem_filter, decide_eq_true_eq]
      exact ⟨member, source_of_declared declared, later.le⟩
    obtain ⟨newest, held, bound⟩ := grouped.kept line inside
    exact ⟨_, List.mem_map.mpr ⟨_, Dict.get?_eq_some.mp held, rfl⟩, declared, later.trans_le bound⟩

end

/-! When a residency is read. -/

/-- A file that can be read as text, or has gone. -/
def FileLegible : Except CheckError Bytes → Prop
  | .error (.osError _) => True
  | .error _ => False
  | .ok bytes => ∃ content, decode bytes = .ok content

/-- An integer with a unit of `_kib`, or with none. -/
def FigureLegible (wording : Wording) (value : Text) : Prop :=
  (unitScale (partitionAt 0x20 value.strip).2.2.strip).isSome = true ∧
    ∃ count, wording.database.intOfText (partitionAt 0x20 value.strip).1 = .ok count

/-- The fields of a file that can be read. -/
def fieldsRead : Except CheckError Bytes → Option (Dict Text Text)
  | .error _ => none
  | .ok bytes => match decode bytes with
    | .error _ => none
    | .ok content => some (fieldsOf content)

/-- The clients on the slot, by their ids. -/
def clientsOn (slot : Text) (files : List (Except CheckError Bytes)) : Dict Text (Dict Text Text) :=
  (files.map fieldsRead).foldl (clientOf slot) .empty

def figureKeys : List String :=
  ["drm-total-vram", "drm-resident-vram", "drm-total-gtt", "drm-resident-gtt"]

/-- Every file is legible, and so is every figure of a client on the slot. -/
structure Legible (wording : Wording) (slot : Text) (files : List (Except CheckError Bytes)) :
    Prop where
  file : ∀ file ∈ files, FileLegible file
  figure : ∀ key ∈ figureKeys, ∀ fields ∈ (clientsOn slot files).values,
    FigureLegible wording ((fields.get? (text key)).getD (text "0"))

inductive ResidencyOutcome (wording : Wording) (slot : Text) (fdinfo : FdInfo) :
    Except CheckError Residency → Prop
  | measured {files : List (Except CheckError Bytes)} {residency : Residency}
      (listed : fdinfo = .ok files)
      (legible : Legible wording slot files) : ResidencyOutcome wording slot fdinfo (.ok residency)
  | unlisted {message : Text} (gone : fdinfo = .error (.osError message)) :
      ResidencyOutcome wording slot fdinfo (.error (.osError message))
  | lost {error : CheckError} (unknown : ∀ message, error ≠ .osError message)
      (listing : ∀ message, fdinfo ≠ .error (.osError message))
      (illegible : ∀ files, fdinfo = .ok files → ¬ Legible wording slot files) :
      ResidencyOutcome wording slot fdinfo (.error error)

section

variable {wording : Wording} {slot : Text}

theorem decode_error {bytes : Bytes} {error : PyError} (failed : decode bytes = .error error) :
    error = .valueError := by
  simp only [decode] at failed
  split at failed
  · exact (Except.error.inj failed).symm
  · contradiction

variable (wording) in
theorem kib_cases (value : Text) :
    (FigureLegible wording value ∧ ∃ count, kib wording value = .ok count) ∨
    (¬ FigureLegible wording value ∧ ∃ message, kib wording value = .error (.other message)) := by
  simp only [FigureLegible, kib]
  cases scaled : unitScale (partitionAt 0x20 value.strip).2.2.strip with
  | none => exact Or.inr ⟨by simp, _, rfl⟩
  | some scale =>
    cases number : wording.database.intOfText (partitionAt 0x20 value.strip).1 with
    | error error =>
      rw [intOfText_error number]
      exact Or.inr ⟨by simp, _, rfl⟩
    | ok count => exact Or.inl ⟨⟨rfl, count, rfl⟩, _, rfl⟩

variable (wording) in
theorem readFd_cases (file : Except CheckError Bytes) :
    (FileLegible file ∧ readFd wording file = .ok (fieldsRead file)) ∨
    (¬ FileLegible file ∧ ∃ error, readFd wording file = .error error ∧ ∀ message, error ≠ .osError message) := by
  cases file with
  | error error =>
    cases error with
    | osError message => exact Or.inl ⟨trivial, rfl⟩
    | systemdQuery message => exact Or.inr ⟨id, _, rfl, by simp⟩
    | sqlAlchemy message => exact Or.inr ⟨id, _, rfl, by simp⟩
    | other message => exact Or.inr ⟨id, _, rfl, by simp⟩
  | ok bytes =>
    simp only [FileLegible, readFd, fieldsRead]
    cases read : decode bytes with
    | error error =>
      rw [decode_error read]
      exact Or.inr ⟨by simp, _, rfl, by simp [raised]⟩
    | ok content => exact Or.inl ⟨⟨content, rfl⟩, rfl⟩

variable (wording) in
theorem totalOf_cases (clients : Dict Text (Dict Text Text)) (key : String) :
    ((∀ fields ∈ clients.values, FigureLegible wording ((fields.get? (text key)).getD (text "0"))) ∧
      ∃ total, totalOf wording clients key = .ok total) ∨
    ((∃ fields ∈ clients.values, ¬ FigureLegible wording ((fields.get? (text key)).getD (text "0"))) ∧
      ∃ message, totalOf wording clients key = .error (.other message)) := by
  rw [totalOf]
  cases summed : clients.values.mapM fun fields => kib wording ((fields.get? (text key)).getD (text "0")) with
  | ok counts =>
    refine Or.inl ⟨?_, _, rfl⟩
    intro fields member
    obtain ⟨count, read⟩ := exceptM_ok.mp ⟨counts, summed⟩ fields member
    rcases kib_cases wording ((fields.get? (text key)).getD (text "0")) with legible | illegible
    · exact legible.1
    · obtain ⟨_, message, failed⟩ := illegible
      simp [failed] at read
  | error error =>
    obtain ⟨fields, member, failed⟩ := exceptM_error summed
    rcases kib_cases wording ((fields.get? (text key)).getD (text "0")) with legible | illegible
    · obtain ⟨_, count, read⟩ := legible
      simp [failed] at read
    · obtain ⟨unread, message, raised⟩ := illegible
      cases failed.symm.trans raised
      exact Or.inr ⟨⟨fields, member, unread⟩, message, rfl⟩

theorem readResidency_of_files {files : List (Except CheckError Bytes)} (each : ∀ file ∈ files, FileLegible file) :
    ResidencyOutcome wording slot (.ok files) (readResidency wording slot (.ok files)) := by
  have read : files.mapM (readFd wording) = .ok (files.map fieldsRead) := by
    refine exceptM_map fun file member => ?_
    rcases readFd_cases wording file with legible | illegible
    · exact legible.2
    · exact absurd (each file member) illegible.1
  have lost : ∀ key ∈ figureKeys, (∃ fields ∈ (clientsOn slot files).values,
      ¬ FigureLegible wording ((fields.get? (text key)).getD (text "0"))) → ∀ message,
      ResidencyOutcome wording slot (.ok files) (.error (.other message)) := by
    intro key listed unread message
    obtain ⟨fields, member, illegible⟩ := unread
    refine .lost (by simp) (by simp) fun others same legible => ?_
    cases same
    exact illegible (legible.figure key listed fields member)
  have shape : readResidency wording slot (.ok files) = do
      let totalVramKib ← totalOf wording (clientsOn slot files) "drm-total-vram"
      let residentVramKib ← totalOf wording (clientsOn slot files) "drm-resident-vram"
      let totalGttKib ← totalOf wording (clientsOn slot files) "drm-total-gtt"
      let residentGttKib ← totalOf wording (clientsOn slot files) "drm-resident-gtt"
      return { clients := (clientsOn slot files).entries.length, totalVramKib, residentVramKib, totalGttKib,
               residentGttKib } := by
    simp only [readResidency, read, clientsOn, bind, Except.bind]
  rw [shape]
  rcases totalOf_cases wording (clientsOn slot files) "drm-total-vram" with first | first
  · obtain ⟨firstLegible, totalVram, firstRead⟩ := first
    rcases totalOf_cases wording (clientsOn slot files) "drm-resident-vram" with second | second
    · obtain ⟨secondLegible, residentVram, secondRead⟩ := second
      rcases totalOf_cases wording (clientsOn slot files) "drm-total-gtt" with third | third
      · obtain ⟨thirdLegible, totalGtt, thirdRead⟩ := third
        rcases totalOf_cases wording (clientsOn slot files) "drm-resident-gtt" with fourth | fourth
        · obtain ⟨fourthLegible, residentGtt, fourthRead⟩ := fourth
          simp only [firstRead, secondRead, thirdRead, fourthRead, bind, Except.bind, pure,
            Except.pure]
          refine .measured rfl ⟨each, ?_⟩
          simp only [figureKeys, List.forall_mem_cons, List.not_mem_nil, false_implies,
            implies_true, and_true]
          exact ⟨firstLegible, secondLegible, thirdLegible, fourthLegible⟩
        · obtain ⟨unread, message, failed⟩ := fourth
          simp only [firstRead, secondRead, thirdRead, failed, bind, Except.bind]
          exact lost "drm-resident-gtt" (by simp [figureKeys]) unread message
      · obtain ⟨unread, message, failed⟩ := third
        simp only [firstRead, secondRead, failed, bind, Except.bind]
        exact lost "drm-total-gtt" (by simp [figureKeys]) unread message
    · obtain ⟨unread, message, failed⟩ := second
      simp only [firstRead, failed, bind, Except.bind]
      exact lost "drm-resident-vram" (by simp [figureKeys]) unread message
  · obtain ⟨unread, message, failed⟩ := first
    simp only [failed, bind, Except.bind]
    exact lost "drm-total-vram" (by simp [figureKeys]) unread message

variable (wording slot) in
theorem readResidency_outcome (fdinfo : FdInfo) :
    ResidencyOutcome wording slot fdinfo (readResidency wording slot fdinfo) := by
  cases fdinfo with
  | error error =>
    cases error with
    | osError message => exact .unlisted rfl
    | systemdQuery message => exact .lost (by simp) (by simp) (by simp)
    | sqlAlchemy message => exact .lost (by simp) (by simp) (by simp)
    | other message => exact .lost (by simp) (by simp) (by simp)
  | ok files =>
    by_cases each : ∀ file ∈ files, FileLegible file
    · exact readResidency_of_files each
    · cases read : files.mapM (readFd wording) with
      | ok found =>
        refine absurd (fun file member => ?_) each
        obtain ⟨fields, here⟩ := exceptM_ok.mp ⟨found, read⟩ file member
        rcases readFd_cases wording file with legible | illegible
        · exact legible.1
        · obtain ⟨_, error, failed, _⟩ := illegible
          simp [failed] at here
      | error error =>
        obtain ⟨file, member, failed⟩ := exceptM_error read
        have shape : readResidency wording slot (.ok files) = .error error := by
          simp only [readResidency, read, bind, Except.bind]
        rw [shape]
        refine .lost ?_ (by simp) ?_
        · rcases readFd_cases wording file with legible | illegible
          · simp [legible.2] at failed
          · obtain ⟨_, other, raised, unknown⟩ := illegible
            cases failed.symm.trans raised
            exact unknown
        · intro others same legible
          cases same
          exact each legible.file

end

end SysadminAssistant.Monitor.HttpCheck
