import SysadminAssistant.Monitor.HttpCheck

namespace SysadminAssistant.Monitor.HttpCheck

open Python SysadminAssistant.Core

/-! What is not known of a service whose URL answers, and what becomes of its status. -/

section

variable (wording : Wording) (svc : CheckedService) (surroundings : Surroundings) (ref : SystemdRef)

/-- What `systemctl` gives of the unit. -/
def queried : Except CheckError UnitInfo :=
  getUnitStatus wording surroundings.systemctl ref.unit svc.user svc.holdsVram

def UnitUnknown : Prop := ∃ error, queried wording svc surroundings ref = .error error

def ReadInactive : Prop :=
  ∃ info, queried wording svc surroundings ref = .ok info ∧ info.isActive = false

/-- The properties of a unit that was read as active. -/
def ReadActive (info : UnitInfo) : Prop :=
  queried wording svc surroundings ref = .ok info ∧ info.isActive = true

/-- A start instant was read, and a declared reset line strictly after it. -/
def ContextLost : Prop := ∃ info startedAt lines, ReadActive wording svc surroundings ref info ∧
  ContextRead wording info surroundings.session startedAt lines ∧
    ∃ line ∈ lines, line.declared wording.database = true ∧ startedAt < line.loggedAt

def ContextUnknown : Prop := UnitUnknown wording svc surroundings ref ∨
  ∃ info, ReadActive wording svc surroundings ref info ∧
    ∀ startedAt lines, ¬ ContextRead wording info surroundings.session startedAt lines

/-- A residency was read, with evicted memory at or above the floor. -/
def Evicted : Prop := ∃ info residency, ReadActive wording svc surroundings ref info ∧
  ResidencyRead wording info surroundings.gpuPciSlot surroundings.fdinfo residency ∧
    evictionFloorKib ≤ residency.evictedKib

def ResidencyUnknown : Prop := UnitUnknown wording svc surroundings ref ∨
  ∃ info, ReadActive wording svc surroundings ref info ∧
    ∀ residency, ¬ ResidencyRead wording info surroundings.gpuPciSlot surroundings.fdinfo residency

/-- The details say that a term was not evaluated. -/
def Unevaluated (key : Text) (details : Details) : Prop :=
  ∃ fields, details.get? key = some (.obj fields) ∧ Json.field? (text "evaluated") fields =
    some (.bool false)

/-- Only a fault that was read makes a working service faulty, and what is not known is said so. -/
structure KeepsWorking (reading : Reading) : Prop where
  fault : reading.status ≠ .ok → ReadInactive wording svc surroundings ref ∨
    (svc.holdsVram = true ∧ (ContextLost wording svc surroundings ref ∨
      Evicted wording svc surroundings ref))
  unit : UnitUnknown wording svc surroundings ref →
    reading.details.get? (text "unit_check") = some (.str (text "unavailable"))
  context : svc.holdsVram = true → ContextUnknown wording svc surroundings ref →
    Unevaluated contextKey reading.details
  residency : svc.holdsVram = true → ResidencyUnknown wording svc surroundings ref →
    Unevaluated residencyKey reading.details

/-- What the two terms of an active unit read fails only in the ways that their handlers name; a
figure beyond the doubles is harmless where the context was read. -/
structure TermsHandled (info : UnitInfo) : Prop where
  context : ContextHandled wording info surroundings.session
  residency : ResidencyHandled wording info surroundings.gpuPciSlot surroundings.fdinfo
  figure : (∃ startedAt lines, ContextRead wording info surroundings.session startedAt lines) ∨
    ∀ residency, ResidencyRead wording info surroundings.gpuPciSlot surroundings.fdinfo residency →
      residency.evictedKib < endOfDoublesKib

/-- The query fails only by `SystemdQueryError`, and not at all for a service that holds VRAM. -/
structure Handled : Prop where
  understood : Understood surroundings.systemctl (showArgs ref.unit svc.holdsVram) svc.user
  answers : svc.holdsVram = true →
    Answers wording surroundings.systemctl ref.unit svc.user svc.holdsVram
  terms : svc.holdsVram = true → ∀ info, ReadActive wording svc surroundings ref info →
    TermsHandled wording surroundings info

end

section

variable {wording : Wording} {svc : CheckedService} {surroundings : Surroundings} {ref : SystemdRef}

theorem unevaluated_recorded (reading : Reading) (key unit why : Text) :
    Unevaluated key (recorded reading key (unreadableReading unit why)).details :=
  ⟨_, Dict.get?_set_self .., by simp [Json.field?]; decide⟩

theorem Unevaluated.set {key other : Text} {details : Details}
    (unevaluated : Unevaluated key details) (value : Json) (apart : other ≠ key) :
    Unevaluated key (details.set other value) := by
  obtain ⟨fields, found, marked⟩ := unevaluated
  exact ⟨fields, by rw [Dict.get?_set_other _ _ apart, found], marked⟩

theorem not_unevaluated_error (key message : Text) (apart : text "error" ≠ key) :
    ¬ Unevaluated key (noted [("error", .str message)]) := by
  intro unevaluated
  obtain ⟨fields, found, _⟩ := unevaluated
  have absent : (noted [("error", .str message)]).get? key = none :=
    Dict.get?_ofEntries_absent (by simpa using apart.symm)
  simp [absent] at found

theorem checkHttp_details {exchange : Exchange} {reading : Reading}
    (answered : checkHttp exchange = .ok reading) (ok : reading.status = .ok) :
    reading.details = .empty := by
  cases exchange with
  | answered statusCode elapsedMs unmet =>
    simp only [checkHttp] at answered
    split at answered
    · cases unmet with
      | some details =>
        cases answered
        contradiction
      | none =>
        simp only at answered
        split at answered
        · cases answered
          contradiction
        · cases answered
          rfl
    · split at answered <;>
      · cases answered
        contradiction
  | failed error => contradiction
  | noUrl | timedOut _ | refused =>
    cases answered
    contradiction

theorem understood_of_answers
    (answers : Answers wording surroundings.systemctl ref.unit svc.user svc.holdsVram) :
    Understood surroundings.systemctl (showArgs ref.unit svc.holdsVram) svc.user := by
  obtain ⟨process, stdout, stderr, ran, out, err, _⟩ := answers.ran
  exact .ran ran out err

theorem floor_lt_endOfDoubles : evictionFloorKib < endOfDoublesKib := by decide +kernel

section

variable {info : UnitInfo} (active : ReadActive wording svc surroundings ref info)
include active

theorem info_of_active {other : UnitInfo} (again : ReadActive wording svc surroundings ref other) :
    other = info :=
  Except.ok.inj (again.1.symm.trans active.1)

theorem known_of_active : ¬ UnitUnknown wording svc surroundings ref := by
  intro unknown
  obtain ⟨error, failed⟩ := unknown
  simp [active.1] at failed

theorem keepsWorking_of_active (vram : svc.holdsVram = true) {reading : Reading}
    (fault : reading.status ≠ .ok → ContextLost wording svc surroundings ref ∨
      Evicted wording svc surroundings ref)
    (context : (∀ startedAt lines, ¬ ContextRead wording info surroundings.session startedAt lines) →
      Unevaluated contextKey reading.details)
    (residency :
    (∀ residency, ¬ ResidencyRead wording info surroundings.gpuPciSlot surroundings.fdinfo
    residency) →
      Unevaluated residencyKey reading.details) :
        KeepsWorking wording svc surroundings ref reading where
  fault faulty := Or.inr ⟨vram, fault faulty⟩
  unit unknown := absurd unknown (known_of_active active)
  context _ unknown := by
    rcases unknown with failed | unread
    · exact absurd failed (known_of_active active)
    · obtain ⟨other, again, none⟩ := unread
      exact context (info_of_active active again ▸ none)
  residency _ unknown := by
    rcases unknown with failed | unread
    · exact absurd failed (known_of_active active)
    · obtain ⟨other, again, none⟩ := unread
      exact residency (info_of_active active again ▸ none)

theorem residencyTerm_keeps (vram : svc.holdsVram = true) {known : Reading}
    (handled : ContextHandled wording info surroundings.session)
    (fault : known.status ≠ .ok → ∃ startedAt lines,
      ContextRead wording info surroundings.session startedAt lines ∧
      ∃ line ∈ lines, line.declared wording.database = true ∧ startedAt < line.loggedAt)
    (context : (∀ startedAt lines, ¬ ContextRead wording info surroundings.session startedAt lines) →
      Unevaluated contextKey known.details) :
    KeepsWorking wording svc surroundings ref (settled (gpuResidencyReading wording ref.unit info
      surroundings.gpuPciSlot surroundings.fdinfo known)) ↔
        TermsHandled wording surroundings info := by
  have lost (faulty : known.status ≠ .ok) : ContextLost wording svc surroundings ref := by
    obtain ⟨startedAt, lines, read, reset⟩ := fault faulty
    exact ⟨info, startedAt, lines, active, read, reset⟩
  have keyed : residencyKey ≠ contextKey := by decide
  have reasoned : text "reason" ≠ contextKey := by decide
  have outcome :=
    gpuResidencyReading_outcome wording ref.unit info surroundings.gpuPciSlot
      surroundings.fdinfo known
  cases result : gpuResidencyReading wording ref.unit info surroundings.gpuPciSlot
    surroundings.fdinfo known with
  | ok after =>
    rw [result] at outcome
    cases outcome with
    | unread taken unknown =>
      refine iff_of_true ?_ ⟨handled, taken, Or.inr fun residency read =>
        absurd read (unknown residency)⟩
      exact keepsWorking_of_active active vram (fun faulty => Or.inl (lost faulty))
        (fun none => (context none).set _ keyed) fun _ => unevaluated_recorded ..
    | resident read quiet =>
      refine iff_of_true ?_ ⟨handled, residencyHandled_of_read read, ?_⟩
      · exact keepsWorking_of_active active vram (fun faulty => Or.inl (lost faulty))
          (fun none => (context none).set _ keyed) fun none => absurd read (none _)
      · by_cases ok : known.status = .ok
        · refine Or.inr fun other again => ?_
          rw [residencyRead_unique read again]
          exact (quiet ok).trans floor_lt_endOfDoubles
        · obtain ⟨startedAt, lines, there, _⟩ := fault ok
          exact Or.inl ⟨startedAt, lines, there⟩
    | evicted read above fits =>
      refine iff_of_true ?_ ⟨handled, residencyHandled_of_read read, Or.inr fun other again => ?_⟩
      · exact keepsWorking_of_active active vram (fun _ => Or.inr ⟨info, _, active, read, above⟩)
          (fun none => ((context none).set _ keyed).set _ reasoned) fun none => absurd read (none _)
      · rw [residencyRead_unique read again]
        exact fits
  | error error =>
    rw [result] at outcome
    cases outcome with
    | overflow read ok above beyond =>
      constructor
      · intro keeps
        refine ⟨handled, residencyHandled_of_read read, Or.inl ?_⟩
        by_contra none
        have unknown : ContextUnknown wording svc surroundings ref :=
          Or.inr ⟨info, active, fun startedAt lines there => none ⟨startedAt, lines, there⟩⟩
        exact not_unevaluated_error _ _ (by decide) (keeps.context vram unknown)
      · intro terms
        rcases terms.figure with there | bounded
        · obtain ⟨startedAt, lines, there⟩ := there
          exact keepsWorking_of_active active vram (fun _ => Or.inr ⟨info, _, active, read, above⟩)
            (fun none => absurd there (none _ _)) fun none => absurd read (none _)
        · exact absurd (bounded _ read) beyond
    | escaped unhandled unknown =>
      refine iff_of_false (fun keeps => ?_) fun terms => unhandled terms.residency
      exact not_unevaluated_error _ _ (by decide)
        (keeps.residency vram (Or.inr ⟨info, active, unknown⟩))

theorem activeReading_keeps (vram : svc.holdsVram = true) {reading : Reading}
    (ok : reading.status = .ok) :
    KeepsWorking wording svc surroundings ref
      (settled (activeReading wording svc surroundings ref.unit info reading)) ↔
      TermsHandled wording surroundings info := by
  have outcome := gpuContextReading_outcome wording ref.unit info surroundings.session reading
  rw [activeReading, if_pos vram]
  cases result : gpuContextReading wording ref.unit info surroundings.session reading with
  | ok known =>
    rw [result] at outcome
    simp only [bind, Except.bind]
    cases outcome with
    | unread handled unknown =>
      exact residencyTerm_keeps active vram handled (fun faulty => absurd ok faulty)
        fun _ => unevaluated_recorded ..
    | current read =>
      exact residencyTerm_keeps active vram (handled_of_read read)
        (fun faulty => absurd ok faulty) fun none => absurd read (none _ _)
    | lost read reset degraded =>
      exact residencyTerm_keeps active vram (handled_of_read read)
        (fun _ => ⟨_, _, read, reset⟩) fun none => absurd read (none _ _)
  | error error =>
    rw [result] at outcome
    simp only [bind, Except.bind]
    cases outcome with
    | escaped unhandled unknown =>
      refine iff_of_false (fun keeps => ?_) fun terms => unhandled terms.context
      exact not_unevaluated_error _ _ (by decide) (keeps.context vram (Or.inr ⟨info, active, unknown⟩))

end

end

theorem checkService_of_ok {wording : Wording} {svc : CheckedService} {surroundings : Surroundings}
    {ref : SystemdRef} {reading : Reading} (http : svc.kind = .http)
    (monitored : svc.monitor = true) (declared : svc.systemd = some ref)
    (answered : checkHttp surroundings.exchange = .ok reading) (ok : reading.status = .ok) :
    checkService wording svc surroundings = settled
      (assertUnit wording svc surroundings ref reading) := by
  simp [checkService, checkPlan, http, monitored, declared, CheckPlan.checksNothing,
    checkHttpAndUnit, answered, ok, bind, Except.bind]

/-- Not knowing turns no working service into a fault, exactly where every failure is one that has a
handler. -/
theorem checkService_keepsWorking_iff {wording : Wording} {svc : CheckedService}
    {surroundings : Surroundings} {ref : SystemdRef} {reading : Reading} (http : svc.kind = .http)
    (monitored : svc.monitor = true) (declared : svc.systemd = some ref)
    (answered : checkHttp surroundings.exchange = .ok reading) (ok : reading.status = .ok) :
    KeepsWorking wording svc surroundings ref (checkService wording svc surroundings) ↔
      Handled wording svc surroundings ref := by
  rw [checkService_of_ok http monitored declared answered ok]
  have empty := checkHttp_details answered ok
  have outcome := getUnitStatus_outcome wording surroundings.systemctl ref.unit svc.user svc.holdsVram
  cases result : getUnitStatus wording surroundings.systemctl ref.unit svc.user svc.holdsVram with
  | ok info =>
    rw [result] at outcome
    cases outcome with
    | told answers =>
      have understood := understood_of_answers answers
      cases state : info.isActive with
      | false =>
        have inactive (other : UnitInfo) : ¬ ReadActive wording svc surroundings ref other := by
          intro active
          obtain ⟨found, on⟩ := active
          cases result.symm.trans found
          simp [state] at on
        have known : ¬ UnitUnknown wording svc surroundings ref := by
          intro unknown
          obtain ⟨error, failed⟩ := unknown
          simp [queried, result] at failed
        have settledTerm (unread : UnitInfo → Prop) : ¬ (UnitUnknown wording svc surroundings ref ∨
            ∃ info, ReadActive wording svc surroundings ref info ∧ unread info) := by
          intro unknown
          rcases unknown with failed | ⟨other, active, _⟩
          · exact known failed
          · exact inactive other active
        exact iff_of_true ⟨fun _ => Or.inl ⟨info, result, state⟩, fun unknown =>
          absurd unknown known, fun _ unknown => absurd unknown (settledTerm _),
          fun _ unknown => absurd unknown (settledTerm _)⟩
          ⟨understood, fun _ => answers, fun _ other active => absurd active (inactive other)⟩
      | true =>
        have active : ReadActive wording svc surroundings ref info := ⟨result, state⟩
        simp only [assertUnit, result, state, if_true]
        by_cases vram : svc.holdsVram = true
        · rw [activeReading_keeps active vram ok]
          constructor
          · intro terms
            exact ⟨understood, fun _ => answers, fun _ other again =>
              info_of_active active again ▸ terms⟩
          · intro handled
            exact handled.terms vram info active
        · rw [activeReading, if_neg vram]
          exact iff_of_true ⟨fun faulty => absurd ok faulty, fun unknown =>
            absurd unknown (known_of_active active), fun held => absurd held vram, fun held =>
            absurd held vram⟩
            ⟨understood, fun held => absurd held vram, fun held => absurd held vram⟩
  | error error =>
    rw [result] at outcome
    cases outcome with
    | untold understood silent =>
      have unknown : UnitUnknown wording svc surroundings ref := ⟨_, result⟩
      simp only [assertUnit, result, settled]
      by_cases vram : svc.holdsVram = true
      · refine iff_of_false (fun keeps => ?_) fun handled => silent (handled.answers vram)
        -- the handler records the context term only
        obtain ⟨fields, found, _⟩ := keeps.residency vram (Or.inl unknown)
        have apart : contextKey ≠ residencyKey := by decide
        have checked : text "unit_check" ≠ residencyKey := by decide
        rw [if_pos vram, empty, Dict.get?_set_other _ _ apart, Dict.get?_set_other _ _ checked]
          at found
        contradiction
      · rw [if_neg vram]
        exact iff_of_true ⟨fun faulty => absurd ok faulty, fun _ => Dict.get?_set_self ..,
          fun held => absurd held vram, fun held =>
          absurd held vram⟩ ⟨understood, fun held => absurd held vram, fun held =>
          absurd held vram⟩
    | lost unknown garbled =>
      have escaped : assertUnit wording svc surroundings ref reading = .error error := by
        cases error with
        | systemdQuery message => exact absurd rfl (unknown message)
        | osError message | sqlAlchemy message | other message => simp only [assertUnit, result]
      rw [escaped]
      refine iff_of_false (fun keeps => ?_) fun handled => garbled handled.understood
      rcases keeps.fault (by simp [settled]) with inactive | term
      · obtain ⟨info, found, _⟩ := inactive
        simp [queried, result] at found
      · rcases term.2 with lost | evicted
        · obtain ⟨info, _, _, active, _⟩ := lost
          simp [ReadActive, queried, result] at active
        · obtain ⟨info, _, active, _⟩ := evicted
          simp [ReadActive, queried, result] at active

/-! ## A service that works, with and without an answer of `systemctl` -/

def asciiWording : Wording where
  database := .ascii
  lower value := value.map fun c => if 65 ≤ c.val ∧ c.val ≤ 90 then c + 32 else c
  repr value := text "'" ++ value ++ text "'"
  errorText _ := text "error"
  isoformat moment := intText moment
  tenths number := intText number.floor

def webRef : SystemdRef := { unit := text "web.service", scope := .user }

def webService : CheckedService where
  kind := .http
  systemd := some webRef
  monitor := true
  reason := none
  holdsVram := false
  held := by decide

def around (run : Except CheckError CompletedProcess) : Surroundings where
  exchange := .answered 200 12 none
  systemctl := { runtimeDir := text "/run/user/1000", runtimeDirExists := true, run := fun _ => run }
  session := none
  fdinfo _ := .error (.osError (text "[Errno 2] No such file or directory"))
  gpuPciSlot := []
  tcp := .error (.other [])
  systemd := .error (.other [])

/-- The bytes of `ActiveState=active`. -/
def activeOutput : CompletedProcess where
  returncode := some 0
  stdout := [65, 99, 116, 105, 118, 101, 83, 116, 97, 116, 101, 61, 97, 99, 116, 105, 118, 101, 10]
  stderr := []

def noBus : Except CheckError CompletedProcess := .error (.systemdQuery (text "no bus"))

/-- A unit that is read as active, and one that the manager would not tell of. -/
theorem checkService_keepsWorking_web :
    KeepsWorking asciiWording webService (around (.ok activeOutput)) webRef
      (checkService asciiWording webService (around (.ok activeOutput))) ∧
    KeepsWorking asciiWording webService (around noBus) webRef
      (checkService asciiWording webService (around noBus)) := by
  have kept : ∀ run, Understood (around run).systemctl (showArgs webRef.unit webService.holdsVram)
      webService.user → KeepsWorking asciiWording webService (around run) webRef
        (checkService asciiWording webService (around run)) := fun run understood =>
    (@checkService_keepsWorking_iff _ _ _ _ ⟨.ok, some 12, .empty⟩ rfl rfl rfl rfl rfl).mpr
      ⟨understood, nofun, nofun⟩
  exact ⟨kept _ (@Understood.ran _ _ _ activeOutput (text "ActiveState=active\n") [] rfl (by decide)
    (by decide)), kept _ (.refused rfl)⟩

/-- A `systemctl` that cannot be started makes a service that answers unreachable. -/
theorem unstarted_query_faults :
    ¬ ∀ (wording : Wording) (svc : CheckedService) (surroundings : Surroundings)
    (ref : SystemdRef) (reading : Reading), svc.kind = .http → svc.monitor = true →
      svc.systemd = some ref →
    checkHttp surroundings.exchange = .ok reading → reading.status = .ok →
    KeepsWorking wording svc surroundings ref (checkService wording svc surroundings) := by
  intro always
  let unstarted := around (.error (.osError (text "[Errno 11] Resource temporarily unavailable")))
  have keeps :=
    always asciiWording webService unstarted webRef ⟨.ok, some 12, .empty⟩ rfl rfl rfl rfl rfl
  have failed : queried asciiWording webService unstarted webRef =
      .error (.osError (text "[Errno 11] Resource temporarily unavailable")) := rfl
  have faulty : (checkService asciiWording webService unstarted).status ≠ .ok := by
    have status : (checkService asciiWording webService unstarted).status = .unreachable := rfl
    simp [status]
  rcases keeps.fault faulty with inactive | term
  · obtain ⟨info, found, _⟩ := inactive
    simp [failed] at found
  · exact absurd term.1 (by decide)

end SysadminAssistant.Monitor.HttpCheck
