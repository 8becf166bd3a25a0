import SysadminAssistant.Library.StepHistory
import SysadminAssistant.Python.Json
import SysadminAssistant.Reload.JobPlan
import SysadminAssistant.Reload.SyncedJobs

namespace SysadminAssistant.Reload

open Python Library

/-! `sysadmin/reload.py`: both configuration files are read again, and installed or refused
together. -/

def restartOnly : List Text := [text "service", text "database"]

/-- Under one of the prefixes, or one of them. -/
def isUnder (path : Text) (prefixes : List Text) : Bool :=
  prefixes.any fun above => path = above || (above ++ text ".").isPrefixOf path

def changedUnder (old new : AppConfig) (prefixes : List Text) : List Leaf :=
  (Leaf.all.insertionSort fun left right => left.path ≤ right.path).filter fun leaf =>
    isUnder leaf.path prefixes && old.leaf leaf ≠ new.leaf leaf

def changedRestartOnly (old new : AppConfig) : List Leaf := changedUnder old new restartOnly

def changedJobPaths (old new : AppConfig) : List Leaf :=
  changedUnder old new (jobConfigPaths.map Leaf.path)

/-- The services of a file: each name with the dump of its entry. -/
abbrev ServicesFile := List (Text × Json)

def sortedNames (names : List Text) : List Text := names.insertionSort fun left right => left ≤ right

/-- Added, removed and altered service names. -/
def diffServices (old new : ServicesFile) : List Text × List Text × List Text :=
  let oldByName := Dict.ofEntries old
  let newByName := Dict.ofEntries new
  (sortedNames (newByName.keys.filter fun name => name ∉ oldByName.keys),
    sortedNames (oldByName.keys.filter fun name => name ∉ newByName.keys),
    sortedNames (newByName.keys.filter fun name =>
      match oldByName.get? name, newByName.get? name with
      | some before, some after => !Json.equal before after
      | _, _ => false))

structure ReloadReport where
  ok : Bool
  error : Option Text := none
  requiresRestart : List Leaf := []
  servicesAdded : List Text := []
  servicesRemoved : List Text := []
  servicesChanged : List Text := []
  servicesTotal : Nat := 0
  jobsSynced : Bool := false
  jobsAdded : List JobId := []
  jobsRemoved : List JobId := []
  jobsRetimed : List JobId := []

/-- The files, as `parse_config` and `load_services` read them; the services are checked against
the registry that the new configuration names. -/
structure Files where
  config : Except Text AppConfig
  services : AppConfig → Except Text ServicesFile

/-- `sync_jobs`: not given, raising, or `apply_jobs` on a host that refuses some jobs. -/
inductive Syncer where
  | absent
  | raises
  | present (refuses : JobId → Bool)

/-- What is installed, and the live jobs. -/
structure Daemon where
  config : AppConfig
  services : ServicesFile
  jobs : Jobs

def refused (error : Text) : ReloadReport := { ok := false, error := some error }

def reloadConfiguration (triggerText : TriggerText) (files : Files) (syncer : Syncer)
    (daemon : Daemon) : Daemon × ReloadReport :=
  match files.config with
  | .error error => (daemon, refused (text "config.yaml: " ++ error))
  | .ok newConfig => match files.services newConfig with
      | .error error => (daemon, refused (text "services.yaml: " ++ error))
      | .ok newServices =>
        let requiresRestart := changedRestartOnly daemon.config newConfig
        let (added, removed, changed) := diffServices daemon.services newServices
        let (jobs, sync) := match syncer with
          | .present refuses =>
            let (jobs, report) := applyJobs triggerText refuses newConfig daemon.jobs
            (jobs, some report)
          | _ => (daemon.jobs, none)
        let owed := match sync with
          | some report => report.failedConfigPaths
          | none => changedJobPaths daemon.config newConfig
        let report := sync.getD {}
        ({ config := newConfig, services := newServices, jobs := jobs }, {
          ok := true
          requiresRestart := sortedLeaves (requiresRestart ++ owed)
          servicesAdded := added
          servicesRemoved := removed
          servicesChanged := changed
          servicesTotal := newServices.length
          jobsSynced := sync.isSome
          jobsAdded := report.added
          jobsRemoved := report.removed
          jobsRetimed := report.retimed })

/-- The lifespan: the first read, and the same `apply_jobs`. -/
def startDaemon (triggerText : TriggerText) (refuses : JobId → Bool) (config : AppConfig)
    (services : ServicesFile) : Daemon where
  config := config
  services := services
  jobs := (applyJobs triggerText refuses config Dict.empty).1

/-! What the functions do, one lemma for each. -/

theorem mem_changedUnder {old new : AppConfig} {prefixes : List Text} {leaf : Leaf} :
    leaf ∈ changedUnder old new prefixes ↔
      isUnder leaf.path prefixes = true ∧ old.leaf leaf ≠ new.leaf leaf := by
  simp [changedUnder, Leaf.mem_all]

/-- Read once, at startup. -/
def Leaf.isRestartOnly (leaf : Leaf) : Bool := isUnder leaf.path restartOnly

theorem isUnder_jobConfigPaths (leaf : Leaf) :
    isUnder leaf.path (jobConfigPaths.map Leaf.path) = true ↔ leaf ∈ jobConfigPaths := by
  have each : Leaf.all.all (fun leaf =>
      isUnder leaf.path (jobConfigPaths.map Leaf.path) == decide (leaf ∈ jobConfigPaths)) = true := by
    decide +kernel
  have this := List.all_eq_true.mp each leaf (Leaf.mem_all leaf)
  rw [beq_iff_eq.mp this, decide_eq_true_iff]

theorem jobPath_not_restartOnly {leaf : Leaf} (member : leaf ∈ jobConfigPaths) :
    leaf.isRestartOnly = false := by
  have each : jobConfigPaths.all (fun leaf => !leaf.isRestartOnly) = true := by decide +kernel
  simpa using List.all_eq_true.mp each leaf member

theorem mem_changedRestartOnly {old new : AppConfig} {leaf : Leaf} :
    leaf ∈ changedRestartOnly old new ↔ leaf.isRestartOnly = true ∧ old.leaf leaf ≠ new.leaf leaf :=
  mem_changedUnder

theorem mem_changedJobPaths {old new : AppConfig} {leaf : Leaf} :
    leaf ∈ changedJobPaths old new ↔ leaf ∈ jobConfigPaths ∧ old.leaf leaf ≠ new.leaf leaf := by
  rw [changedJobPaths, mem_changedUnder, isUnder_jobConfigPaths]

/-! The report of a reload, against what the process runs with: the configuration that it was
started with, and for each job the one that the scheduler was last brought to. -/

instance (triggerText : TriggerText) (jobs : Jobs) (spec : JobSpec) :
    Decidable (Runs triggerText jobs spec) := by
  unfold Runs
  infer_instance

structure Process where
  daemon : Daemon
  started : AppConfig
  builtFrom : JobId → Option AppConfig

structure Call where
  files : Files
  syncer : Syncer

section Runs

variable (triggerText : TriggerText)

def Process.start (refuses : JobId → Bool) (config : AppConfig) (services : ServicesFile) : Process :=
  let daemon := startDaemon triggerText refuses config services
  { daemon := daemon
    started := config
    builtFrom :=
      fun id => if Runs triggerText daemon.jobs (jobSpec config id) then some config else none }

/-- One call: a job that a sync has left as planned is built from the new configuration. -/
def Process.reload (process : Process) (call : Call) : Process × ReloadReport :=
  let (daemon, report) := reloadConfiguration triggerText call.files call.syncer process.daemon
  ({ process with
      daemon := daemon
      builtFrom := fun id =>
        if report.jobsSynced ∧ Runs triggerText daemon.jobs (jobSpec daemon.config id)
          then some daemon.config
        else process.builtFrom id }, report)

def Process.step (process : Process) (call : Call) : Option Process :=
  some (process.reload triggerText call).1

/-- The job behind the leaf was built with another value of it, or never. -/
def Process.Differs (process : Process) (config : AppConfig) (id : JobId) (leaf : Leaf) : Prop :=
  (process.builtFrom id).map (fun built => built.leaf leaf) ≠ some (config.leaf leaf)

/-- A report says that the job was added, removed or re-timed. -/
def ReloadReport.Changes (report : ReloadReport) (id : JobId) : Prop :=
  id ∈ report.jobsAdded ∨ id ∈ report.jobsRemoved ∨ id ∈ report.jobsRetimed

/-- What a call reports `ok` has done, and what it says of it. -/
structure Reported (before after : Process) (report : ReloadReport) : Prop where
  scheduled : ∀ id, Runs triggerText after.daemon.jobs (jobSpec after.daemon.config id) ∨
    ((report.jobsSynced → ∀ leaf ∈ (jobSpec after.daemon.config id).configPaths,
      leaf ∈ report.requiresRestart) ∧ ∃ leaf ∈ (jobSpec after.daemon.config id).configPaths,
        after.Differs after.daemon.config id leaf ∧ leaf ∈ report.requiresRestart)
  untouched : ∀ id, Runs triggerText before.daemon.jobs (jobSpec after.daemon.config id) →
    after.daemon.jobs.get? id = before.daemon.jobs.get? id ∧ ¬ report.Changes id
  reapplied : before.daemon.config = after.daemon.config → ∀ id, ¬ report.Changes id
  restart : ∀ leaf, leaf.isRestartOnly →
    (leaf ∈ report.requiresRestart ↔ after.daemon.config.leaf leaf ≠ after.started.leaf leaf)
  owed : ∀ id, ∀ leaf ∈ (jobSpec after.daemon.config id).configPaths,
    after.Differs after.daemon.config id leaf → leaf ∈ report.requiresRestart
  sound : ∀ leaf ∈ report.requiresRestart, leaf.isRestartOnly ∨
    ∃ id, leaf ∈ (jobSpec after.daemon.config id).configPaths ∧
      (¬ Runs triggerText after.daemon.jobs (jobSpec after.daemon.config id) ∨
        after.Differs after.daemon.config id leaf)

/-- A reload is atomic, and its report says what is owed. -/
structure Honest (before : Process) (call : Call) : Prop where
  refused : (∀ config services, call.files.config = .ok config →
    call.files.services config ≠ .ok services) → (before.reload triggerText call).2.ok = false ∧
      (before.reload triggerText call).1.daemon = before.daemon
  installed : ∀ config services, call.files.config = .ok config →
    call.files.services config = .ok services → (before.reload triggerText call).2.ok = true ∧
      (before.reload triggerText call).1.daemon.config = config ∧
      (before.reload triggerText call).1.daemon.services = services ∧
      Reported triggerText before (before.reload triggerText call).1 (before.reload triggerText call).2

def Syncer.isPresent : Syncer → Bool
  | .present _ => true
  | _ => false

/-- Nothing that an earlier call left owing is left as it is, and nothing is set back; the
configuration that is installed brings no job that the host had not taken. -/
structure SettledFor (before : Process) (config : AppConfig) (syncer : Syncer) : Prop where
  restart : ∀ leaf, leaf.isRestartOnly →
    (before.daemon.config.leaf leaf = config.leaf leaf ↔ before.started.leaf leaf = config.leaf leaf)
  reapplied : before.daemon.config = config → ∀ refuses, syncer = .present refuses →
    ∀ id, ¬ Runs triggerText before.daemon.jobs (jobSpec config id) →
      Balks triggerText (refuses id) (jobSpec config id)
  owing : syncer.isPresent = false → ∀ id, ∀ leaf ∈ (jobSpec config id).configPaths,
    before.Differs config id leaf → before.daemon.config.leaf leaf ≠ config.leaf leaf
  edited : syncer.isPresent = false → ∀ leaf ∈ jobConfigPaths,
    before.daemon.config.leaf leaf ≠ config.leaf leaf → ∃ id, leaf ∈ (jobSpec config id).configPaths ∧
      (¬ Runs triggerText before.daemon.jobs (jobSpec config id) ∨ before.Differs config id leaf)

def Settled (before : Process) (call : Call) : Prop :=
  ∀ config services, call.files.config = .ok config → call.files.services config = .ok services →
    SettledFor triggerText before config call.syncer

/-- Each live job is the one of the configuration that it was built from. -/
def Built (process : Process) : Prop :=
  ∀ id, match process.builtFrom id with
    | some config => Runs triggerText process.daemon.jobs (jobSpec config id)
    | none => process.daemon.jobs.get? id = none

end Runs

section Proofs

variable {triggerText : TriggerText}

theorem reloadConfiguration_refused (triggerText : TriggerText) {files : Files} (syncer : Syncer)
    (daemon : Daemon) (invalid : ∀ config services, files.config = .ok config →
      files.services config ≠ .ok services) :
    ∃ error, reloadConfiguration triggerText files syncer daemon = (daemon, refused error) := by
  cases parsed : files.config with
  | error reason => exact ⟨text "config.yaml: " ++ reason, by simp only [reloadConfiguration, parsed]⟩
  | ok config =>
    cases loaded : files.services config with
    | error reason =>
      exact ⟨text "services.yaml: " ++ reason,
        by simp only [reloadConfiguration, parsed, loaded]⟩
    | ok services => exact absurd loaded (invalid config services parsed)

/-- What an installing call makes of the jobs, whichever syncer it has. -/
structure Installed (triggerText : TriggerText) (before : Daemon) (config : AppConfig)
    (services : ServicesFile) (syncer : Syncer) (after : Daemon) (report : ReloadReport) :
    Prop where
  ok : report.ok = true
  newConfig : after.config = config
  newServices : after.services = services
  synced : report.jobsSynced = syncer.isPresent
  listed : ∀ leaf, leaf ∈ report.requiresRestart ↔
    (leaf.isRestartOnly = true ∧ before.config.leaf leaf ≠ config.leaf leaf) ∨
    if syncer.isPresent then ∃ id, ¬ Runs triggerText after.jobs (jobSpec config id) ∧
      leaf ∈ (jobSpec config id).configPaths
    else leaf ∈ jobConfigPaths ∧ before.config.leaf leaf ≠ config.leaf leaf
  kept : ∀ id, Runs triggerText before.jobs (jobSpec config id) →
    after.jobs.get? id = before.jobs.get? id
  changed : ∀ id, report.Changes id ↔ ∃ refuses, syncer = .present refuses ∧
    ¬ Runs triggerText before.jobs (jobSpec config id) ∧
      ¬ Balks triggerText (refuses id) (jobSpec config id)
  missed : ∀ id, Runs triggerText after.jobs (jobSpec config id) ∨
    after.jobs.get? id = before.jobs.get? id
  idle : syncer.isPresent = false → after.jobs = before.jobs

theorem jobSpec_mem (config : AppConfig) (id : JobId) : jobSpec config id ∈ planJobs config := by
  rw [mem_planJobs, jobSpec_jobId]

theorem applyJobs_failed (triggerText : TriggerText) (refuses : JobId → Bool) (config : AppConfig)
    (jobs : Jobs) (id : JobId) : id ∈ (applyJobs triggerText refuses config jobs).2.failed ↔
      ¬ Runs triggerText (applyJobs triggerText refuses config jobs).1 (jobSpec config id) := by
  have synced := applyJobs_synced triggerText refuses config jobs
  have member := jobSpec_mem config id
  constructor
  · intro failed
    obtain ⟨behind, same⟩ := synced.stale _ member (by rwa [jobSpec_jobId])
    exact fun runs => behind (runs.of_get same.symm)
  · intro behind
    by_contra succeeded
    exact behind (synced.delivered _ member (by rwa [jobSpec_jobId]))

theorem reloadConfiguration_installed (triggerText : TriggerText) {files : Files} (syncer : Syncer)
    (daemon : Daemon) {config : AppConfig} {services : ServicesFile}
    (parsed : files.config = .ok config) (loaded : files.services config = .ok services) :
    Installed triggerText daemon config services syncer
      (reloadConfiguration triggerText files syncer daemon).1
      (reloadConfiguration triggerText files syncer daemon).2 := by
  have unsynced : ∀ syncer : Syncer, syncer.isPresent = false →
      Installed triggerText daemon config services syncer
        (reloadConfiguration triggerText files syncer daemon).1
        (reloadConfiguration triggerText files syncer daemon).2 := by
    intro syncer away
    cases syncer with
    | present refuses => cases away
    | absent | raises =>
      constructor <;> simp [reloadConfiguration, parsed, loaded, Syncer.isPresent,
        mem_sortedLeaves, mem_changedRestartOnly, mem_changedJobPaths, ReloadReport.Changes]
  cases syncer with
  | absent => exact unsynced .absent rfl
  | raises => exact unsynced .raises rfl
  | present refuses =>
    have synced := applyJobs_synced triggerText refuses config daemon.jobs
    have failed := applyJobs_failed triggerText refuses config daemon.jobs
    constructor
    case ok | newConfig | newServices | synced | idle =>
      simp [reloadConfiguration, parsed, loaded, Syncer.isPresent]
    case listed =>
      intro leaf
      simp only [reloadConfiguration, parsed, loaded, Syncer.isPresent, if_true, mem_sortedLeaves,
        List.mem_append, mem_changedRestartOnly, synced.owed]
      refine or_congr Iff.rfl ⟨?_, ?_⟩
      · intro owed
        obtain ⟨spec, member, unsuccessful, inside⟩ := owed
        rw [mem_planJobs] at member
        exact ⟨spec.jobId, (failed _).mp unsuccessful, member ▸ inside⟩
      · intro owed
        obtain ⟨id, behind, inside⟩ := owed
        exact ⟨_, jobSpec_mem config id, by rw [jobSpec_jobId]; exact (failed id).mpr behind, inside⟩
    case kept =>
      intro id runs
      simpa only [reloadConfiguration, parsed, loaded, jobSpec_jobId] using
        synced.kept _ (jobSpec_mem config id) runs
    case changed =>
      intro id
      have changed := synced.changed _ (jobSpec_mem config id)
      rw [jobSpec_jobId] at changed
      simpa [reloadConfiguration, parsed, loaded, ReloadReport.Changes, JobSyncReport.Changes]
        using changed
    case missed =>
      intro id
      simp only [reloadConfiguration, parsed, loaded]
      by_cases unsuccessful : id ∈ (applyJobs triggerText refuses config daemon.jobs).2.failed
      · have stale := synced.stale _ (jobSpec_mem config id) (by rwa [jobSpec_jobId])
        rw [jobSpec_jobId] at stale
        exact Or.inr stale.2
      · exact Or.inl (not_not.mp fun behind => unsuccessful ((failed id).mpr behind))

/-! The invariant. -/

theorem Built.start (triggerText : TriggerText) (refuses : JobId → Bool) (config : AppConfig)
    (services : ServicesFile) :
    Built triggerText (Process.start triggerText refuses config services) := by
  intro id
  have synced := applyJobs_synced triggerText refuses config Dict.empty
  by_cases runs : Runs triggerText (applyJobs triggerText refuses config Dict.empty).1
    (jobSpec config id)
  · simp [Process.start, startDaemon, runs]
  · have failed := (applyJobs_failed triggerText refuses config Dict.empty id).mpr runs
    obtain ⟨_, same⟩ := synced.stale _ (jobSpec_mem config id) (by rwa [jobSpec_jobId])
    rw [jobSpec_jobId] at same
    simp [Process.start, startDaemon, runs, same]

theorem Built.reload {process : Process} (built : Built triggerText process) (call : Call) :
    Built triggerText (process.reload triggerText call).1 := by
  intro id
  have same_built := built id
  by_cases valid : ∃ config services, call.files.config = .ok config ∧
    call.files.services config = .ok services
  · obtain ⟨config, services, parsed, loaded⟩ := valid
    have installed :=
      reloadConfiguration_installed triggerText call.syncer process.daemon parsed loaded
    by_cases delivered : call.syncer.isPresent = true ∧ Runs triggerText
        (reloadConfiguration triggerText call.files call.syncer process.daemon).1.jobs
          (jobSpec config id)
    · simp [Process.reload, installed.synced, installed.newConfig, delivered]
    · have same :
          (reloadConfiguration triggerText call.files call.syncer process.daemon).1.jobs.get? id =
          process.daemon.jobs.get? id := by
        cases present : call.syncer.isPresent with
        | false => rw [installed.idle present]
        | true => exact (installed.missed id).resolve_left fun runs => delivered ⟨present, runs⟩
      simp only [Process.reload, installed.synced, installed.newConfig, delivered, if_false]
      cases origin : process.builtFrom id with
      | none => simpa [origin, same] using same_built
      | some config =>
        rw [origin] at same_built
        exact same_built.of_get (by rwa [jobSpec_jobId])
  · obtain ⟨error, unchanged⟩ := reloadConfiguration_refused triggerText call.syncer process.daemon
      fun config services parsed loaded => valid ⟨config, services, parsed, loaded⟩
    simpa [Process.reload, unchanged, refused] using same_built

theorem Built.differs {process : Process} (built : Built triggerText process) {config : AppConfig}
    {id : JobId} (behind : ¬ Runs triggerText process.daemon.jobs (jobSpec config id)) :
    ∃ leaf ∈ (jobSpec config id).configPaths, process.Differs config id leaf := by
  by_contra none
  simp only [not_exists, not_and, Process.Differs, not_not] at none
  have source := built id
  cases origin : process.builtFrom id with
  | none =>
    have leaf : ∃ leaf, leaf ∈ (jobSpec config id).configPaths := by
      cases id <;> exact ⟨_, List.mem_cons_self⟩
    obtain ⟨leaf, member⟩ := leaf
    simpa [origin] using none leaf member
  | some from_ =>
    rw [origin] at source
    have same : ∀ leaf ∈ (jobSpec from_ id).configPaths, from_.leaf leaf = config.leaf leaf := by
      intro leaf member
      rw [configPaths_fixed from_ config] at member
      simpa [origin] using none leaf member
    obtain ⟨enabled, trigger⟩ := jobSpec_determined same
    apply behind
    simpa only [Runs, enabled, trigger, jobSpec_jobId] using source

/-- An installing call of the process. -/
structure Moved (triggerText : TriggerText) (before : Process) (config : AppConfig)
    (services : ServicesFile) (syncer : Syncer) (after : Process) (report : ReloadReport) :
    Prop where
  installed : Installed triggerText before.daemon config services syncer after.daemon report
  started : after.started = before.started
  builtFrom : ∀ id, after.builtFrom id =
    if syncer.isPresent ∧ Runs triggerText after.daemon.jobs (jobSpec config id) then some config
    else before.builtFrom id
  isBuilt : Built triggerText after

theorem Process.reload_moved {before : Process} {call : Call} {config : AppConfig}
    {services : ServicesFile} (built : Built triggerText before)
    (parsed : call.files.config = .ok config) (loaded : call.files.services config = .ok services) :
    Moved triggerText before config services call.syncer (before.reload triggerText call).1
      (before.reload triggerText call).2 := by
  have installed := reloadConfiguration_installed triggerText call.syncer before.daemon parsed loaded
  refine ⟨installed, rfl, ?_, built.reload call⟩
  intro id
  simp only [Process.reload, installed.synced, installed.newConfig]

namespace Moved

variable {before after : Process} {config : AppConfig} {services : ServicesFile} {syncer : Syncer}
  {report : ReloadReport} (moved : Moved triggerText before config services syncer after report)

include moved

theorem differs {id : JobId} {leaf : Leaf} : after.Differs config id leaf ↔
    ¬ (syncer.isPresent = true ∧ Runs triggerText after.daemon.jobs (jobSpec config id)) ∧
      before.Differs config id leaf := by
  simp only [Process.Differs, moved.builtFrom]
  split
  next delivered => simp [delivered]
  next missed => simp [missed]

theorem listed_restart {leaf : Leaf} (restartOnly : leaf.isRestartOnly = true) :
    leaf ∈ report.requiresRestart ↔ before.daemon.config.leaf leaf ≠ config.leaf leaf := by
  have apart : leaf ∉ jobConfigPaths := by
    intro member
    rw [jobPath_not_restartOnly member] at restartOnly
    cases restartOnly
  have nobody : ∀ id, leaf ∉ (jobSpec config id).configPaths := fun id inside =>
    apart (mem_jobConfigPaths.mpr ⟨_, jobSpec_mem config id, inside⟩)
  rw [moved.installed.listed leaf]
  simp [restartOnly, apart, nobody]

theorem listed_job {id : JobId} {leaf : Leaf} (inside : leaf ∈ (jobSpec config id).configPaths)
    (behind : syncer.isPresent = true → ¬ Runs triggerText after.daemon.jobs (jobSpec config id))
    (edited : syncer.isPresent = false → before.daemon.config.leaf leaf ≠ config.leaf leaf) :
    leaf ∈ report.requiresRestart := by
  rw [moved.installed.listed leaf]
  cases present : syncer.isPresent with
  | true => exact Or.inr (by simpa using ⟨id, behind present, inside⟩)
  | false =>
    have member := mem_jobConfigPaths.mpr ⟨_, jobSpec_mem config id, inside⟩
    exact Or.inr (by simpa using ⟨member, edited present⟩)

theorem listed_unsynced (away : syncer.isPresent = false) {leaf : Leaf}
    (member : leaf ∈ jobConfigPaths) :
    leaf ∈ report.requiresRestart ↔ before.daemon.config.leaf leaf ≠ config.leaf leaf := by
  rw [moved.installed.listed leaf]
  simp [away, member, jobPath_not_restartOnly member]

theorem settled (reported : Reported triggerText before after report) :
    SettledFor triggerText before config syncer := by
  have newConfig := moved.installed.newConfig
  constructor
  · intro leaf restartOnly
    have claimed := reported.restart leaf restartOnly
    rw [moved.listed_restart restartOnly, newConfig, moved.started] at claimed
    rw [← not_iff_not, eq_comm (a := before.started.leaf leaf)]
    exact claimed
  · intro same refuses present id behind
    by_contra takes
    exact reported.reapplied (same.trans newConfig.symm) id
      ((moved.installed.changed id).mpr ⟨refuses, present, behind, takes⟩)
  · intro away id leaf inside differs
    have owed := reported.owed id leaf (newConfig.symm ▸ inside)
      (newConfig.symm ▸ moved.differs.mpr ⟨by simp [away], differs⟩)
    exact (moved.listed_unsynced away
      (mem_jobConfigPaths.mpr ⟨_, jobSpec_mem config id, inside⟩)).mp owed
  · intro away leaf member edited
    rcases reported.sound leaf ((moved.listed_unsynced away member).mpr edited) with restartOnly
      | ⟨id, inside, why⟩
    · rw [jobPath_not_restartOnly member] at restartOnly
      cases restartOnly
    · rw [newConfig] at inside why
      rw [moved.installed.idle away, moved.differs] at why
      exact ⟨id, inside, why.imp_right And.right⟩

theorem reported (settled : SettledFor triggerText before config syncer) :
    Reported triggerText before after report := by
  have newConfig := moved.installed.newConfig
  have owed : ∀ id, ∀ leaf ∈ (jobSpec config id).configPaths, after.Differs config id leaf →
      leaf ∈ report.requiresRestart := by
    intro id leaf inside differs
    obtain ⟨undelivered, differed⟩ := moved.differs.mp differs
    exact moved.listed_job inside (fun present runs => undelivered ⟨present, runs⟩)
      fun away => settled.owing away id leaf inside differed
  constructor
  all_goals rw [newConfig]
  · intro id
    by_cases runs : Runs triggerText after.daemon.jobs (jobSpec config id)
    · exact Or.inl runs
    · obtain ⟨leaf, inside, differs⟩ := moved.isBuilt.differs runs
      refine Or.inr ⟨?_, leaf, inside, differs, owed id leaf inside differs⟩
      intro synced other inside
      rw [moved.installed.synced] at synced
      exact moved.listed_job inside (fun _ => runs) fun away => by simp [away] at synced
  · intro id runs
    refine ⟨moved.installed.kept id runs, fun changes => ?_⟩
    obtain ⟨_, _, behind, _⟩ := (moved.installed.changed id).mp changes
    exact behind runs
  · intro same id changes
    obtain ⟨refuses, present, behind, takes⟩ := (moved.installed.changed id).mp changes
    exact takes (settled.reapplied same refuses present id behind)
  · intro leaf restartOnly
    rw [moved.listed_restart restartOnly, moved.started, ne_comm (a := config.leaf leaf)]
    exact not_congr (settled.restart leaf restartOnly)
  · exact owed
  · intro leaf listed
    cases restartOnly : leaf.isRestartOnly with
    | true => exact Or.inl rfl
    | false =>
      refine Or.inr ?_
      cases present : syncer.isPresent with
      | true =>
        rw [moved.installed.listed leaf] at listed
        simp only [restartOnly, Bool.false_eq_true, false_and, present, if_true, false_or] at listed
        obtain ⟨id, behind, inside⟩ := listed
        exact ⟨id, inside, Or.inl behind⟩
      | false =>
        have member : leaf ∈ jobConfigPaths := by
          rw [moved.installed.listed leaf] at listed
          simp only [restartOnly, Bool.false_eq_true, false_and, present, if_false, false_or] at listed
          exact listed.1
        obtain ⟨id, inside, why⟩ := settled.edited present leaf member
          ((moved.listed_unsynced present member).mp listed)
        refine ⟨id, inside, ?_⟩
        rw [moved.installed.idle present, moved.differs]
        exact why.imp_right fun differed => ⟨by simp [present], differed⟩

end Moved

theorem honest_iff_settled {before : Process} {call : Call} (built : Built triggerText before) :
    Honest triggerText before call ↔ Settled triggerText before call := by
  constructor
  · intro honest config services parsed loaded
    have moved := Process.reload_moved built parsed loaded
    exact moved.settled (honest.installed config services parsed loaded).2.2.2
  · intro settled
    constructor
    · intro invalid
      obtain ⟨error, unchanged⟩ :=
        reloadConfiguration_refused triggerText call.syncer before.daemon invalid
      simp [Process.reload, unchanged, refused]
    · intro config services parsed loaded
      have moved := Process.reload_moved built parsed loaded
      exact ⟨moved.installed.ok, moved.installed.newConfig, moved.installed.newServices,
        moved.reported (settled config services parsed loaded)⟩

/-- Over any run of calls since the process was started, every call is atomic and reports honestly
exactly if no call leaves as it is what an earlier one left owing, or sets it back. -/
theorem reload_reports_honestly (triggerText : TriggerText) (refuses : JobId → Bool)
    (config : AppConfig) (services : ServicesFile) (calls : List Call) :
    Throughout (Process.step triggerText) (Honest triggerText)
        (Process.start triggerText refuses config services) calls ↔
      Throughout (Process.step triggerText) (Settled triggerText)
        (Process.start triggerText refuses config services) calls := by
  have steps : ∀ {before after : Process} {call : Call}, Built triggerText before →
      before.step triggerText call = some after → Built triggerText after := by
    intro before after call built stepped
    cases stepped
    exact built.reload call
  exact Throughout.congr steps honest_iff_settled (Built.start triggerText refuses config services)

/-! The port is edited, and the reload is asked for a second time. -/

def shownTrigger : TriggerText
  | .everySeconds seconds => some (text "interval[" ++ intText seconds ++ text "]")
  | .everyHours hours => some (text "interval[" ++ intText (3600 * hours) ++ text "]")
  | .cron hour minute day =>
    some (text "cron[" ++ day ++ text " " ++ intText hour ++ text ":" ++ intText minute ++ text "]")

def shipped : AppConfig := { discoveryDepth := 3 }

def edited : AppConfig := { shipped with service := { port := 9000 } }

def editedCall : Call where
  files := { config := .ok edited, services := fun _ => .ok [] }
  syncer := .present fun _ => false

/-- A job was refused as the process started, and is taken by the first reload. -/
def sameCall : Call where
  files := { config := .ok shipped, services := fun _ => .ok [] }
  syncer := .present fun _ => false

theorem second_reload_forgets_port :
    (¬ Throughout (Process.step shownTrigger) (Honest shownTrigger)
      (Process.start shownTrigger (fun _ => false) shipped []) [editedCall, editedCall]) ∧
    ¬ Throughout (Process.step shownTrigger) (Honest shownTrigger)
      (Process.start shownTrigger (fun id => id = .retentionPurge) shipped []) [sameCall] := by
  constructor
  · intro honest
    obtain ⟨_, second, _⟩ := honest
    have built := (Built.start shownTrigger (fun _ => false) shipped []).reload editedCall
    have settled := (honest_iff_settled built).mp second edited [] rfl rfl
    have same := (settled.restart .servicePort (by decide)).mp rfl
    exact absurd same (by decide)
  · intro honest
    have reported := (honest.1.installed shipped [] rfl rfl).2.2.2
    exact reported.reapplied rfl .retentionPurge (Or.inl (by decide))

end Proofs

end SysadminAssistant.Reload
