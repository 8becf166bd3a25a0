import SysadminAssistant.Reload.JobPlan

namespace SysadminAssistant.Reload

open Python

/-! What `apply_jobs` leaves live, and what its report says of it. -/

variable {triggerText : TriggerText}

/-- The job is live as the plan has it: with its trigger, or not at all. -/
def Runs (triggerText : TriggerText) (jobs : Jobs) (spec : JobSpec) : Prop :=
  if spec.enabled then (triggerText spec.trigger).isSome ∧
    jobs.get? spec.jobId = triggerText spec.trigger
  else jobs.get? spec.jobId = none

theorem Runs.of_get {jobs other : Jobs} {spec : JobSpec} (runs : Runs triggerText jobs spec)
    (same : other.get? spec.jobId = jobs.get? spec.jobId) : Runs triggerText other spec := by
  simpa only [Runs, same] using runs

/-- The host does not bring the job to the plan: it refuses to, or the trigger is none. -/
def Balks (triggerText : TriggerText) (refuses : Bool) (spec : JobSpec) : Prop :=
  refuses = true ∨ (spec.enabled = true ∧ triggerText spec.trigger = none)

/-- What a sync has done to the job and tells of it. -/
def Outcome.isChange : Outcome → Bool
  | .added | .removed | .retimed => true
  | .unchanged => false

theorem syncJob_outcome (triggerText : TriggerText) (refuses : Bool) (spec : JobSpec) (jobs : Jobs) :
    (syncJob triggerText refuses spec jobs = none ∧ ¬ Runs triggerText jobs spec ∧
      Balks triggerText refuses spec) ∨
    ∃ outcome next, syncJob triggerText refuses spec jobs = some (outcome, next) ∧
      Runs triggerText next spec ∧ (∀ id, id ≠ spec.jobId → next.get? id = jobs.get? id) ∧
      ((Runs triggerText jobs spec ∧ next = jobs ∧ outcome.any Outcome.isChange = false) ∨
        (¬ Runs triggerText jobs spec ∧ ¬ Balks triggerText refuses spec ∧
          outcome.any Outcome.isChange = true)) := by
  cases enabled : spec.enabled with
  | false =>
    cases found : jobs.get? spec.jobId with
    | none =>
      refine Or.inr ⟨none, jobs,
        by simp [syncJob, enabled, found], ?_, fun _ _ => rfl, Or.inl ⟨?_, rfl, rfl⟩⟩
      all_goals simp [Runs, enabled, found]
    | some live =>
      have behind : ¬ Runs triggerText jobs spec := by simp [Runs, enabled, found]
      cases refuses with
      | true => exact Or.inl ⟨by simp [syncJob, enabled, found], behind, Or.inl rfl⟩
      | false =>
        refine Or.inr ⟨some .removed, jobs.erase spec.jobId,
          by simp [syncJob, enabled, found], ?_, ?_, Or.inr ⟨behind, by simp [Balks, enabled], rfl⟩⟩
        · simp [Runs, enabled, Dict.get?_erase]
        · intro id other
          rw [Dict.get?_erase, if_neg (Ne.symm other)]
  | true =>
    cases wanted : triggerText spec.trigger with
    | none =>
      exact Or.inl ⟨by simp [syncJob, enabled, wanted], by simp [Runs, enabled, wanted],
        Or.inr ⟨enabled, wanted⟩⟩
    | some trigger =>
      have put : Runs triggerText (jobs.set spec.jobId trigger) spec := by simp [Runs, enabled, wanted]
      have others : ∀ id, id ≠ spec.jobId → (jobs.set spec.jobId trigger).get? id = jobs.get? id :=
        fun id other => Dict.get?_set_other jobs trigger (Ne.symm other)
      cases found : jobs.get? spec.jobId with
      | none =>
        have behind : ¬ Runs triggerText jobs spec := by simp [Runs, enabled, wanted, found]
        cases refuses with
        | true => exact Or.inl ⟨by simp [syncJob, enabled, wanted, found], behind, Or.inl rfl⟩
        | false =>
          exact Or.inr ⟨some .added, _,
            by simp [syncJob, enabled, wanted, found], put, others, Or.inr ⟨behind, by simp [Balks, wanted], rfl⟩⟩
      | some live =>
        by_cases same : live = trigger
        · subst same
          refine Or.inr ⟨some .unchanged, jobs, by simp [syncJob, enabled, wanted, found], ?_,
            fun _ _ => rfl, Or.inl ⟨?_, rfl, rfl⟩⟩
          all_goals simp [Runs, enabled, wanted, found]
        · have stale : ¬ Runs triggerText jobs spec := by simp [Runs, enabled, wanted, found, same]
          cases refuses with
          | true => exact Or.inl ⟨by simp [syncJob, enabled, wanted, found, same], stale, Or.inl rfl⟩
          | false =>
            exact Or.inr ⟨some .retimed, _,
              by simp [syncJob, enabled, wanted, found, same], put, others, Or.inr ⟨stale, by simp [Balks, wanted], rfl⟩⟩

/-- A report says that the job was added, removed or re-timed. -/
def JobSyncReport.Changes (report : JobSyncReport) (id : JobId) : Prop :=
  id ∈ report.added ∨ id ∈ report.removed ∨ id ∈ report.retimed

/-- What the loop has done once it is through a plan. -/
structure Synced (triggerText : TriggerText) (refuses : JobId → Bool) (specs : List JobSpec)
    (jobs : Jobs) (final : Jobs) (report : JobSyncReport) : Prop where
  elsewhere : ∀ id, id ∉ specs.map JobSpec.jobId → final.get? id = jobs.get? id ∧
    ¬ report.Changes id ∧ id ∉ report.failed
  delivered : ∀ spec ∈ specs, spec.jobId ∉ report.failed → Runs triggerText final spec
  stale : ∀ spec ∈ specs, spec.jobId ∈ report.failed →
    ¬ Runs triggerText jobs spec ∧ final.get? spec.jobId = jobs.get? spec.jobId
  kept : ∀ spec ∈ specs, Runs triggerText jobs spec → final.get? spec.jobId = jobs.get? spec.jobId
  changed : ∀ spec ∈ specs, report.Changes spec.jobId ↔
    ¬ Runs triggerText jobs spec ∧ ¬ Balks triggerText (refuses spec.jobId) spec
  owed : ∀ leaf, leaf ∈ report.failedConfigPaths ↔
    ∃ spec ∈ specs, spec.jobId ∈ report.failed ∧ leaf ∈ spec.configPaths

theorem changes_note (report : JobSyncReport) (outcome : Option Outcome) {id other : JobId}
    (apart : other ≠ id) : (report.note id outcome).Changes other ↔ report.Changes other := by
  rcases outcome with _ | outcome
  · rfl
  · cases outcome <;> simp [JobSyncReport.Changes, JobSyncReport.note, apart]

theorem changes_note_self {report : JobSyncReport} {id : JobId} (fresh : ¬ report.Changes id)
    (outcome : Option Outcome) :
    (report.note id outcome).Changes id ↔ outcome.any Outcome.isChange = true := by
  simp only [JobSyncReport.Changes, not_or] at fresh
  rcases outcome with _ | outcome
  · simpa [JobSyncReport.Changes, JobSyncReport.note] using fresh
  · cases outcome <;> simp [JobSyncReport.Changes, JobSyncReport.note, fresh, Outcome.isChange]

@[simp] theorem note_failed (report : JobSyncReport) (id : JobId) (outcome : Option Outcome) :
    (report.note id outcome).failed = report.failed := by
  rcases outcome with _ | outcome
  · rfl
  · cases outcome <;> rfl

@[simp] theorem note_failedConfigPaths (report : JobSyncReport) (id : JobId)
    (outcome : Option Outcome) :
    (report.note id outcome).failedConfigPaths = report.failedConfigPaths := by
  rcases outcome with _ | outcome
  · rfl
  · cases outcome <;> rfl

theorem jobId_apart {spec : JobSpec} {rest : List JobSpec}
    (fresh : spec.jobId ∉ rest.map JobSpec.jobId) : ∀ later ∈ rest, later.jobId ≠ spec.jobId := by
  intro later member same
  exact fresh (same ▸ List.mem_map_of_mem member)

theorem Synced.fail {refuses : JobId → Bool} {spec : JobSpec} {rest : List JobSpec}
    {jobs final : Jobs} {report : JobSyncReport}
    (tail : Synced triggerText refuses rest jobs final report)
    (fresh : spec.jobId ∉ rest.map JobSpec.jobId) (behind : ¬ Runs triggerText jobs spec)
    (balks : Balks triggerText (refuses spec.jobId) spec) :
    Synced triggerText refuses (spec :: rest) jobs final { report with
      failed := spec.jobId :: report.failed
      failedConfigPaths := spec.configPaths ++ report.failedConfigPaths } := by
  have untouched := tail.elsewhere spec.jobId fresh
  have apart := @jobId_apart spec rest fresh
  constructor
  · intro id outside
    simp only [List.map_cons, List.mem_cons, not_or] at outside
    obtain ⟨same, idle, failed⟩ := tail.elsewhere id outside.2
    exact ⟨same, idle, by simp [outside.1, failed]⟩
  · intro later member succeeded
    simp only [List.mem_cons, not_or] at member succeeded
    rcases member with rfl | member
    · exact absurd rfl succeeded.1
    · exact tail.delivered later member succeeded.2
  · intro later member failed
    simp only [List.mem_cons] at member failed
    rcases member with rfl | member
    · exact ⟨behind, untouched.1⟩
    · exact tail.stale later member (failed.resolve_left (apart later member))
  · intro later member runs
    rcases List.mem_cons.mp member with rfl | member
    · exact absurd runs behind
    · exact tail.kept later member runs
  · intro later member
    rcases List.mem_cons.mp member with rfl | member
    · exact ⟨fun changes => absurd changes untouched.2.1, fun taken => absurd balks taken.2⟩
    · exact tail.changed later member
  · intro leaf
    have same : ∀ later ∈ rest, (later.jobId = spec.jobId ∨ later.jobId ∈ report.failed ↔
        later.jobId ∈ report.failed) := fun later member => by simp [apart later member]
    simp only [List.mem_append, List.mem_cons, exists_eq_or_imp, true_or, true_and, tail.owed leaf]
    constructor
    · intro listed
      rcases listed with own | ⟨later, member, failed, inside⟩
      · exact Or.inl own
      · exact Or.inr ⟨later, member, Or.inr failed, inside⟩
    · intro listed
      rcases listed with own | ⟨later, member, failed, inside⟩
      · exact Or.inl own
      · exact Or.inr ⟨later, member, (same later member).mp failed, inside⟩

theorem Synced.take {refuses : JobId → Bool} {spec : JobSpec} {rest : List JobSpec}
    {jobs next final : Jobs} {report : JobSyncReport} {outcome : Option Outcome}
    (tail : Synced triggerText refuses rest next final report)
    (fresh : spec.jobId ∉ rest.map JobSpec.jobId) (runs : Runs triggerText next spec)
    (others : ∀ id, id ≠ spec.jobId → next.get? id = jobs.get? id)
    (told : (Runs triggerText jobs spec ∧ next = jobs ∧ outcome.any Outcome.isChange = false) ∨
      (¬ Runs triggerText jobs spec ∧ ¬ Balks triggerText (refuses spec.jobId) spec ∧
        outcome.any Outcome.isChange = true)) :
    Synced triggerText refuses (spec :: rest) jobs final (report.note spec.jobId outcome) := by
  obtain ⟨untouched, idle, unfailed⟩ := tail.elsewhere spec.jobId fresh
  have apart := @jobId_apart spec rest fresh
  have same : ∀ later ∈ rest, (Runs triggerText next later ↔ Runs triggerText jobs later) := by
    intro later member
    have before := others later.jobId (apart later member)
    exact ⟨fun live => live.of_get before.symm, fun live => live.of_get before⟩
  constructor
  · intro id outside
    simp only [List.map_cons, List.mem_cons, not_or] at outside
    obtain ⟨before, quiet, failed⟩ := tail.elsewhere id outside.2
    rw [changes_note report outcome outside.1, note_failed]
    exact ⟨before.trans (others id outside.1), quiet, failed⟩
  · intro later member succeeded
    rw [note_failed] at succeeded
    rcases List.mem_cons.mp member with rfl | member
    · exact runs.of_get untouched
    · exact tail.delivered later member succeeded
  · intro later member failed
    rw [note_failed] at failed
    rcases List.mem_cons.mp member with rfl | member
    · exact absurd failed unfailed
    · obtain ⟨behind, still⟩ := tail.stale later member failed
      exact ⟨fun live => behind ((same later member).mpr live),
        still.trans (others _ (apart later member))⟩
  · intro later member already
    rcases List.mem_cons.mp member with rfl | member
    · rcases told with ⟨_, rfl, _⟩ | ⟨behind, _⟩
      · exact untouched
      · exact absurd already behind
    · exact (tail.kept later member ((same later member).mpr already)).trans
        (others _ (apart later member))
  · intro later member
    rcases List.mem_cons.mp member with rfl | member
    · rw [changes_note_self idle outcome]
      rcases told with ⟨live, _, quiet⟩ | ⟨behind, takes, changes⟩
      · simp [live, quiet]
      · simp [behind, takes, changes]
    · rw [changes_note report outcome (apart later member), tail.changed later member,
        same later member]
  · intro leaf
    simp only [note_failedConfigPaths, note_failed, List.mem_cons, exists_eq_or_imp,
      unfailed, false_and, false_or, tail.owed leaf]

theorem applyFrom_synced (triggerText : TriggerText) (refuses : JobId → Bool) {specs : List JobSpec}
    (jobs : Jobs) (nodup : (specs.map JobSpec.jobId).Nodup) :
    Synced triggerText refuses specs jobs (applyFrom triggerText refuses specs jobs).1
      (applyFrom triggerText refuses specs jobs).2 := by
  induction specs generalizing jobs with
  | nil => constructor <;> simp [applyFrom, JobSyncReport.Changes]
  | cons spec rest ih =>
    obtain ⟨fresh, nodup⟩ := List.nodup_cons.mp nodup
    rcases syncJob_outcome triggerText (refuses spec.jobId) spec jobs with
      ⟨failed, behind, balks⟩ | ⟨outcome, next, taken, runs, others, told⟩
    · simp only [applyFrom, failed]
      exact (ih jobs nodup).fail fresh behind balks
    · simp only [applyFrom, taken]
      exact (ih next nodup).take fresh runs others told

theorem applyJobs_synced (triggerText : TriggerText) (refuses : JobId → Bool) (config : AppConfig)
    (jobs : Jobs) :
    Synced triggerText refuses (planJobs config) jobs (applyJobs triggerText refuses config jobs).1
      (applyJobs triggerText refuses config jobs).2 := by
  have synced := applyFrom_synced triggerText refuses jobs (planJobs_nodup config)
  exact ⟨synced.elsewhere, synced.delivered, synced.stale, synced.kept, synced.changed,
    fun leaf => mem_sortedLeaves.trans (synced.owed leaf)⟩

end SysadminAssistant.Reload
