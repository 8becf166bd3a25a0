import SysadminAssistant.Monitor.JournalHorizon
import SysadminAssistant.Monitor.HealthRun

namespace SysadminAssistant.Monitor

open Python SysadminAssistant.Core Library

/-! What a committed run leaves open: the sweep against the judgements and the rows that
stood before. -/

/-- A service the run measured as neither ok nor skipped. -/
def MeasuredUnhealthy (run : HealthRun) (serviceName : Text) : Prop :=
  ∃ check ∈ run.checks, serviceName = check.entry.name ∧ check.status ≠ .ok ∧ check.status ≠ .skipped

/-- Judging, dedup and sweep agree about a title. -/
structure Agrees (before after : AlertTable) (run : HealthRun) (judgedTitles : List Text)
    (title : Text) : Prop where
  stands : (openId after sysadmin title).isSome ↔ title ∈ judgedTitles ∨
    (openId before sysadmin title).isSome ∧
      ∃ serviceName kind, title = serviceAlertTitle serviceName kind ∧
        MeasuredUnhealthy run serviceName
  sameRow : ∀ id, openId before sysadmin title = some id → (openId after sysadmin title).isSome →
    openId after sysadmin title = some id
  deconfigured : ∀ serviceName kind, title = serviceAlertTitle serviceName kind →
    (∀ check ∈ run.checks, check.entry.name ≠ serviceName) → title ∉ judgedTitles →
      openId after sysadmin title = none

/-- A committed run without write failures agrees about every title in scope that the
sweep's patterns match. -/
def AgreesOn (wording : Wording) (scope : HealthState → HealthRun → Text → Prop)
    (state : HealthState) (run : HealthRun) : Prop :=
  run.commits = true → (serviceLoop wording state run).writeFailures = [] →
    ∀ judging, beforeSweep wording state run = some judging →
      ∀ title, resolvable title = true → scope state run title →
        Agrees state.table (runHealth wording state run).table run judging.judgedTitles title

/-- No other family of the run raised or resolved a row under the title. -/
def FamiliesApart (wording : Wording) (state : HealthState) (run : HealthRun) (title : Text) : Prop :=
  ∀ judged, judgedRun wording state run = some judged →
    ¬ Touched run.stamp title judged.table run.families

theorem unhealthyTitle_iff {unhealthy : List Text} {title : Text} :
    unhealthyTitle unhealthy title = true ↔
      ∃ serviceName ∈ unhealthy, ∃ kind, title = serviceAlertTitle serviceName kind := by
  simp only [unhealthyTitle, List.any_eq_true, decide_eq_true_eq]
  constructor
  · intro found
    obtain ⟨serviceName, member, kind, _, titled⟩ := found
    exact ⟨serviceName, member, kind, titled⟩
  · intro found
    obtain ⟨serviceName, member, kind, titled⟩ := found
    exact ⟨serviceName, member, kind, kind.mem_all, titled⟩

theorem sweeps_eq_false {state : Judging} {unhealthy : List Text} {title : Text}
    (matched : resolvable title = true) : sweeps state unhealthy title = false ↔
      title ∈ state.judgedTitles ∨ unhealthyTitle unhealthy title = true := by
  simp [sweeps, matched, or_iff_not_imp_left]

theorem run_agrees (wording : Wording) (state : HealthState) (run : HealthRun) :
    AgreesOn wording (FamiliesApart wording) state run := by
  intro commits clean judging swept title matched apart
  obtain ⟨judged, ran, spec⟩ := judgedRun_spec wording state run
  have start := startProgress_sound state.table state.streaks
  have unwell := (loop_clean wording run.stops run.stamp start
    (startJudging_standing state.table) clean).2
  obtain ⟨table, acted, rfl⟩ : ∃ table, run.families.foldlM (act run.stamp) judged.table =
      some table ∧ { judged with table } = judging := by
    simpa [beforeSweep, ran] using swept
  have final : openId (runHealth wording state run).table sysadmin title =
      if sweeps judged (serviceLoop wording state run).unhealthy title then none
      else openUnder judged title := by
    have settled : openId table sysadmin title = openUnder judged title :=
      openId_families acted (apart judged ran)
    simp only [runHealth, swept, commits, if_true, openId_resolveRecovered, openUnder, settled]
    rfl
  have protects : unhealthyTitle (serviceLoop wording state run).unhealthy title = true ↔
      ∃ serviceName kind, title = serviceAlertTitle serviceName kind ∧
        MeasuredUnhealthy run serviceName := by
    rw [unhealthyTitle_iff]
    constructor
    · intro found
      obtain ⟨serviceName, member, kind, titled⟩ := found
      rcases (unwell serviceName).mp member with impossible | measured
      · exact absurd impossible List.not_mem_nil
      · exact ⟨serviceName, kind, titled, measured⟩
    · intro found
      obtain ⟨serviceName, kind, titled, measured⟩ := found
      exact ⟨serviceName, (unwell serviceName).mpr (Or.inr measured), kind, titled⟩
  have spared := @sweeps_eq_false judged (serviceLoop wording state run).unhealthy title matched
  refine ⟨?_, ?_, ?_⟩
  · rw [final]
    constructor
    · intro standing
      cases gone : sweeps judged (serviceLoop wording state run).unhealthy title with
      | true => simp [gone] at standing
      | false =>
        rcases spared.mp gone with member | unhealthy
        · exact Or.inl member
        · rw [gone] at standing
          rcases spec.grows.opened standing with earlier | member
          · exact Or.inr ⟨earlier, protects.mp unhealthy⟩
          · exact Or.inl member
    · intro either
      rcases either with member | ⟨earlier, unhealthy⟩
      · rw [spared.mpr (Or.inl member)]
        exact spec.standing clean title member
      · rw [spared.mpr (Or.inr (protects.mpr unhealthy))]
        obtain ⟨id, found⟩ := Option.isSome_iff_exists.mp earlier
        simp [spec.grows.kept found]
  · intro id earlier standing
    rw [final] at standing ⊢
    cases gone : sweeps judged (serviceLoop wording state run).unhealthy title with
    | true => simp [gone] at standing
    | false => exact spec.grows.kept earlier
  · intro serviceName kind titled absent unjudged
    rw [final]
    cases gone : sweeps judged (serviceLoop wording state run).unhealthy title with
    | true => rfl
    | false =>
      rcases spared.mp gone with member | unhealthy
      · exact absurd member unjudged
      · obtain ⟨other, otherKind, same, check, member, named, _⟩ := protects.mp unhealthy
        have names := (serviceAlertTitle_injective (titled.symm.trans same)).1
        exact absurd (names.trans named).symm (absent check member)

/-- In every sequence of runs, whatever happens between them, judging, dedup and sweep
agree about the titles no other family of the run touches. -/
theorem runs_agree (wording : Wording) (state : HealthState) (events : List HealthEvent) :
    RunsAll wording (AgreesOn wording (FamiliesApart wording)) state events :=
  runsAll_of_forall wording (run_agrees wording) state events

/-- A service named like another family's title, measured degraded for the first time. -/
def dumpRun : HealthRun where
  checks := [⟨⟨text "Core dump loop in foo", false, true, none, 3⟩, .degraded, .empty, (true, []),
    false, false⟩]
  distinct := List.nodup_singleton _
  stops := idleStops
  probes := quietProbes
  thresholds := someThresholds
  families := [.raise sysadmin (loopDraft (text "/opt/foo critical") 60 60)]
  stamp := 0
  sweptAt := 1
  commits := true

theorem foreign_row_stands_unjudged :
    ¬ RunsAll plainWording (AgreesOn plainWording fun _ _ _ => True) freshHealth [.run dumpRun] := by
  intro agrees
  cases swept : beforeSweep plainWording freshHealth dumpRun with
  | none => exact absurd swept (by decide)
  | some judging =>
    have titles : (beforeSweep plainWording freshHealth dumpRun).map Judging.judgedTitles =
        some [] := by
      decide
    rw [swept, Option.map_some, Option.some.injEq] at titles
    have open_after : (openId (runHealth plainWording freshHealth dumpRun).table sysadmin
        (loopTitle (text "/opt/foo critical"))).isSome = true := by decide
    have closed_before : openId freshHealth.table sysadmin
        (loopTitle (text "/opt/foo critical")) = none := by decide
    have judged := agrees.1 dumpRun rfl rfl (by decide) judging swept
      (loopTitle (text "/opt/foo critical")) (by decide) trivial
    rcases judged.stands.mp open_after with member | ⟨earlier, _⟩
    · simp [titles] at member
    · simp [closed_before] at earlier

end SysadminAssistant.Monitor
