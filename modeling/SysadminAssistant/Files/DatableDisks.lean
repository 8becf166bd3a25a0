import SysadminAssistant.Files.ProjectedThresholds

namespace SysadminAssistant.Files.Advice

open Python Library

/-! When the forecast of a disk is total, and that it is sound whenever it ends. -/

variable (strftime : Moment → Text)

/-- What the projections of a series have to say. -/
structure Sound (series : DiskSeries) (thresholds : List Int) (result : List ThresholdProjection) :
    Prop where
  shape : result = [] ∨ result.map ThresholdProjection.percent =
    thresholds.map fun threshold : Int => (threshold : ℚ)
  exceeded : ∀ latest ∈ series.getLast?, ∀ projection ∈ result,
    (projection.state = .exceeded ↔ projection.percent ≤ latest.2)
  urgent : ∀ whole, projectDiskThresholds strftime series thresholds none = .ok whole →
    List.Forall₂ (fun alone chosen => alone.state = ProjectionState.projected →
      chosen.state = .projected ∧
      ∃ days ∈ chosen.daysFromNow, ∃ standing ∈ alone.daysFromNow, 0 ≤ days ∧
        days ≤ standing) whole result
  ordered : result.Pairwise fun lower higher =>
    ∀ sooner ∈ lower.daysFromNow, ∀ later ∈ higher.daysFromNow, sooner ≤ later

theorem whole_eq (series : DiskSeries) (thresholds : List Int) :
    projectDiskThresholds strftime series thresholds none =
      projectFit strftime series thresholds none := by
  rw [projectDiskThresholds]
  cases projectFit strftime series thresholds none <;> rfl

theorem urgent_of_reads {whole days : Int → Option ℚ} {current : ℚ} (steady : Steady days)
    (hastens : ∀ threshold, ∀ standing ∈ whole threshold, ∃ count ∈ days threshold, count ≤ standing)
    {thresholds : List Int} {primary result : List ThresholdProjection}
    (first : List.Forall₂ (Reads whole current) thresholds primary)
    (second : List.Forall₂ (Reads days current) thresholds result) :
    List.Forall₂ (fun alone chosen => alone.state = ProjectionState.projected →
      chosen.state = .projected ∧
      ∃ days ∈ chosen.daysFromNow, ∃ standing ∈ alone.daysFromNow, 0 ≤ days ∧
        days ≤ standing) primary result := by
  induction first generalizing result with
  | nil =>
    cases second
    exact .nil
  | @cons threshold alone _ _ here _ ih =>
    cases second with
    | cons also rest =>
      refine .cons (fun state => ?_) (ih rest)
      have ahead : current < threshold := by
        by_contra past
        simp [(here.exceeded (not_lt.mp past)).1] at state
      cases known : whole threshold with
      | none => simp [(here.notGrowing ahead known).1] at state
      | some standing =>
        obtain ⟨count, inside, below⟩ := hastens threshold standing known
        obtain ⟨chosen, shown⟩ := also.projected ahead count inside
        exact ⟨chosen, count, shown, standing, (here.projected ahead standing known).2,
          steady.nonneg threshold count inside, below⟩

theorem exists_of_forall₂ {α β : Type*} {relation : α → β → Prop} {inputs : List α}
    {outputs : List β} (each : List.Forall₂ relation inputs outputs) {output : β}
    (member : output ∈ outputs) :
    ∃ input ∈ inputs, relation input output := by
  induction each with
  | nil => cases member
  | cons here _ ih =>
    rcases List.mem_cons.mp member with first | later
    · rw [first]
      exact ⟨_, List.mem_cons_self, here⟩
    · obtain ⟨input, inside, related⟩ := ih later
      exact ⟨input, List.mem_cons_of_mem _ inside, related⟩

theorem ordered_of_reads {days : Int → Option ℚ} {current : ℚ} (steady : Steady days)
    {thresholds : List Int} (ascending : thresholds.Pairwise (· ≤ ·))
    {result : List ThresholdProjection} (reads : List.Forall₂ (Reads days current) thresholds result) :
    result.Pairwise fun lower higher =>
      ∀ sooner ∈ lower.daysFromNow, ∀ later ∈ higher.daysFromNow, sooner ≤ later := by
  induction reads with
  | nil => exact .nil
  | @cons threshold projection rest others here each ih =>
    obtain ⟨least, ordered⟩ := List.pairwise_cons.mp ascending
    refine List.pairwise_cons.mpr ⟨?_, ih ordered⟩
    intro other member sooner early later late
    obtain ⟨higher, inside, also⟩ := exists_of_forall₂ each member
    exact steady.mono threshold higher (least higher inside) sooner (here.days_of early).2.1 later
      (also.days_of late).2.1

theorem percents_of_reads {days : Int → Option ℚ} {current : ℚ} {thresholds : List Int}
    {result : List ThresholdProjection} (reads : List.Forall₂ (Reads days current) thresholds result) :
    result.map ThresholdProjection.percent = thresholds.map fun threshold : Int =>
      (threshold : ℚ) := by
  induction reads with
  | nil => rfl
  | cons here _ ih => rw [List.map_cons, List.map_cons, here.percent, ih]

theorem projectDiskThresholds_sound {series : DiskSeries} {thresholds : List Int}
    (ascending : thresholds.Pairwise (· ≤ ·)) {result : List ThresholdProjection}
    (ran : projectDiskThresholds strftime series thresholds (some secondaryWindowDays) = .ok result) :
    Sound strftime series thresholds result := by
  obtain ⟨primary, first, cases⟩ := projectDiskThresholds_reads ran
  have alone : ∀ whole, projectDiskThresholds strftime series thresholds none = .ok whole →
      whole = primary := by
    intro whole same
    rw [whole_eq, first] at same
    exact (Except.ok.inj same).symm
  rcases cases with ⟨none, nothing⟩ | ⟨line, fitted, days, steady, hastens, reads, chosen⟩
  · refine ⟨Or.inl none, ?_, ?_, ?_⟩
    · simp [none]
    · intro whole same
      rw [alone whole same, nothing, none]
      exact .nil
    · rw [none]
      exact .nil
  · obtain ⟨latest, last, current, _⟩ := lineOf_current fitted
    refine ⟨Or.inr ?_, ?_, ?_, ordered_of_reads steady ascending chosen⟩
    · exact percents_of_reads chosen
    · intro other final projection member
      obtain ⟨threshold, _, read⟩ := exists_of_forall₂ chosen member
      rw [Option.mem_def, last, Option.some.injEq] at final
      rw [← final, ← current]
      exact read.state_iff
    · intro whole same
      rw [alone whole same]
      exact urgent_of_reads steady hastens reads chosen

theorem projectFit_nil {series : DiskSeries} {thresholds : List Int} {windowDays : Option ℚ}
    (ran : projectFit strftime series thresholds windowDays = .ok []) :
    lineOf series = none ∨ thresholds = [] := by
  rw [projectFit_eq] at ran
  cases fitted : lineOf series with
  | none => exact Or.inl rfl
  | some line =>
    rw [fitted] at ran
    exact Or.inr (List.forall₂_nil_right_iff.mp (exceptM_each.mp ran))

theorem joinFits_ok {series recent : DiskSeries} {thresholds : List Int} {windowDays : Option ℚ}
    {primary secondary : List ThresholdProjection}
    (first : projectFit strftime series thresholds none = .ok primary) (some : primary ≠ [])
    (second : projectFit strftime recent thresholds windowDays = .ok secondary) :
    ∃ result, joinFits primary secondary = .ok result := by
  rw [joinFits]
  split
  · exact ⟨_, rfl⟩
  · rename_i more
    obtain ⟨_, _, long⟩ := (projectFit_reads first).resolve_left some
    obtain ⟨_, _, brief⟩ := (projectFit_reads second).resolve_left more
    rw [if_neg (not_not.mpr (brief.length_eq.symm.trans long.length_eq))]
    exact ⟨_, rfl⟩

theorem projectDiskThresholds_ok (series : DiskSeries) (thresholds : List Int) :
    (∃ result, projectDiskThresholds strftime series thresholds (some secondaryWindowDays) =
      .ok result) ↔ Datable series thresholds := by
  by_cases long : spansTwice series
  · rw [projectDiskThresholds_two thresholds long, Datable, ← @projectFit_ok strftime]
    cases first : projectFit strftime series thresholds none with
    | error raised => simp [Except.bind]
    | ok primary =>
      simp only [Except.bind, Except.ok.injEq, exists_eq', true_and]
      by_cases none : primary = []
      · rw [if_pos none]
        refine iff_of_true ⟨_, rfl⟩ fun twice line _ => ?_
        rw [none] at first
        rcases projectFit_nil strftime first with unfitted | nothing
        · rw [refitted, unfitted] at twice
          exact absurd twice.1 (by simp)
        · simp [Line.Datable, nothing]
      · rw [if_neg none]
        obtain ⟨line, fitted, _⟩ := (projectFit_reads first).resolve_left none
        have twice : refitted series := ⟨Option.isSome_of_mem fitted, long⟩
        simp only [twice, true_imp_iff]
        rw [← @projectFit_ok strftime (lastWeek series) thresholds (some secondaryWindowDays)]
        constructor
        · intro ran
          obtain ⟨result, joined⟩ := ran
          cases second : projectFit strftime (lastWeek series) thresholds
            (some secondaryWindowDays) with
          | error raised => simp [second] at joined
          | ok secondary => exact ⟨secondary, rfl⟩
        · intro ran
          obtain ⟨secondary, second⟩ := ran
          rw [second]
          exact joinFits_ok strftime first none second
  · rw [projectDiskThresholds_one thresholds long, projectFit_ok, Datable]
    exact (and_iff_left fun twice => absurd twice.2 long).symm

/-- A forecast over ascending thresholds is total and sound exactly when each line that is fitted,
and grows, meets the thresholds that are ahead before the calendar ends. -/
theorem projectDiskThresholds_sound_iff (series : DiskSeries) (thresholds : List Int)
    (ascending : thresholds.Pairwise (· ≤ ·)) :
    (∃ result, projectDiskThresholds strftime series thresholds (some secondaryWindowDays) =
      .ok result ∧ Sound strftime series thresholds result) ↔ Datable series thresholds := by
  rw [← projectDiskThresholds_ok strftime]
  constructor
  · intro ran
    obtain ⟨result, same, _⟩ := ran
    exact ⟨result, same⟩
  · intro ran
    obtain ⟨result, same⟩ := ran
    exact ⟨result, same, projectDiskThresholds_sound strftime ascending same⟩

/-! ## A disk that hardly fills -/

def dayOne : Moment := ⟨738000 * day, by decide, by decide⟩

def dayTwo : Moment := ⟨738001 * day, by decide, by decide⟩

/-- One ten-millionth of a point in a day. -/
def creeping : DiskSeries := [(dayOne, 50), (dayTwo, 50 + 1 / 10000000)]

/-- Three weeks, with a faster last one. -/
def climbing : DiskSeries :=
  [(dayOne, 70), (⟨738014 * day, by decide, by decide⟩, 75),
    (⟨738020 * day, by decide, by decide⟩, 81)]

instance (line : Line) (thresholds : List Int) : Decidable (line.Datable thresholds) :=
  inferInstanceAs (Decidable (∀ threshold ∈ thresholds, line.current < threshold →
    0 < line.fit.slope → line.latest.micros + roundHalfEven (line.due threshold * day) < endOfTime))

theorem climbing_sound : ∃ result, projectDiskThresholds (fun _ => []) climbing [80, 90]
    (some secondaryWindowDays) = .ok result ∧ Sound (fun _ => []) climbing [80, 90] result := by
  refine (projectDiskThresholds_sound_iff (fun _ => []) climbing [80, 90] (by decide)).mpr
    ⟨?_, fun _ => ?_⟩
  · have whole : ((lineOf climbing).all fun line => line.Datable [80, 90]) = true := by decide +kernel
    intro line fitted
    rw [Option.mem_def.mp fitted] at whole
    exact of_decide_eq_true whole
  · have recent : ((lineOf (lastWeek climbing)).all fun line => line.Datable [80, 90]) = true := by
      decide +kernel
    intro line fitted
    rw [Option.mem_def.mp fitted] at recent
    exact of_decide_eq_true recent

/-- The line of that disk is at 80 per cent in 300 million days, and no projection is returned at
all. -/
theorem creeping_overflows : ¬ ∃ result, projectDiskThresholds (fun _ => []) creeping [80, 90]
    (some secondaryWindowDays) = .ok result := by
  have raised : (projectDiskThresholds (fun _ => []) creeping [80, 90]
      (some secondaryWindowDays)).toOption.isNone = true := by decide +kernel
  intro ran
  obtain ⟨result, same⟩ := ran
  rw [same] at raised
  cases raised

end SysadminAssistant.Files.Advice
