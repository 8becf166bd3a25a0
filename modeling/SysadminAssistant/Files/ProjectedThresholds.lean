import SysadminAssistant.Files.Recommendations
import SysadminAssistant.Library.RaisingLoops
import SysadminAssistant.Python.Rounding
import SysadminAssistant.Python.DecimalText

namespace SysadminAssistant.Files.Advice

open Python Library

/-! When disk usage crosses each threshold (`sysadmin/files/forecast.py`), in exact arithmetic. -/

/-- The first microsecond after 9999-12-31, counted from 0001-01-01. -/
def endOfTime : Int := 3652059 * day

/-- A `datetime`, as microseconds since the first one. -/
structure Moment where
  micros : Int
  notBefore : 0 ≤ micros
  notAfter : micros < endOfTime

/-- `timedelta(days=days)`, in microseconds. -/
def timedeltaDays (days : ℚ) : Except PyError Int :=
  let micros := roundHalfEven (days * day)
  if -999999999 ≤ micros / day ∧ micros / day ≤ 999999999 then .ok micros
  else .error .overflowError

/-- `moment + delta`. -/
def Moment.add (moment : Moment) (delta : Int) : Except PyError Moment :=
  if inside : 0 ≤ moment.micros + delta ∧ moment.micros + delta < endOfTime then
    .ok ⟨moment.micros + delta, inside.1, inside.2⟩
  else .error .overflowError

/-- `(later - earlier).total_seconds() / 86400.0`. -/
def daysBetween (earlier later : Moment) : ℚ := (later.micros - earlier.micros) / day

/-- `round(value, 1)`. -/
def tenths (value : ℚ) : ℚ := roundHalfEven (value * 10) / 10

structure LinearFit where
  slope : ℚ
  intercept : ℚ
  points : Nat

def linearFit (points : List (ℚ × ℚ)) : Option LinearFit :=
  let n : ℚ := points.length
  let sumX := (points.map fun p => p.1).sum
  let sumY := (points.map fun p => p.2).sum
  let sumXY := (points.map fun p => p.1 * p.2).sum
  let sumXX := (points.map fun p => p.1 ^ 2).sum
  let denom := n * sumXX - sumX ^ 2
  if points.length < 2 ∨ denom = 0 then none
  else
    let slope := (n * sumXY - sumX * sumY) / denom
    some ⟨slope, (sumY - slope * sumX) / n, points.length⟩

abbrev DiskSeries := List (Moment × ℚ)

section

variable (strftime : Moment → Text)

/-- One turn of `_project_fit`'s loop, over a series from `start` to `latest`, whose last reading is
`current`. -/
def projectThreshold (fit : LinearFit) (start latest : Moment) (current : ℚ) (windowDays : Option ℚ)
    (threshold : Int) : Except PyError ThresholdProjection :=
  if threshold ≤ current then .ok ⟨threshold, .exceeded, none, none, none⟩
  else if fit.slope ≤ 0 then .ok ⟨threshold, .notGrowing, none, none, none⟩
  else do
    let daysToTarget := (threshold - fit.intercept) / fit.slope
    let daysFromNow := max (daysToTarget - daysBetween start latest) 0
    let targetDate ← latest.add (← timedeltaDays daysFromNow)
    return ⟨threshold, .projected, some (tenths daysFromNow), some (strftime targetDate), windowDays⟩

def projectFit (series : DiskSeries) (thresholds : List Int) (windowDays : Option ℚ) :
    Except PyError (List ThresholdProjection) :=
  match series with
  | [] => .ok []
  | first :: rest =>
    match linearFit ((first :: rest).map fun reading => (daysBetween first.1 reading.1,
      reading.2)) with
    | none => .ok []
    | some fit =>
      let latest := (first :: rest).getLast (List.cons_ne_nil _ _)
      thresholds.mapM (projectThreshold strftime fit first.1 latest.1 latest.2 windowDays)

def sooner (candidate incumbent : ThresholdProjection) : Bool :=
  match candidate.state, candidate.daysFromNow with
  | .projected, some days =>
    match incumbent.state, incumbent.daysFromNow with
    | .projected, some standing => days < standing
    | state, _ => state = .notGrowing
  | _, _ => false

/-- The sooner projection of each pair; `zip` is strict. -/
def joinFits (primary secondary : List ThresholdProjection) :
    Except PyError (List ThresholdProjection) :=
  if secondary = [] then .ok primary
  else if secondary.length ≠ primary.length then .error .valueError
  else .ok (List.zipWith (fun whole short => if sooner short whole then short
    else whole) primary secondary)

def projectDiskThresholds (series : DiskSeries) (thresholds : List Int) (secondaryDays : Option ℚ) :
    Except PyError (List ThresholdProjection) := do
  let primary ← projectFit strftime series thresholds none
  match secondaryDays, series with
  | some days, first :: rest =>
    if primary = [] then return primary
    let latest := ((first :: rest).getLast (List.cons_ne_nil _ _)).1
    if latest.micros - first.1.micros < (← timedeltaDays (2 * days)) then return primary
    let windowStart ← latest.add (-(← timedeltaDays days))
    let recent := series.filter fun point => windowStart.micros ≤ point.1.micros
    joinFits primary (← projectFit strftime recent thresholds (some days))
  | _, _ => return primary

end

def secondaryWindowDays : ℚ := 7

/-! What the projections of a disk say, and when there are any. -/

/-- The line fitted through a series, and the two ends it was fitted between. -/
structure Line where
  fit : LinearFit
  start : Moment
  latest : Moment
  current : ℚ

theorem readings_ne_nil (first : Moment × ℚ) (rest : DiskSeries) : first :: rest ≠ [] :=
  List.cons_ne_nil _ _

def lineOf : DiskSeries → Option Line
  | [] => none
  | first :: rest =>
    (linearFit ((first :: rest).map fun reading => (daysBetween first.1 reading.1,
      reading.2))).map fun fit =>
      ⟨fit, first.1, ((first :: rest).getLast (readings_ne_nil first rest)).1,
        ((first :: rest).getLast (readings_ne_nil first rest)).2⟩

namespace Line

/-- How many days after the last reading the line is at the threshold. -/
def due (line : Line) (threshold : Int) : ℚ :=
  max ((threshold - line.fit.intercept) / line.fit.slope - daysBetween line.start line.latest) 0

def days (line : Line) (threshold : Int) : Option ℚ :=
  if line.fit.slope ≤ 0 then none else some (tenths (line.due threshold))

/-- A growing line meets the thresholds that are still ahead before the calendar ends. -/
def Datable (line : Line) (thresholds : List Int) : Prop :=
  ∀ threshold ∈ thresholds, line.current < threshold → 0 < line.fit.slope →
    line.latest.micros + roundHalfEven (line.due threshold * day) < endOfTime

theorem due_nonneg (line : Line) (threshold : Int) : 0 ≤ line.due threshold := le_max_right _ _

theorem due_mono {line : Line} (growing : 0 < line.fit.slope) {less more : Int}
    (order : less ≤ more) : line.due less ≤ line.due more := by
  have cast : (less : ℚ) ≤ more := by exact_mod_cast order
  have target : (less - line.fit.intercept) / line.fit.slope ≤ (more - line.fit.intercept) /
      line.fit.slope :=
    div_le_div_of_nonneg_right (sub_le_sub_right cast _) growing.le
  exact max_le_max_right _ (sub_le_sub_right target _)

end Line

theorem tenths_mono {less more : ℚ} (order : less ≤ more) : tenths less ≤ tenths more := by
  have rounded := roundHalfEven_mono (mul_le_mul_of_nonneg_right order (by norm_num : (0 : ℚ) ≤ 10))
  have cast : (roundHalfEven (less * 10) : ℚ) ≤ roundHalfEven (more * 10) := by exact_mod_cast rounded
  exact div_le_div_of_nonneg_right cast (by norm_num)

theorem tenths_nonneg {value : ℚ} (nonneg : 0 ≤ value) : 0 ≤ tenths value := by
  have rounded : 0 ≤ roundHalfEven (value * 10) :=
    roundHalfEven_nonneg (mul_nonneg nonneg (by norm_num))
  exact div_nonneg (by exact_mod_cast rounded) (by norm_num)

/-! ## Days ahead -/

/-- Days that are there for every threshold or for none, and no fewer for a higher one. -/
structure Steady (days : Int → Option ℚ) : Prop where
  uniform : ∀ threshold other, (days threshold).isSome → (days other).isSome
  mono : ∀ less more, less ≤ more → ∀ sooner ∈ days less, ∀ later ∈ days more, sooner ≤ later
  nonneg : ∀ threshold, ∀ count ∈ days threshold, 0 ≤ count

/-- The sooner of two counts of days. -/
def soonerDays (whole short : Int → Option ℚ) (threshold : Int) : Option ℚ :=
  match whole threshold, short threshold with
  | some whole, some short => some (if short < whole then short else whole)
  | some whole, none => some whole
  | none, short => short

theorem Line.days_steady (line : Line) : Steady line.days := by
  by_cases flat : line.fit.slope ≤ 0
  · have none : ∀ threshold, line.days threshold = none := fun threshold => if_pos flat
    refine ⟨?_, ?_, ?_⟩ <;> simp [none]
  · have some : ∀ threshold, line.days threshold = some (tenths (line.due threshold)) :=
      fun threshold => if_neg flat
    rw [not_le] at flat
    refine ⟨by simp [some], ?_, ?_⟩
    · intro less more order sooner early later late
      rw [some, Option.mem_some_iff] at early late
      rw [← early, ← late]
      exact tenths_mono (Line.due_mono flat order)
    · intro threshold count known
      rw [some, Option.mem_some_iff] at known
      rw [← known]
      exact tenths_nonneg (line.due_nonneg threshold)

theorem soonerDays_eq {whole short : Int → Option ℚ} {threshold : Int} {count : ℚ}
    (known : count ∈ soonerDays whole short threshold) :
    count ∈ whole threshold ∨ count ∈ short threshold := by
  rw [soonerDays] at known
  split at known
  · rename_i first second
    split at known
    · exact Or.inr (by rwa [second])
    · exact Or.inl (by rwa [first])
  · rename_i first second
    exact Or.inl (by rwa [first])
  · exact Or.inr known

theorem soonerDays_le {whole short : Int → Option ℚ} {threshold : Int} {count : ℚ}
    (known : count ∈ soonerDays whole short threshold) :
    (∀ days ∈ whole threshold, count ≤ days) ∧ ∀ days ∈ short threshold, count ≤ days := by
  rw [soonerDays] at known
  split at known
  · rename_i long brief first second
    rw [Option.mem_some_iff] at known
    rw [first, second, ← known]
    refine ⟨fun days same => ?_, fun days same => ?_⟩
    · rw [Option.mem_some_iff] at same
      rw [← same]
      split
      · rename_i less
        exact less.le
      · exact le_rfl
    · rw [Option.mem_some_iff] at same
      rw [← same]
      split
      · exact le_rfl
      · rename_i less
        exact not_lt.mp less
  · rename_i first second
    rw [Option.mem_some_iff] at known
    rw [first, second, ← known]
    simp
  · rename_i first
    rw [first, known]
    simp

theorem soonerDays_isSome {whole short : Int → Option ℚ} {threshold : Int} :
    (soonerDays whole short threshold).isSome ↔ (whole threshold).isSome ∨
      (short threshold).isSome := by
  rw [soonerDays]
  cases whole threshold <;> cases short threshold <;> simp

theorem soonerDays_steady {whole short : Int → Option ℚ} (first : Steady whole)
    (second : Steady short) : Steady (soonerDays whole short) := by
  refine ⟨?_, ?_, ?_⟩
  · intro threshold other
    rw [soonerDays_isSome, soonerDays_isSome]
    exact Or.imp (first.uniform threshold other) (second.uniform threshold other)
  · intro less more order count early days late
    obtain ⟨belowWhole, belowShort⟩ := soonerDays_le early
    rcases soonerDays_eq late with ofWhole | ofShort
    · obtain ⟨there, known⟩ :=
        Option.isSome_iff_exists.mp (first.uniform more less (Option.isSome_of_mem ofWhole))
      exact (belowWhole there known).trans (first.mono less more order there known days ofWhole)
    · obtain ⟨there, known⟩ :=
        Option.isSome_iff_exists.mp (second.uniform more less (Option.isSome_of_mem ofShort))
      exact (belowShort there known).trans (second.mono less more order there known days ofShort)
  · intro threshold count known
    exact (soonerDays_eq known).elim (first.nonneg threshold count) (second.nonneg threshold count)

/-- What a projection says of its threshold, when these are the days ahead. -/
structure Reads (days : Int → Option ℚ) (current : ℚ) (threshold : Int)
    (projection : ThresholdProjection) : Prop where
  percent : projection.percent = threshold
  exceeded : threshold ≤ current → projection.state = .exceeded ∧ projection.daysFromNow = none
  notGrowing : current < threshold → days threshold = none →
    projection.state = .notGrowing ∧ projection.daysFromNow = none
  projected : current < threshold → ∀ count ∈ days threshold,
    projection.state = .projected ∧ projection.daysFromNow = some count

theorem Reads.state_iff {days : Int → Option ℚ} {current : ℚ} {threshold : Int}
    {projection : ThresholdProjection} (reads : Reads days current threshold projection) :
    (projection.state = .exceeded ↔ projection.percent ≤ current) := by
  rw [reads.percent]
  constructor
  · intro state
    by_contra ahead
    rw [not_le] at ahead
    cases known : days threshold with
    | none => simp [(reads.notGrowing ahead known).1] at state
    | some count => simp [(reads.projected ahead count known).1] at state
  · exact fun past => (reads.exceeded past).1

theorem Reads.days_of {days : Int → Option ℚ} {current : ℚ} {threshold : Int}
    {projection : ThresholdProjection} (reads : Reads days current threshold projection) {count : ℚ}
    (shown : projection.daysFromNow = some count) :
    current < threshold ∧ days threshold = some count ∧ projection.state = .projected := by
  have ahead : current < threshold := by
    by_contra past
    simp [(reads.exceeded (not_lt.mp past)).2] at shown
  cases known : days threshold with
  | none => simp [(reads.notGrowing ahead known).2] at shown
  | some days =>
    obtain ⟨state, same⟩ := reads.projected ahead days known
    exact ⟨ahead, same.symm.trans shown, state⟩

theorem sooner_reads {whole short : Int → Option ℚ} {current : ℚ} {threshold : Int}
    {first second : ThresholdProjection} (long : Reads whole current threshold first)
    (brief : Reads short current threshold second) :
    Reads (soonerDays whole short) current threshold
      (if sooner second first then second else first) := by
  by_cases past : threshold ≤ current
  · have kept : sooner second first = false := by
      rw [sooner, (brief.exceeded past).1]
    rw [kept]
    exact ⟨long.percent, long.exceeded, fun ahead => absurd past (not_le.mpr ahead),
      fun ahead => absurd past (not_le.mpr ahead)⟩
  · have ahead := not_le.mp past
    have percent : (if sooner second first then second else first).percent = threshold := by
      split
      · exact brief.percent
      · exact long.percent
    refine ⟨percent, fun beyond => absurd beyond past, fun _ none => ?_, fun _ count known => ?_⟩
    · have neither : whole threshold = .none ∧ short threshold = .none := by
        rw [← Option.not_isSome_iff_eq_none, soonerDays_isSome, not_or] at none
        exact ⟨Option.not_isSome_iff_eq_none.mp none.1, Option.not_isSome_iff_eq_none.mp none.2⟩
      have kept : sooner second first = false := by
        rw [sooner, (brief.notGrowing ahead neither.2).1]
      rw [kept]
      exact long.notGrowing ahead neither.1
    · rw [soonerDays] at known
      cases inWhole : whole threshold with
      | none =>
        rw [inWhole] at known
        obtain ⟨state, days⟩ := brief.projected ahead count known
        have chosen : sooner second first = true := by
          rw [sooner, state, days, (long.notGrowing ahead inWhole).1]
          rfl
        rw [chosen]
        exact ⟨state, days⟩
      | some standing =>
        obtain ⟨firstState, firstDays⟩ := long.projected ahead standing inWhole
        cases inShort : short threshold with
        | none =>
          rw [inWhole, inShort] at known
          have kept : sooner second first = false := by
            rw [sooner, (brief.notGrowing ahead inShort).1]
          rw [kept, ← Option.mem_some_iff.mp known]
          exact ⟨firstState, firstDays⟩
        | some days =>
          obtain ⟨secondState, secondDays⟩ := brief.projected ahead days inShort
          rw [inWhole, inShort] at known
          have chosen : sooner second first = decide (days < standing) := by
            rw [sooner, firstState, firstDays, secondState, secondDays]
          rw [chosen, ← Option.mem_some_iff.mp known]
          by_cases less : days < standing
          · rw [if_pos (decide_eq_true less), if_pos less]
            exact ⟨secondState, secondDays⟩
          · rw [if_neg (by simpa using less), if_neg less]
            exact ⟨firstState, firstDays⟩

/-! ## One fit -/

theorem dated_iff {latest : Moment} {days : ℚ} (nonneg : 0 ≤ days) :
    (∃ target, ((timedeltaDays days).bind fun delta => latest.add delta) = .ok target) ↔
      latest.micros + roundHalfEven (days * day) < endOfTime := by
  have forward : 0 ≤ roundHalfEven (days * day) :=
    roundHalfEven_nonneg (mul_nonneg nonneg (by norm_num [day]))
  have start := latest.notBefore
  simp only [timedeltaDays]
  generalize roundHalfEven (days * day) = delta at forward ⊢
  constructor
  · intro dated
    obtain ⟨target, reached⟩ := dated
    split at reached
    · simp only [Except.bind, Moment.add] at reached
      split at reached
      · rename_i inside
        exact inside.2
      · cases reached
    · cases reached
  · intro reached
    have small : -999999999 ≤ delta / day ∧ delta / day ≤ 999999999 := by
      simp only [endOfTime, day] at reached ⊢
      omega
    have inside : 0 ≤ latest.micros + delta ∧ latest.micros + delta < endOfTime := ⟨by omega, reached⟩
    rw [if_pos small]
    simp only [Except.bind, Moment.add, dif_pos inside]
    exact ⟨_, rfl⟩

variable {strftime : Moment → Text}

theorem projectThreshold_reads {line : Line} {windowDays : Option ℚ} {threshold : Int}
    {projection : ThresholdProjection}
    (read : projectThreshold strftime line.fit line.start line.latest line.current windowDays
    threshold =
      .ok projection) : Reads line.days line.current threshold projection := by
  rw [projectThreshold] at read
  by_cases past : threshold ≤ line.current
  · rw [if_pos past] at read
    cases read
    exact ⟨rfl, fun _ => ⟨rfl, rfl⟩, fun ahead => absurd past (not_le.mpr ahead),
      fun ahead => absurd past (not_le.mpr ahead)⟩
  · rw [if_neg past] at read
    by_cases flat : line.fit.slope ≤ 0
    · rw [if_pos flat] at read
      cases read
      exact ⟨rfl, fun beyond => absurd beyond past, fun _ _ => ⟨rfl, rfl⟩, by simp [Line.days, flat]⟩
    · rw [if_neg flat] at read
      have count : line.days threshold = some (tenths (line.due threshold)) := if_neg flat
      simp only [bind, Except.bind] at read
      split at read
      · cases read
      · split at read
        · cases read
        · cases read
          refine ⟨rfl, fun beyond => absurd beyond past, fun _ none => ?_, fun _ days known => ?_⟩
          · rw [count] at none
            cases none
          · rw [count, Option.mem_some_iff] at known
            exact ⟨rfl, congrArg some known⟩

theorem projectThreshold_ok (line : Line) (windowDays : Option ℚ) (threshold : Int) :
    (∃ projection,
      projectThreshold strftime line.fit line.start line.latest line.current windowDays threshold =
      .ok projection) ↔ (line.current < threshold → 0 < line.fit.slope →
        line.latest.micros + roundHalfEven (line.due threshold * day) < endOfTime) := by
  rw [projectThreshold]
  by_cases past : threshold ≤ line.current
  · rw [if_pos past]
    exact iff_of_true ⟨_, rfl⟩ fun ahead => absurd past (not_le.mpr ahead)
  · rw [if_neg past]
    by_cases flat : line.fit.slope ≤ 0
    · rw [if_pos flat]
      exact iff_of_true ⟨_, rfl⟩ fun _ growing => absurd flat (not_le.mpr growing)
    · rw [if_neg flat, ← dated_iff (line.due_nonneg threshold)]
      rw [not_le] at past flat
      simp only [past, flat, true_imp_iff]
      change (∃ projection, ((timedeltaDays (line.due threshold)).bind fun delta =>
        (line.latest.add delta).bind fun target => .ok _) = .ok projection) ↔ _
      cases timedeltaDays (line.due threshold) with
      | error raised => simp [Except.bind]
      | ok delta => cases dated : line.latest.add delta <;> simp [Except.bind, dated]

theorem projectFit_eq (series : DiskSeries) (thresholds : List Int) (windowDays : Option ℚ) :
    projectFit strftime series thresholds windowDays = match lineOf series with
      | none => .ok []
      | some line => thresholds.mapM
          (projectThreshold strftime line.fit line.start line.latest line.current windowDays) := by
  cases series with
  | nil => rfl
  | cons first rest =>
    rw [projectFit, lineOf]
    cases linearFit ((first :: rest).map fun reading => (daysBetween first.1 reading.1,
      reading.2)) <;> rfl

theorem lineOf_current {series : DiskSeries} {line : Line} (fitted : lineOf series = some line) :
    ∃ latest, series.getLast? = some latest ∧ line.current = latest.2 ∧ line.latest = latest.1 := by
  cases series with
  | nil => cases fitted
  | cons first rest =>
    obtain ⟨fit, _, same⟩ := Option.map_eq_some_iff.mp fitted
    rw [← same]
    exact ⟨_, List.getLast?_eq_some_getLast (List.cons_ne_nil _ _), rfl, rfl⟩

/-! ## The two fits -/

/-- The series spans two weeks from its first reading to its last. -/
def spansTwice (series : DiskSeries) : Prop :=
  ∃ first ∈ series.head?, ∃ latest ∈ series.getLast?, 14 * day ≤ latest.1.micros - first.1.micros

/-- The last week of the series. -/
def lastWeek (series : DiskSeries) : DiskSeries :=
  series.filter fun point => series.getLast?.all fun latest =>
    latest.1.micros - 7 * day ≤ point.1.micros

/-- Whether a second line is fitted. -/
def refitted (series : DiskSeries) : Prop := (lineOf series).isSome ∧ spansTwice series

theorem weeks : timedeltaDays (2 * secondaryWindowDays) = .ok (14 * day) ∧
    timedeltaDays secondaryWindowDays = .ok (7 * day) := by
  have two : (2 * secondaryWindowDays * day : ℚ) = ((14 * day : Int) : ℚ) := by
    norm_num [secondaryWindowDays]
  have one : (secondaryWindowDays * day : ℚ) = ((7 * day : Int) : ℚ) := by
    norm_num [secondaryWindowDays]
  constructor
  · rw [timedeltaDays, two, roundHalfEven_intCast]
    decide
  · rw [timedeltaDays, one, roundHalfEven_intCast]
    decide

theorem projectDiskThresholds_one {series : DiskSeries} (thresholds : List Int)
    (short : ¬ spansTwice series) :
    projectDiskThresholds strftime series thresholds (some secondaryWindowDays) =
      projectFit strftime series thresholds none := by
  cases series with
  | nil => rfl
  | cons first rest =>
    have below : ((first :: rest).getLast (List.cons_ne_nil _ _)).1.micros - first.1.micros <
        14 * day := by
      by_contra long
      exact short ⟨first, rfl, _, List.getLast?_eq_some_getLast (List.cons_ne_nil _ _), not_lt.mp long⟩
    rw [projectDiskThresholds]
    cases projectFit strftime (first :: rest) thresholds none with
    | error raised => rfl
    | ok primary =>
      by_cases none : primary = []
      · simp [bind, Except.bind, pure, Except.pure, none]
      · simp [bind, Except.bind, pure, Except.pure, none, weeks.1, below]

theorem projectDiskThresholds_two {series : DiskSeries} (thresholds : List Int)
    (long : spansTwice series) :
    projectDiskThresholds strftime series thresholds (some secondaryWindowDays) =
      (projectFit strftime series thresholds none).bind fun primary =>
        if primary = [] then .ok primary
        else (projectFit strftime (lastWeek series) thresholds (some secondaryWindowDays)).bind
          (joinFits primary) := by
  obtain ⟨first, isFirst, latest, isLatest, span⟩ := long
  cases series with
  | nil => cases isFirst
  | cons head rest =>
    cases isFirst
    have isLast : (first :: rest).getLast (List.cons_ne_nil _ _) = latest :=
      Option.some.inj ((List.getLast?_eq_some_getLast (List.cons_ne_nil _ _)).symm.trans isLatest)
    have low := first.1.notBefore
    have high := latest.1.notAfter
    have inside : 0 ≤ latest.1.micros + -(7 * day) ∧
        latest.1.micros + -(7 * day) < endOfTime := by
      simp only [day] at span ⊢
      omega
    have week : ((first :: rest).filter fun point =>
        (latest.1.micros + -(7 * day) ≤ point.1.micros : Bool)) = lastWeek (first :: rest) := by
      rw [lastWeek, isLatest]
      simp [sub_eq_add_neg]
    have reached : ¬ latest.1.micros - first.1.micros < 14 * day := by omega
    rw [projectDiskThresholds]
    cases projectFit strftime (first :: rest) thresholds none with
    | error raised => rfl
    | ok primary =>
      by_cases none : primary = []
      · simp [bind, Except.bind, pure, Except.pure, none]
      · simp only [bind, Except.bind, pure, Except.pure, none, if_false, weeks.1, weeks.2,
          isLast, reached, Moment.add, dif_pos inside, week]

theorem projectFit_ok (series : DiskSeries) (thresholds : List Int) (windowDays : Option ℚ) :
    (∃ result, projectFit strftime series thresholds windowDays = .ok result) ↔
      ∀ line ∈ lineOf series, line.Datable thresholds := by
  rw [projectFit_eq]
  cases lineOf series with
  | none => simp
  | some line =>
    rw [exceptM_ok]
    simp only [projectThreshold_ok, Line.Datable, Option.mem_some_iff, forall_eq']

theorem projectFit_reads {series : DiskSeries} {thresholds : List Int} {windowDays : Option ℚ}
    {result : List ThresholdProjection}
    (ran : projectFit strftime series thresholds windowDays = .ok result) :
    result = [] ∨ ∃ line ∈ lineOf series, List.Forall₂
      (Reads line.days line.current) thresholds result := by
  rw [projectFit_eq] at ran
  cases fitted : lineOf series with
  | none =>
    rw [fitted] at ran
    exact Or.inl (Except.ok.inj ran).symm
  | some line =>
    rw [fitted] at ran
    refine Or.inr ⟨line, rfl, (exceptM_each.mp ran).imp ?_⟩
    exact fun threshold projection read => projectThreshold_reads read

theorem getLast?_lastWeek {series : DiskSeries} {latest : Moment × ℚ}
    (last : series.getLast? = some latest) : (lastWeek series).getLast? = some latest := by
  obtain ⟨front, shape⟩ := List.getLast?_eq_some_iff.mp last
  have kept : (series.getLast?.all fun final =>
      (final.1.micros - 7 * day ≤ latest.1.micros : Bool)) = true := by
    rw [last]
    simp [day]
  rw [lastWeek]
  conv_lhs => rw [shape]
  rw [List.filter_append, ← shape, List.filter_singleton, kept]
  simp

theorem lastWeek_current {series : DiskSeries} {whole short : Line}
    (first : lineOf series = some whole) (second : lineOf (lastWeek series) = some short) :
    short.current = whole.current := by
  obtain ⟨latest, last, current, _⟩ := lineOf_current first
  obtain ⟨other, final, same, _⟩ := lineOf_current second
  rw [getLast?_lastWeek last, Option.some.injEq] at final
  rw [same, current, final]

theorem zip_reads {whole short : Int → Option ℚ} {current : ℚ} {thresholds : List Int}
    {primary secondary : List ThresholdProjection}
    (first : List.Forall₂ (Reads whole current) thresholds primary)
    (second : List.Forall₂ (Reads short current) thresholds secondary) :
    List.Forall₂ (Reads (soonerDays whole short) current) thresholds
      (List.zipWith (fun whole short => if sooner short whole then short else whole) primary
        secondary) := by
  induction first generalizing secondary with
  | nil =>
    cases second
    exact .nil
  | cons here _ ih =>
    cases second with
    | cons also rest => exact .cons (sooner_reads here also) (ih rest)

theorem soonerDays_hastens {whole short : Int → Option ℚ} {threshold : Int} {standing : ℚ}
    (known : standing ∈ whole threshold) :
    ∃ count ∈ soonerDays whole short threshold, count ≤ standing := by
  have there : (soonerDays whole short threshold).isSome :=
    soonerDays_isSome.mpr (Or.inl (Option.isSome_of_mem known))
  obtain ⟨count, some⟩ := Option.isSome_iff_exists.mp there
  exact ⟨count, some, (soonerDays_le some).1 standing known⟩

/-- Every line that is fitted, and grows, meets the thresholds ahead of the last reading before the
calendar ends. -/
def Datable (series : DiskSeries) (thresholds : List Int) : Prop :=
  (∀ line ∈ lineOf series, line.Datable thresholds) ∧
    (refitted series → ∀ line ∈ lineOf (lastWeek series), line.Datable thresholds)

theorem projectDiskThresholds_reads {series : DiskSeries} {thresholds : List Int}
    {result : List ThresholdProjection}
    (ran : projectDiskThresholds strftime series thresholds (some secondaryWindowDays) = .ok result) :
    ∃ primary, projectFit strftime series thresholds none = .ok primary ∧ (result = [] ∧ primary = [] ∨
      ∃ line ∈ lineOf series, ∃ days, Steady days ∧ (∀ threshold, ∀ standing ∈ line.days threshold,
          ∃ count ∈ days threshold, count ≤ standing) ∧
        List.Forall₂ (Reads line.days line.current) thresholds primary ∧
        List.Forall₂ (Reads days line.current) thresholds result) := by
  by_cases long : spansTwice series
  · rw [projectDiskThresholds_two thresholds long] at ran
    cases first : projectFit strftime series thresholds none with
    | error raised => simp [first, Except.bind] at ran
    | ok primary =>
      simp only [first, Except.bind] at ran
      refine ⟨primary, rfl, ?_⟩
      rcases projectFit_reads first with none | ⟨line, fitted, reads⟩
      · rw [if_pos none] at ran
        exact Or.inl ⟨(Except.ok.inj ran).symm.trans none, none⟩
      · have alone : ∀ threshold, ∀ standing ∈ line.days threshold, ∃ count ∈ line.days threshold,
            count ≤ standing :=
          fun _ standing known => ⟨standing, known, le_rfl⟩
        by_cases none : primary = []
        · rw [if_pos none] at ran
          exact Or.inl ⟨(Except.ok.inj ran).symm.trans none, none⟩
        · rw [if_neg none] at ran
          cases second : projectFit strftime (lastWeek series) thresholds
            (some secondaryWindowDays) with
          | error raised => simp [second] at ran
          | ok secondary =>
            simp only [second, joinFits] at ran
            rcases projectFit_reads second with nothing | ⟨short, refit, brief⟩
            · rw [if_pos nothing] at ran
              rw [← Except.ok.inj ran]
              exact Or.inr ⟨line, fitted, line.days, line.days_steady, alone, reads, reads⟩
            · rw [lastWeek_current fitted refit] at brief
              have joined := zip_reads reads brief
              have lengths : secondary.length = primary.length :=
                brief.length_eq.symm.trans reads.length_eq
              split at ran
              · rw [← Except.ok.inj ran]
                exact Or.inr ⟨line, fitted, line.days, line.days_steady, alone, reads, reads⟩
              · rw [if_neg (not_not.mpr lengths)] at ran
                rw [← Except.ok.inj ran]
                refine Or.inr ⟨line, fitted, _,
                  soonerDays_steady line.days_steady short.days_steady, ?_, reads, joined⟩
                exact fun _ _ known => soonerDays_hastens known
  · rw [projectDiskThresholds_one thresholds long] at ran
    refine ⟨result, ran, ?_⟩
    rcases projectFit_reads ran with none | ⟨line, fitted, reads⟩
    · exact Or.inl ⟨none, none⟩
    · refine Or.inr ⟨line, fitted, line.days, line.days_steady, ?_, reads, reads⟩
      exact fun _ standing known => ⟨standing, known, le_rfl⟩

end SysadminAssistant.Files.Advice
