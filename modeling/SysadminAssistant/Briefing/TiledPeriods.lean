import Mathlib.Data.Int.LeastGreatest
import Mathlib.Order.Bounds.Basic
import SysadminAssistant.Briefing.Data

namespace SysadminAssistant.Briefing

open Python

/-! When the period of a briefing starts at the last scheduled boundary. -/

section

variable (zone : Zone) (time : BriefingTime)

/-- What the local clock shows. -/
def Zone.clockAt (instant : Int) : Int := instant + zone.offsetAt instant

/-- The local clock shows the briefing time. -/
def Reads (instant : Int) : Prop := zone.clockAt instant % day = time.reading

/-- The local clock goes past a briefing time that it does not show, and this is the first instant
after. -/
def EndsSkip (instant : Int) : Prop :=
  ∃ skipped, skipped % day = time.reading ∧ zone.clockAt (instant - 1) < skipped ∧
    skipped < zone.clockAt instant

def Boundary (instant : Int) : Prop := Reads zone time instant ∨ EndsSkip zone time instant

/-- The last boundary that is not after an instant. -/
def LastBoundary (now boundary : Int) : Prop :=
  IsGreatest {instant | Boundary zone time instant ∧ instant ≤ now} boundary

/-- The last boundary is less than a day old, and the clock of now would show the briefing time
there. -/
def Steady (now : Int) : Prop :=
  ∃ boundary, LastBoundary zone time now boundary ∧
    (boundary + zone.offsetAt now) % day = time.reading ∧ now < boundary + day

/-- No boundary lies between two. -/
def Consecutive (first next : Int) : Prop :=
  Boundary zone time first ∧ Boundary zone time next ∧ first < next ∧
    ∀ between, first < between → between < next → ¬ Boundary zone time between

/-- The stretch from the start of one period to the start of the next holds the instants between the
boundaries. -/
def Tiles (first next : Int) : Prop :=
  ∀ instant, periodStart zone time first ≤ instant ∧ instant < periodStart zone time next ↔
    LastBoundary zone time instant first

end

section

variable {zone : Zone} {time : BriefingTime} {now boundary : Int}

theorem reading_bounds (time : BriefingTime) : 0 ≤ time.reading ∧ time.reading < day := by
  have hour := time.hour_lt
  have minute := time.minute_lt
  simp only [BriefingTime.reading, day]
  omega

theorem periodStart_spec (zone : Zone) (time : BriefingTime) (now : Int) :
    (periodStart zone time now + zone.offsetAt now) % day = time.reading ∧
      periodStart zone time now ≤ now ∧ now < periodStart zone time now + day := by
  have bounds := reading_bounds time
  simp only [periodStart]
  by_cases later : now + zone.offsetAt now < (now + zone.offsetAt now) / day * day + time.reading
  · rw [if_pos later]
    simp only [day] at *
    omega
  · rw [if_neg later]
    simp only [day] at *
    omega

theorem periodStart_unique (shown : (boundary + zone.offsetAt now) % day = time.reading)
    (past : boundary ≤ now) (recent : now < boundary + day) :
    periodStart zone time now = boundary := by
  obtain ⟨start, before, within⟩ := periodStart_spec zone time now
  simp only [day] at *
  omega

theorem periodStart_last_iff :
    LastBoundary zone time now (periodStart zone time now) ↔ Steady zone time now := by
  obtain ⟨shown, _, recent⟩ := periodStart_spec zone time now
  constructor
  · exact fun last => ⟨_, last, shown, recent⟩
  · intro steady
    obtain ⟨boundary, last, shown, recent⟩ := steady
    rw [periodStart_unique shown last.1.2 recent]
    exact last

theorem lastBoundary_self (boundary : Boundary zone time now) : LastBoundary zone time now now :=
  ⟨⟨boundary, le_rfl⟩, fun _ listed => listed.2⟩

theorem periodStart_self (boundary : Boundary zone time now) :
    periodStart zone time now = now ↔ Steady zone time now := by
  rw [← periodStart_last_iff]
  constructor
  · intro same
    rw [same]
    exact lastBoundary_self boundary
  · exact fun last => last.unique (lastBoundary_self boundary)

theorem lastBoundary_between {first next instant : Int}
    (consecutive : Consecutive zone time first next) :
    LastBoundary zone time instant first ↔ first ≤ instant ∧ instant < next := by
  obtain ⟨here, there, ahead, none⟩ := consecutive
  constructor
  · intro last
    refine ⟨last.1.2, ?_⟩
    by_contra past
    exact absurd (last.2 ⟨there, not_lt.mp past⟩) (not_le.mpr ahead)
  · intro between
    refine ⟨⟨here, between.1⟩, fun other listed => ?_⟩
    by_contra later
    exact none other (not_le.mp later) (listed.2.trans_lt between.2) listed.1

theorem tiles_iff {first next : Int} (consecutive : Consecutive zone time first next) :
    Tiles zone time first next ↔ Steady zone time first ∧ Steady zone time next := by
  have ahead := consecutive.2.2.1
  rw [← periodStart_self consecutive.1, ← periodStart_self consecutive.2.1]
  simp only [Tiles, lastBoundary_between consecutive]
  constructor
  · intro tiled
    have start := (tiled first).mpr ⟨le_rfl, ahead⟩
    have stop := (tiled (next - 1)).mpr ⟨by omega, by omega⟩
    have least := (tiled (periodStart zone time first)).mp ⟨le_rfl, by omega⟩
    have most := (tiled (periodStart zone time next - 1)).mp ⟨by omega, by omega⟩
    omega
  · intro starts instant
    rw [starts.1, starts.2]

end

/-- The period starts at the last boundary exactly where the clock has been steady since, and the
periods of consecutive boundaries tile the time between them exactly where it is steady at both. -/
theorem period_starts_last_iff (zone : Zone) (time : BriefingTime) (now : Int) :
    (LastBoundary zone time now (periodStart zone time now) ↔ Steady zone time now) ∧
      ∀ first next, Consecutive zone time first next →
        (Tiles zone time first next ↔ Steady zone time first ∧ Steady zone time next) :=
  ⟨periodStart_last_iff, fun _ _ => tiles_iff⟩

def springForward : Zone := ⟨0, [(1774746000000000, 3600000000)], by simp⟩

def sixOClock : BriefingTime := ⟨6, 0, by decide, by decide⟩

/-- Two hours after the clock has gone forward the period starts at five o'clock of the day before. -/
theorem springForward_early : ¬ ∀ now,
    LastBoundary springForward sixOClock now (periodStart springForward sixOClock now) := by
  intro always
  have last := always 1774753200000000
  have six : Boundary springForward sixOClock 1774677600000000 := by
    rw [Boundary, Reads]
    exact .inl (by decide)
  exact absurd (last.2 ⟨six, by decide⟩) (by decide)

end SysadminAssistant.Briefing
