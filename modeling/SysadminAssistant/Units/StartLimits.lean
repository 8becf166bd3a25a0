import SysadminAssistant.Library.RateLimiter
import SysadminAssistant.Units.UnitFiles

namespace SysadminAssistant.Units

open Python Library

/-! `restart_is_bounded` against the start rate limiter it is about. -/

/-- systemd's limiter, which zero switches off.  A start exactly an interval after the window opened
falls in a new one or, for `inclusive`, still in the old. -/
def startLimiter (inclusive : Bool) (interval : PyFloat) (burst : Int) : Option (RateLimiter ℚ) :=
  if interval.isNonPositive || decide (burst ≤ 0) then none
  else some
    { expired := fun elapsed => if inclusive then exceeds elapsed interval else reaches elapsed interval
      burst := burst.toNat }

/-- The loop that starts the unit at 0, c, 2c, … is refused at some point. -/
def EverRefused (inclusive : Bool) (interval : PyFloat) (burst : Int) (cadence : ℚ) : Prop :=
  ∃ limiter, startLimiter inclusive interval burst = some limiter ∧ limiter.EverRefuses cadence

/-- As many cadences as the limiter admits starts pass within the interval. -/
def outlasts (inclusive : Bool) (interval : PyFloat) (burst : Int) (cadence : ℚ) : Bool :=
  !(if inclusive then exceeds (burst * cadence) interval else reaches (burst * cadence) interval)

theorem everRefused_iff {inclusive : Bool} {interval : PyFloat} {burst : Int} {cadence : ℚ}
    (forward : 0 ≤ cadence) : EverRefused inclusive interval burst cadence ↔
      interval.isNonPositive = false ∧ 0 < burst ∧
        outlasts inclusive interval burst cadence = true := by
  cases off : interval.isNonPositive || decide (burst ≤ 0) with
  | true =>
    have unlimited : ¬ (interval.isNonPositive = false ∧ 0 < burst) := by
      intro limited
      simp only [limited.1, Bool.false_or, decide_eq_true_eq] at off
      omega
    constructor
    · intro refused
      obtain ⟨limiter, made, _⟩ := refused
      rw [startLimiter, if_pos off] at made
      cases made
    · intro limited
      exact absurd ⟨limited.1, limited.2.1⟩ unlimited
  | false =>
    obtain ⟨positive, some_⟩ := Bool.or_eq_false_iff.mp off
    have more : 0 < burst := by
      have := of_decide_eq_false some_
      omega
    have made : startLimiter inclusive interval burst = some
        { expired := fun elapsed => if inclusive then exceeds elapsed interval else reaches elapsed interval
          burst := burst.toNat } := by
      rw [startLimiter, off]
      rfl
    have scaled : (burst.toNat : ℚ) = burst := by exact_mod_cast Int.toNat_of_nonneg more.le
    have expires : ∀ less more : Nat, less ≤ more →
        (if inclusive then exceeds (less • cadence) interval
          else reaches (less • cadence) interval) = true →
        (if inclusive then exceeds (more • cadence) interval
          else reaches (more • cadence) interval) = true := by
      intro less more order spent
      have later : less • cadence ≤ more • cadence := nsmul_le_nsmul_left forward order
      cases inclusive with
      | true => exact exceeds_mono later spent
      | false => exact reaches_mono later spent
    have refuses := @RateLimiter.everRefuses_iff _ _
      ⟨fun elapsed => if inclusive then exceeds elapsed interval else reaches elapsed interval,
        burst.toNat⟩
      cadence (by simp only; omega) expires
    rw [EverRefused, made]
    simp only [Option.some.injEq, exists_eq_left', refuses, positive, more, true_and, outlasts,
      nsmul_eq_mul, scaled, Bool.not_eq_true']

section

variable (tools : CaseTools) (restart : Text) (restartSec startLimitInterval : Option PyFloat)
  (startLimitBurst : Option Int)

/-- The answer is whether the loop is refused. -/
def AgreesWithLimiter (inclusive : Bool) (cadence : ℚ) : Prop :=
  ∃ bounded, restartIsBounded tools (some restart) restartSec startLimitInterval startLimitBurst =
    some bounded ∧
    (bounded = true ↔ EverRefused inclusive (startLimitInterval.getD defaultStartLimitInterval)
      (startLimitBurst.getD defaultStartLimitBurst) cadence)

end

/-- When the last admitted start comes, as a double; `none` is an `OverflowError`. -/
def lastStart (burst : Int) (cadence : ℚ) : Option PyFloat :=
  (PyFloat.ofInt? (burst - 1)).map fun starts => PyFloat.mul starts (.finite cadence)

/-- The limiter is off; or one start more than it admits comes within the interval (and the last
that it admits too, as doubles go); or not even the last that it admits does, where that is not the
first. -/
inductive LimitsAlike (inclusive : Bool) (interval : PyFloat) (burst : Int) (cadence : ℚ) : Prop where
  | off (unlimited : interval.isNonPositive = true ∨ burst ≤ 0)
  | refused (past : outlasts inclusive interval burst cadence = true)
      (admitted : burst = 1 ∨ ∃ last, lastStart burst cadence = some last ∧ last.less interval = true)
  | endless (room : outlasts inclusive interval burst cadence = false) (several : burst ≠ 1)
      (late : ∃ last, lastStart burst cadence = some last ∧ last.less interval = false)

theorem agreesWithLimiter_iff (inclusive : Bool) (tools : CaseTools) (restart : Text)
    (restartSec startLimitInterval : Option PyFloat) (startLimitBurst : Option Int) (cadence : ℚ)
    (restarts : tools.lower restart.strip ∉ [text "", text "no"])
    (finite : restartSec.getD defaultRestartSec = .finite cadence) (forward : 0 ≤ cadence) :
    AgreesWithLimiter tools restart restartSec startLimitInterval startLimitBurst
      inclusive cadence ↔ LimitsAlike inclusive (startLimitInterval.getD defaultStartLimitInterval)
        (startLimitBurst.getD defaultStartLimitBurst) cadence := by
  simp only [AgreesWithLimiter, restartIsBounded, if_neg restarts, finite, everRefused_iff forward,
    reduceCtorEq, if_false]
  generalize startLimitInterval.getD defaultStartLimitInterval = interval
  generalize startLimitBurst.getD defaultStartLimitBurst = burst
  cases off : interval.isNonPositive || decide (burst ≤ 0) with
  | true =>
    have unlimited : interval.isNonPositive = true ∨ burst ≤ 0 := by simpa using off
    have never : ¬ (interval.isNonPositive = false ∧ 0 < burst ∧
        outlasts inclusive interval burst cadence = true) := by
      intro limited
      rcases unlimited with zero | none_
      · rw [limited.1] at zero
        cases zero
      · omega
    exact iff_of_true ⟨false, rfl, by simpa using never⟩ (.off unlimited)
  | false =>
    obtain ⟨positive, some_⟩ := Bool.or_eq_false_iff.mp off
    have more : 0 < burst := by
      have := of_decide_eq_false some_
      omega
    have limited : ¬ (interval.isNonPositive = true ∨ burst ≤ 0) := by
      rw [positive]
      simp only [Bool.false_eq_true, false_or]
      omega
    simp only [positive, more, true_and]
    by_cases one : burst = 1
    · rw [if_neg (by simp), if_pos one]
      constructor
      · intro agrees
        obtain ⟨bounded, same, refused⟩ := agrees
        cases same
        exact .refused (refused.mp rfl) (Or.inl one)
      · intro alike
        cases alike with
        | off unlimited => exact absurd unlimited limited
        | refused past _ => exact ⟨true, rfl, by simp [past]⟩
        | endless _ several _ => exact absurd one several
    · rw [if_neg (by simp), if_neg one]
      cases last : lastStart burst cadence with
      | none =>
        have overflow : PyFloat.ofInt? (burst - 1) = none := Option.map_eq_none_iff.mp last
        constructor
        · intro agrees
          obtain ⟨_, same, _⟩ := agrees
          rw [overflow] at same
          cases same
        · intro alike
          cases alike with
          | off unlimited => exact absurd unlimited limited
          | refused _ admitted => simp [one, last] at admitted
          | endless _ _ late => simp [last] at late
      | some start =>
        obtain ⟨starts, converted, product⟩ := Option.map_eq_some_iff.mp last
        rw [converted, Option.map_some, product]
        constructor
        · intro agrees
          obtain ⟨bounded, same, refused⟩ := agrees
          cases same
          cases past : outlasts inclusive interval burst cadence with
          | true => exact .refused past (Or.inr ⟨start, last, refused.mpr past⟩)
          | false =>
            refine .endless past one ⟨start, last, ?_⟩
            rw [← Bool.not_eq_true, refused, past]
            simp
        · intro alike
          refine ⟨_, rfl, ?_⟩
          cases alike with
          | off unlimited => exact absurd unlimited limited
          | refused past admitted =>
            obtain ⟨other, same, less⟩ := admitted.resolve_left one
            rw [last] at same
            cases same
            rw [past, less]
          | endless room _ late =>
            obtain ⟨other, same, less⟩ := late
            rw [last] at same
            cases same
            rw [room, less]

/-- Restarting every 100 ms, as systemd does by default: the sixth start in ten seconds is refused. -/
theorem default_restarts_refused :
    AgreesWithLimiter ⟨id, id⟩ (text "always") none none none true (roundToDouble (1 / 10)) :=
  (agreesWithLimiter_iff true ⟨id, id⟩ (text "always") none none none (roundToDouble (1 / 10))
    (by decide) rfl
    (by decide +kernel)).mpr
      (.refused (by decide +kernel) (Or.inr ((Option.any_eq_true _ _).mp (by decide +kernel))))

/-- The arithmetic is the limiter's, whatever the unit declares. -/
def AlwaysAgrees (inclusive : Bool) : Prop :=
  ∀ (tools : CaseTools) (restart : Text) (restartSec startLimitInterval : Option PyFloat)
    (startLimitBurst : Option Int) (cadence : ℚ), tools.lower restart.strip ∉ [text "", text "no"] →
    restartSec.getD defaultRestartSec = .finite cadence → 0 ≤ cadence →
    AgreesWithLimiter tools restart restartSec startLimitInterval startLimitBurst inclusive cadence

theorem not_alwaysAgrees (inclusive : Bool) : ¬ AlwaysAgrees inclusive := by
  intro claim
  have agrees :=
    claim ⟨id, id⟩ (text "always") (some (.finite (9 / 4))) none none (9 / 4) (by decide) rfl
    (by norm_num)
  obtain ⟨bounded, answer, refused⟩ := agrees
  have answered : restartIsBounded ⟨id, id⟩ (some (text "always"))
      (some (.finite (9 / 4))) none none = some true := by
    decide +kernel
  rw [answered] at answer
  have outlasted := ((everRefused_iff (by norm_num)).mp (refused.mp (Option.some.inj answer).symm)).2.2
  revert outlasted
  cases inclusive <;> decide +kernel

/-- A start every 2.25 s: the fifth comes after 9 s, and the sixth opens a new window. -/
theorem fifth_start_mistaken_for_sixth : ¬ AlwaysAgrees true ∧ ¬ AlwaysAgrees false :=
  ⟨not_alwaysAgrees true, not_alwaysAgrees false⟩

end SysadminAssistant.Units
