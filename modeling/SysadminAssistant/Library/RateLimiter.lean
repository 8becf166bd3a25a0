import Mathlib.Algebra.Order.Group.Defs
import Mathlib.Algebra.Group.Basic

namespace SysadminAssistant.Library

/-! A rate limiter that counts starts in a window, and a loop that starts at a steady cadence.
The window opens at a start; the first start after it has expired opens the next. -/

structure RateLimiter (τ : Type*) where
  /-- Of the time since the window opened. -/
  expired : τ → Bool
  burst : Nat

namespace RateLimiter

inductive State (τ : Type*) where
  | idle
  | counting (opened : τ) (starts : Nat)
  | refused

variable {τ : Type*} [AddCommGroup τ] (limiter : RateLimiter τ)

def start : State τ → τ → State τ
  | .refused, _ => .refused
  | .idle, time => .counting time 1
  | .counting opened starts, time =>
    if limiter.expired (time - opened) then .counting time 1
    else if starts < limiter.burst then .counting opened (starts + 1)
    else .refused

/-- After that many starts, one every `cadence`. -/
def after (cadence : τ) : Nat → State τ
  | 0 => .idle
  | starts + 1 => limiter.start (after cadence starts) (starts • cadence)

def EverRefuses (cadence : τ) : Prop := ∃ starts, limiter.after cadence starts = .refused

variable {limiter} {cadence : τ}

theorem after_counting (expires : limiter.expired (limiter.burst • cadence) = true)
    (positive : 0 < limiter.burst) (starts : Nat) :
    ∃ opened counted, 1 ≤ counted ∧ counted ≤ limiter.burst ∧ opened + counted = starts + 1 ∧
      limiter.after cadence (starts + 1) = .counting (opened • cadence) counted := by
  induction starts with
  | zero => exact ⟨0, 1, le_rfl, positive, by omega, rfl⟩
  | succ starts ih =>
    obtain ⟨opened, counted, some_, most, sum, before⟩ := ih
    have elapsed : (starts + 1) • cadence - opened • cadence = counted • cadence := by
      rw [← sum, add_nsmul, add_sub_cancel_left]
    rw [after, before, start, elapsed]
    cases outlived : limiter.expired (counted • cadence) with
    | true => exact ⟨starts + 1, 1, le_rfl, positive, by omega, rfl⟩
    | false =>
      have room : counted < limiter.burst := by
        rcases most.lt_or_eq with fewer | full
        · exact fewer
        · rw [full, expires] at outlived
          cases outlived
      exact ⟨opened, counted + 1, by omega, room, by omega, by simp [room]⟩

theorem after_filling
    (within : ∀ starts ≤ limiter.burst, limiter.expired (starts • cadence) = false) {starts : Nat}
    (few : starts < limiter.burst) :
    limiter.after cadence (starts + 1) = .counting 0 (starts + 1) := by
  induction starts with
  | zero => rw [after, after, start, zero_nsmul]
  | succ starts ih =>
    rw [after, ih (by omega), start, sub_zero, within _ (by omega)]
    simp [few]

theorem everRefuses_iff (positive : 0 < limiter.burst)
    (expires : ∀ less more : Nat, less ≤ more → limiter.expired (less • cadence) = true →
      limiter.expired (more • cadence) = true) :
    limiter.EverRefuses cadence ↔ limiter.expired (limiter.burst • cadence) = false := by
  constructor
  · intro ever
    obtain ⟨starts, refused⟩ := ever
    rw [← Bool.not_eq_true]
    intro outlived
    cases starts with
    | zero => cases refused
    | succ starts =>
      obtain ⟨_, _, _, _, _, counting⟩ := after_counting outlived positive starts
      rw [counting] at refused
      cases refused
  · intro outlasts
    have within : ∀ starts ≤ limiter.burst, limiter.expired (starts • cadence) = false := by
      intro starts few
      rw [← Bool.not_eq_true]
      intro outlived
      rw [expires starts _ few outlived] at outlasts
      cases outlasts
    obtain ⟨last, full⟩ := Nat.exists_eq_succ_of_ne_zero positive.ne'
    have filled := after_filling within (by omega : last < limiter.burst)
    refine ⟨last + 1 + 1, ?_⟩
    rw [after, filled, start, sub_zero, within _ (by omega)]
    simp [full]

end RateLimiter

end SysadminAssistant.Library
