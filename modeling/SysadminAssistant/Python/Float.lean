import Mathlib.Data.Rat.Floor
import Mathlib.Data.Int.Log
import Mathlib.Algebra.Order.Field.Power
import Mathlib.Tactic.Linarith
import Mathlib.Tactic.NormNum

namespace SysadminAssistant.Python

/-! `float`.  A finite value is the rational a double holds; rounding happens where
the program computes one. -/

/-- `round` on an exact number: to the nearest integer, ties to the even one. -/
def roundHalfEven (value : ℚ) : Int :=
  let floor := value.floor
  let excess := value - floor
  if excess < 1 / 2 then floor
  else if excess > 1 / 2 then floor + 1
  else if floor % 2 = 0 then floor else floor + 1

@[simp] theorem roundHalfEven_zero : roundHalfEven 0 = 0 := by decide +kernel

theorem roundHalfEven_nonneg {value : ℚ} (positive : 0 ≤ value) : 0 ≤ roundHalfEven value := by
  have floorNonneg : 0 ≤ value.floor := Rat.le_floor_iff.mpr (by simpa using positive)
  simp only [roundHalfEven]
  split
  · exact floorNonneg
  · split
    · omega
    · split <;> omega

/-- `int(value)` for a finite double. -/
def truncate (value : ℚ) : Int := if 0 ≤ value then value.floor else value.ceil

/-- The nearest double, below the overflow threshold. -/
def roundToDouble (value : ℚ) : ℚ :=
  let exponent : Int := max (Int.log 2 |value| - 52) (-1074)
  roundHalfEven (value / 2 ^ exponent) * 2 ^ exponent

@[simp] theorem roundToDouble_zero : roundToDouble 0 = 0 := by
  simp [roundToDouble]

theorem roundToDouble_nonneg {value : ℚ} (positive : 0 ≤ value) : 0 ≤ roundToDouble value := by
  have scaled : 0 ≤ roundHalfEven (value / 2 ^ max (Int.log 2 |value| - 52) (-1074)) :=
    roundHalfEven_nonneg (by positivity)
  exact mul_nonneg (by exact_mod_cast scaled) (by positivity)

theorem roundHalfEven_le (value : ℚ) : (roundHalfEven value : ℚ) ≤ value + 1 / 2 := by
  have floor : (value.floor : ℚ) ≤ value := Rat.floor_le value
  simp only [roundHalfEven]
  split
  · linarith
  · rename_i half
    rw [not_lt] at half
    split
    · push_cast
      linarith
    · split
      · linarith
      · push_cast
        linarith

theorem roundToDouble_lt {value : ℚ} (positive : 0 ≤ value) (bound : value < 2 ^ 33) :
    roundToDouble value < value + 1 / 1000000 := by
  have exponent : max (Int.log 2 |value| - 52) (-1074) ≤ -20 := by
    rw [abs_of_nonneg positive]
    rcases eq_or_lt_of_le positive with zero | some
    · rw [← zero, Int.log_zero_right]
      decide
    · have log : Int.log 2 value < 33 :=
        (Int.lt_zpow_iff_log_lt (by decide) some).mp (by exact_mod_cast bound)
      omega
  have ulp : (2 : ℚ) ^ max (Int.log 2 |value| - 52) (-1074) ≤ 2 ^ (-20 : ℤ) :=
    zpow_le_zpow_right₀ (by norm_num) exponent
  have rounded := roundHalfEven_le (value / 2 ^ max (Int.log 2 |value| - 52) (-1074))
  have spacing : (0 : ℚ) < 2 ^ max (Int.log 2 |value| - 52) (-1074) := by positivity
  have scaled := mul_le_mul_of_nonneg_right rounded spacing.le
  rw [add_mul, div_mul_cancel₀ _ spacing.ne'] at scaled
  have small : (2 : ℚ) ^ (-20 : ℤ) < 2 / 1000000 := by norm_num
  have tiny := ulp.trans_lt small
  simp only [roundToDouble]
  linarith only [scaled, tiny]

inductive PyFloat where
  | finite (value : ℚ)
  | infinite (negative : Bool)
  | nan
deriving DecidableEq

namespace PyFloat

/-- `value < 0`. -/
def isNegative : PyFloat → Bool
  | .finite value => value < 0
  | .infinite negative => negative
  | .nan => false

/-- The result of an operation on doubles whose exact value is `value`. -/
def round (value : ℚ) : PyFloat :=
  let nearest := roundToDouble value
  if |nearest| < 2 ^ 1024 then .finite nearest else .infinite (decide (value < 0))

/-- `left + right`; adding zero is exact. -/
def add (left : PyFloat) (right : ℚ) : PyFloat :=
  match left with
  | .finite value => if right = 0 then left else round (value + right)
  | _ => left

theorem add_zero (value : PyFloat) : value.add 0 = value := by
  cases value <;> simp [add]

/-- `left * right` for a finite left side. -/
def mul (left : ℚ) : PyFloat → PyFloat
  | .finite right => round (left * right)
  | .infinite negative =>
    if left = 0 then .nan else .infinite (negative ^^ decide (left < 0))
  | .nan => .nan

/-- `max(left, right)`: the first argument unless the second is greater. -/
def max (left : PyFloat) (right : ℚ) : PyFloat :=
  match left with
  | .finite value => if right > value then .finite right else left
  | .infinite negative => if negative then .finite right else left
  | .nan => .nan

/-- `value >= bound`. -/
def atLeast (value : PyFloat) (bound : Int) : Bool :=
  match value with
  | .finite value => (bound : ℚ) ≤ value
  | .infinite negative => !negative
  | .nan => false

/-- `left < right`. -/
def less : PyFloat → PyFloat → Bool
  | .finite left, .finite right => left < right
  | .infinite negative, .infinite other => negative && !other
  | .infinite negative, .finite _ => negative
  | .finite _, .infinite negative => !negative
  | .nan, _ | _, .nan => false

/-- `value <= 0`. -/
def isNonPositive : PyFloat → Bool
  | .finite value => value ≤ 0
  | .infinite negative => negative
  | .nan => false

/-- An `int` as an operand of a `float`; `none` is an `OverflowError`. -/
def ofInt? (n : Int) : Option ℚ :=
  let nearest := roundToDouble n
  if |nearest| < 2 ^ 1024 then some nearest else none

/-- `bool(value)`. -/
def truthy (value : PyFloat) : Bool := value ≠ .finite 0

end PyFloat

/-- `timedelta(days=1)`, in microseconds. -/
def day : Int := 86400000000

/-- `value > bound` for a finite left side. -/
def exceeds (value : ℚ) : PyFloat → Bool
  | .finite bound => bound < value
  | .infinite negative => negative
  | .nan => false

/-- `value >= bound` for a finite left side. -/
def reaches (value : ℚ) : PyFloat → Bool
  | .finite bound => bound ≤ value
  | .infinite negative => negative
  | .nan => false

theorem reaches_mono {less more : ℚ} {bound : PyFloat} (order : less ≤ more)
    (low : reaches less bound = true) : reaches more bound = true := by
  cases bound with
  | finite bound =>
    simp only [reaches, decide_eq_true_eq] at low ⊢
    exact low.trans order
  | infinite negative => exact low
  | nan => exact low

theorem exceeds_mono {less more : ℚ} {bound : PyFloat} (order : less ≤ more)
    (low : exceeds less bound = true) : exceeds more bound = true := by
  cases bound with
  | finite bound =>
    simp only [exceeds, decide_eq_true_eq] at low ⊢
    exact low.trans_le order
  | infinite negative => exact low
  | nan => exact low

/-- `later - earlier` for two clock readings. -/
def elapsed (later earlier : ℚ) : ℚ := roundToDouble (later - earlier)

/-- `timedelta.total_seconds()` of a number of microseconds. -/
def totalSeconds (microseconds : Int) : ℚ := roundToDouble (microseconds / 1000000)

@[simp] theorem totalSeconds_zero : totalSeconds 0 = 0 := by
  simp [totalSeconds, roundToDouble]

/-- `datetime.min` and `datetime.max` in UTC. -/
def firstInstant : Int := -62135596800 * 1000000

def lastInstant : Int := 253402300800 * 1000000 - 1

/-- `moment + timedelta(seconds=seconds)`; `none` is an `OverflowError`. -/
def addSeconds (moment seconds : Int) : Option Int :=
  let sum := moment + seconds * 1000000
  if firstInstant ≤ sum ∧ sum ≤ lastInstant then some sum else none

/-- `round(value, places)`. -/
def roundPlaces (value : ℚ) (places : Nat) : ℚ :=
  roundToDouble (roundHalfEven (value * 10 ^ places) / 10 ^ places)

theorem totalSeconds_nonneg {microseconds : Int} (forward : 0 ≤ microseconds) :
    0 ≤ totalSeconds microseconds :=
  roundToDouble_nonneg (by positivity)

end SysadminAssistant.Python
