import SysadminAssistant.Python.Rounding

namespace SysadminAssistant.Python

/-! How far a double is from the value it stands for. -/

theorem roundHalfEven_ge (value : ℚ) : value - 1 / 2 ≤ roundHalfEven value := by
  have above : value < ((value.floor + 1 : Int) : ℚ) := Rat.lt_floor_add_one value
  push_cast at above
  simp only [roundHalfEven]
  split
  · rename_i less
    linarith
  · split
    · push_cast
      linarith
    · rename_i notLess notMore
      have half : value - value.floor = 1 / 2 := le_antisymm (not_lt.mp notMore) (not_lt.mp notLess)
      split
      · linarith
      · push_cast
        linarith

theorem lastBit_of_power {value : ℚ} {power : Int} (above : 2 ^ power ≤ value)
    (below : value < 2 ^ (power + 1)) (normal : -1022 ≤ power) : lastBit value = power - 52 := by
  have positive : 0 < value := lt_of_lt_of_le (by positivity) above
  have lower : power ≤ Int.log 2 value :=
    (Int.zpow_le_iff_le_log (by decide) positive).mp (by exact_mod_cast above)
  have upper : Int.log 2 value < power + 1 :=
    (Int.lt_zpow_iff_log_lt (by decide) positive).mp (by exact_mod_cast below)
  rw [lastBit, abs_of_pos positive]
  omega

theorem lastBit_unit {value : ℚ} {power : Int} (positive : 0 < value)
    (below : value < 2 ^ (power + 1)) (normal : -1022 ≤ power) :
    (2 : ℚ) ^ lastBit value ≤ 2 ^ (power - 53) * 2 := by
  have upper : Int.log 2 value < power + 1 :=
    (Int.lt_zpow_iff_log_lt (by decide) positive).mp (by exact_mod_cast below)
  have place : lastBit value ≤ power - 52 := by
    rw [lastBit, abs_of_pos positive]
    omega
  rw [← zpow_add_one₀ (by norm_num)]
  exact zpow_le_zpow_right₀ (by norm_num) (by omega)

theorem roundToDouble_le_of_lt {value : ℚ} {power : Int} (positive : 0 < value)
    (below : value < 2 ^ (power + 1)) (normal : -1022 ≤ power) :
    roundToDouble value ≤ value + 2 ^ (power - 53) := by
  have spacing : (0 : ℚ) < 2 ^ lastBit value := by positivity
  have scaled := mul_le_mul_of_nonneg_right (roundHalfEven_le (value / 2 ^ lastBit value)) spacing.le
  rw [add_mul, div_mul_cancel₀ _ spacing.ne'] at scaled
  have unit := lastBit_unit positive below normal
  rw [roundToDouble_eq]
  linarith

theorem le_roundToDouble_of_lt {value : ℚ} {power : Int} (positive : 0 < value)
    (below : value < 2 ^ (power + 1)) (normal : -1022 ≤ power) :
    value - 2 ^ (power - 53) ≤ roundToDouble value := by
  have spacing : (0 : ℚ) < 2 ^ lastBit value := by positivity
  have scaled := mul_le_mul_of_nonneg_right (roundHalfEven_ge (value / 2 ^ lastBit value)) spacing.le
  rw [sub_mul, div_mul_cancel₀ _ spacing.ne'] at scaled
  have unit := lastBit_unit positive below normal
  rw [roundToDouble_eq]
  linarith

theorem roundHalfEven_eq_zero {value : ℚ} (nonneg : 0 ≤ value) (small : value < 1 / 2) :
    roundHalfEven value = 0 := by
  have near := roundHalfEven_le value
  have below : (roundHalfEven value : ℚ) < 1 := by linarith
  have least := roundHalfEven_nonneg nonneg
  have most : roundHalfEven value < 1 := by exact_mod_cast below
  omega

theorem roundHalfEven_pos {value : ℚ} (large : 1 / 2 < value) : 0 < roundHalfEven value := by
  have near := roundHalfEven_ge value
  have positive : (0 : ℚ) < roundHalfEven value := by linarith
  exact_mod_cast positive

/-! ## Minutes to one place -/

theorem twentieth_lt : (1 / 20 : ℚ) < roundToDouble (1 / 20) := by
  have place : lastBit (1 / 20) = -5 - 52 := lastBit_of_power (by norm_num) (by norm_num) (by decide)
  have near := roundHalfEven_ge ((1 / 20 : ℚ) / 2 ^ (-5 - 52 : Int))
  have units : (7205759403792793 : Int) < roundHalfEven ((1 / 20 : ℚ) / 2 ^ (-5 - 52 : Int)) := by
    refine (Int.cast_lt (R := ℚ)).mp (lt_of_lt_of_le ?_ near)
    norm_num
  have up : ((7205759403792794 : Int) : ℚ) ≤ roundHalfEven ((1 / 20 : ℚ) / 2 ^ (-5 - 52 : Int)) :=
    (Int.cast_le (R := ℚ)).mpr (Int.add_one_le_of_lt units)
  rw [roundToDouble_eq, place]
  refine lt_of_lt_of_le ?_ (mul_le_mul_of_nonneg_right up (by positivity))
  norm_num

theorem roundToDouble_three : roundToDouble 3 = 3 := by
  have place : lastBit 3 = 1 - 52 := lastBit_of_power (by norm_num) (by norm_num) (by decide)
  have whole : (3 : ℚ) / 2 ^ (1 - 52 : Int) = ((3 * 2 ^ 51 : Int) : ℚ) := by norm_num
  rw [roundToDouble_eq, place, whole, roundHalfEven_intCast]
  norm_num

theorem roundToDouble_sixty : roundToDouble 60 = 60 := by
  have place : lastBit 60 = 5 - 52 := lastBit_of_power (by norm_num) (by norm_num) (by decide)
  have whole : (60 : ℚ) / 2 ^ (5 - 52 : Int) = ((60 * 2 ^ 47 : Int) : ℚ) := by norm_num
  rw [roundToDouble_eq, place, whole, roundHalfEven_intCast]
  norm_num

theorem totalSeconds_le_sixty {microseconds : Int} (forward : 0 ≤ microseconds) :
    totalSeconds microseconds ≤ 60 ↔ microseconds ≤ 60000000 := by
  constructor
  · intro within
    by_contra beyond
    have least :=
      totalSeconds_mono (by decide : (0 : Int) ≤ 60000001) (Int.add_one_le_of_lt (not_le.mp beyond))
    have near := @le_roundToDouble_of_lt (60000001 / 1000000) 5 (by norm_num) (by norm_num) (by decide)
    have more : (60 : ℚ) < totalSeconds 60000001 := by
      rw [totalSeconds]
      norm_num at near ⊢
      linarith
    linarith
  · intro within
    have most := totalSeconds_mono forward within
    have sixty : totalSeconds 60000000 = 60 := by
      rw [totalSeconds]
      norm_num [roundToDouble_sixty]
    rwa [sixty] at most

theorem totalSeconds_ge_three {microseconds : Int} (long : 3000000 ≤ microseconds) :
    3 ≤ totalSeconds microseconds := by
  have least := totalSeconds_mono (by decide : (0 : Int) ≤ 3000000) long
  have three : totalSeconds 3000000 = 3 := by
    rw [totalSeconds]
    norm_num [roundToDouble_three]
  rwa [three] at least

theorem totalSeconds_lt_three {microseconds : Int} (forward : 0 ≤ microseconds)
    (brief : microseconds < 3000000) : totalSeconds microseconds ≤ 2.9999995 := by
  have most := totalSeconds_mono forward (Int.le_sub_one_of_lt brief)
  have near := @roundToDouble_le_of_lt (2999999 / 1000000) 1 (by norm_num) (by norm_num) (by decide)
  refine most.trans ?_
  rw [totalSeconds]
  norm_num at near ⊢
  linarith

theorem minutes_pos {seconds : ℚ} (long : 3 ≤ seconds) :
    roundPlaces (roundToDouble (seconds / 60)) 1 ≠ 0 := by
  have minutes : (1 / 20 : ℚ) < roundToDouble (seconds / 60) :=
    twentieth_lt.trans_le (roundToDouble_mono (by norm_num) (by linarith))
  have tenths : 0 < roundHalfEven (roundToDouble (seconds / 60) * 10 ^ 1) :=
    roundHalfEven_pos (by linarith)
  have least : (1 / 10 : ℚ) ≤ roundHalfEven (roundToDouble (seconds / 60) * 10 ^ 1) / 10 ^ 1 := by
    have one : (1 : ℚ) ≤ roundHalfEven (roundToDouble (seconds / 60) * 10 ^ 1) := by
      exact_mod_cast tenths
    linarith
  have place : lastBit (1 / 10) = -4 - 52 := lastBit_of_power (by norm_num) (by norm_num) (by decide)
  have tenth : (0 : ℚ) < roundToDouble (1 / 10) :=
    lt_of_lt_of_le (by positivity) (power_le_roundToDouble (by norm_num) (by rw [place]; decide))
  exact (tenth.trans_le (roundToDouble_mono (by norm_num) least)).ne'

theorem minutes_zero {seconds : ℚ} (forward : 0 ≤ seconds) (brief : seconds ≤ 2.9999995) :
    roundPlaces (roundToDouble (seconds / 60)) 1 = 0 := by
  have most : roundToDouble (seconds / 60) ≤ roundToDouble (2.9999995 / 60) :=
    roundToDouble_mono (by linarith) (by linarith)
  have near := @roundToDouble_le_of_lt (2.9999995 / 60) (-5) (by norm_num) (by norm_num) (by decide)
  have small : roundToDouble (seconds / 60) < 1 / 20 := by
    refine lt_of_le_of_lt (most.trans near) ?_
    norm_num
  have nonneg : 0 ≤ roundToDouble (seconds / 60) := roundToDouble_nonneg (by linarith)
  rw [roundPlaces, roundHalfEven_eq_zero (by linarith) (by linarith)]
  simp [roundToDouble]

end SysadminAssistant.Python
