import SysadminAssistant.Python.Float

namespace SysadminAssistant.Python

/-! Rounding keeps order, and mirrors at zero. -/

theorem roundHalfEven_floor (value : ℚ) :
    roundHalfEven value = value.floor ∨
      (1 / 2 ≤ value - value.floor ∧ roundHalfEven value = value.floor + 1) := by
  simp only [roundHalfEven]
  split
  · exact Or.inl rfl
  · rename_i half
    rw [not_lt] at half
    split
    · exact Or.inr ⟨half, rfl⟩
    · split
      · exact Or.inl rfl
      · exact Or.inr ⟨half, rfl⟩

theorem roundHalfEven_mono {less more : ℚ} (order : less ≤ more) :
    roundHalfEven less ≤ roundHalfEven more := by
  have floors : less.floor ≤ more.floor := Rat.floor_monotone order
  rcases floors.lt_or_eq with apart | same
  · rcases roundHalfEven_floor less with left | ⟨_, left⟩ <;>
      rcases roundHalfEven_floor more with right | ⟨_, right⟩ <;> omega
  · have excess : less - less.floor ≤ more - more.floor := by
      rw [same]
      linarith
    simp only [roundHalfEven]
    rw [← same] at excess ⊢
    split_ifs <;> first | omega | (exfalso; linarith)

@[simp] theorem roundHalfEven_intCast (value : Int) : roundHalfEven (value : ℚ) = value := by
  have floor : (value : ℚ).floor = value := Rat.floor_intCast value
  simp [roundHalfEven, floor]

theorem roundHalfEven_neg (value : ℚ) : roundHalfEven (-value) = -roundHalfEven value := by
  have below : (value.floor : ℚ) ≤ value := Rat.floor_le value
  have above : value < ((value.floor + 1 : Int) : ℚ) := Rat.lt_floor_add_one value
  push_cast at above
  rcases below.eq_or_lt with whole | inside
  · have negated : -value = ((-value.floor : Int) : ℚ) := by
      push_cast
      rw [whole]
    have itself : roundHalfEven value = value.floor := by
      conv_lhs => rw [← whole]
      exact roundHalfEven_intCast _
    rw [negated, roundHalfEven_intCast, itself]
  · have mirrored : (-value).floor = -value.floor - 1 := by
      refine le_antisymm (Int.lt_add_one_iff.mp (Rat.floor_lt_iff.mpr ?_))
        (Rat.le_floor_iff.mpr ?_) <;>
        push_cast <;> linarith
    simp only [roundHalfEven, mirrored]
    push_cast
    split_ifs <;> first | omega | (exfalso; linarith)

/-- The exponent of the last bit of a double near the value. -/
def lastBit (value : ℚ) : Int := max (Int.log 2 |value| - 52) (-1074)

theorem roundToDouble_eq (value : ℚ) :
    roundToDouble value = roundHalfEven (value / 2 ^ lastBit value) * 2 ^ lastBit value :=
  rfl

theorem lastBit_mono {less more : ℚ} (positive : 0 < less) (order : less ≤ more) :
    lastBit less ≤ lastBit more := by
  have logs : Int.log 2 |less| ≤ Int.log 2 |more| := by
    rw [abs_of_pos positive, abs_of_pos (positive.trans_le order)]
    exact Int.log_mono_right positive order
  simp only [lastBit]
  omega

theorem roundToDouble_le_power {value : ℚ} (positive : 0 < value) :
    roundToDouble value ≤ 2 ^ (lastBit value + 53) := by
  have bound : value < 2 ^ (Int.log 2 |value| + 1) := by
    rw [abs_of_pos positive]
    exact_mod_cast Int.lt_zpow_succ_log_self (by norm_num : 1 < 2) value
  have powers : (2 : ℚ) ^ (Int.log 2 |value| + 1) ≤ 2 ^ (lastBit value + 53) :=
    zpow_le_zpow_right₀ (by norm_num) (by simp only [lastBit]; omega)
  have scaled : value / 2 ^ lastBit value ≤ ((2 ^ 53 : Int) : ℚ) := by
    rw [div_le_iff₀ (by positivity)]
    calc value ≤ 2 ^ (lastBit value + 53) := bound.le.trans powers
      _ = ((2 ^ 53 : Int) : ℚ) * 2 ^ lastBit value := by
          rw [zpow_add₀ (by norm_num), mul_comm]
          norm_num
  have rounded := roundHalfEven_mono scaled
  rw [roundHalfEven_intCast] at rounded
  calc roundToDouble value = roundHalfEven (value / 2 ^ lastBit value) * 2 ^ lastBit value :=
    roundToDouble_eq value
    _ ≤ ((2 ^ 53 : Int) : ℚ) * 2 ^ lastBit value :=
        mul_le_mul_of_nonneg_right (by exact_mod_cast rounded) (by positivity)
    _ = 2 ^ (lastBit value + 53) := by
        rw [zpow_add₀ (by norm_num), mul_comm]
        norm_num

theorem power_le_roundToDouble {value : ℚ} (positive : 0 < value) (normal : -1074 < lastBit value) :
    2 ^ (lastBit value + 52) ≤ roundToDouble value := by
  have bits : lastBit value + 52 = Int.log 2 |value| := by
    simp only [lastBit] at normal ⊢
    omega
  have bound : (2 : ℚ) ^ (lastBit value + 52) ≤ value := by
    rw [bits, abs_of_pos positive]
    exact_mod_cast Int.zpow_log_le_self (by norm_num : 1 < 2) positive
  have scaled : ((2 ^ 52 : Int) : ℚ) ≤ value / 2 ^ lastBit value := by
    rw [le_div_iff₀ (by positivity)]
    calc ((2 ^ 52 : Int) : ℚ) * 2 ^ lastBit value = 2 ^ (lastBit value + 52) := by
          rw [zpow_add₀ (by norm_num), mul_comm]
          norm_num
      _ ≤ value := bound
  have rounded := roundHalfEven_mono scaled
  rw [roundHalfEven_intCast] at rounded
  calc (2 : ℚ) ^ (lastBit value + 52) = ((2 ^ 52 : Int) : ℚ) * 2 ^ lastBit value := by
        rw [zpow_add₀ (by norm_num), mul_comm]
        norm_num
    _ ≤ roundHalfEven (value / 2 ^ lastBit value) * 2 ^ lastBit value :=
        mul_le_mul_of_nonneg_right (by exact_mod_cast rounded) (by positivity)
    _ = roundToDouble value := (roundToDouble_eq value).symm

theorem roundToDouble_mono {less more : ℚ} (nonneg : 0 ≤ less) (order : less ≤ more) :
    roundToDouble less ≤ roundToDouble more := by
  rcases nonneg.eq_or_lt with rfl | positive
  · have zero : roundToDouble 0 = 0 := by simp [roundToDouble]
    rw [zero]
    exact roundToDouble_nonneg order
  · rcases (lastBit_mono positive order).eq_or_lt with same | apart
    · rw [roundToDouble_eq, roundToDouble_eq, same]
      have scaled : less / 2 ^ lastBit more ≤ more / 2 ^ lastBit more :=
        div_le_div_of_nonneg_right order (by positivity)
      exact mul_le_mul_of_nonneg_right (by exact_mod_cast roundHalfEven_mono scaled) (by positivity)
    · have least : -1074 ≤ lastBit less := by
        simp only [lastBit]
        omega
      calc roundToDouble less ≤ 2 ^ (lastBit less + 53) := roundToDouble_le_power positive
        _ ≤ 2 ^ (lastBit more + 52) := zpow_le_zpow_right₀ (by norm_num) (by omega)
        _ ≤ roundToDouble more := power_le_roundToDouble (positive.trans_le order) (by omega)

theorem lastBit_neg (value : ℚ) : lastBit (-value) = lastBit value := by
  rw [lastBit, abs_neg, lastBit]

theorem roundToDouble_neg (value : ℚ) : roundToDouble (-value) = -roundToDouble value := by
  rw [roundToDouble_eq, lastBit_neg, neg_div, roundHalfEven_neg, roundToDouble_eq]
  push_cast
  ring

theorem roundToDouble_monotone : Monotone roundToDouble := by
  intro less more order
  rcases le_total 0 less with nonneg | nonpos
  · exact roundToDouble_mono nonneg order
  · rcases le_total 0 more with more_nonneg | more_nonpos
    · have down : 0 ≤ roundToDouble (-less) := roundToDouble_nonneg (neg_nonneg.mpr nonpos)
      rw [roundToDouble_neg] at down
      exact (neg_nonneg.mp down).trans (roundToDouble_nonneg more_nonneg)
    · have mirrored := roundToDouble_mono (neg_nonneg.mpr more_nonpos) (neg_le_neg order)
      rw [roundToDouble_neg, roundToDouble_neg] at mirrored
      exact neg_le_neg_iff.mp mirrored

theorem elapsed_nonneg {later earlier : ℚ} (order : earlier ≤ later) : 0 ≤ elapsed later earlier :=
  roundToDouble_nonneg (sub_nonneg.mpr order)

theorem lt_of_elapsed_pos {later earlier : ℚ} (passed : 0 < elapsed later earlier) :
    earlier < later := by
  by_contra before
  have none := roundToDouble_monotone (sub_nonpos.mpr (not_lt.mp before))
  rw [roundToDouble_zero] at none
  exact absurd passed (not_lt.mpr none)

theorem elapsed_mono {start finish earlier later : ℚ} (starts : start ≤ earlier)
    (ends : later ≤ finish) : elapsed later earlier ≤ elapsed finish start :=
  roundToDouble_monotone (by linarith)

theorem totalSeconds_mono {less more : Int} (forward : 0 ≤ less) (order : less ≤ more) :
    totalSeconds less ≤ totalSeconds more := by
  have micros : (less : ℚ) / 1000000 ≤ more / 1000000 :=
    div_le_div_of_nonneg_right (by exact_mod_cast order) (by norm_num)
  have nonneg : (0 : ℚ) ≤ less / 1000000 := div_nonneg (by exact_mod_cast forward) (by norm_num)
  exact roundToDouble_mono nonneg micros

/-- One step of `sum` over floats: the total so far, and what its roundings have lost. -/
def sumStep (sofar : ℚ × ℚ) (value : ℚ) : ℚ × ℚ :=
  let total := roundToDouble (sofar.1 + value)
  let lost := if |value| ≤ |sofar.1| then roundToDouble (roundToDouble (sofar.1 - total) + value)
    else roundToDouble (roundToDouble (value - total) + sofar.1)
  (total, roundToDouble (sofar.2 + lost))

/-- `sum` of floats. -/
def sumFloats (values : List ℚ) : ℚ :=
  let sofar := values.foldl sumStep (0, 0)
  roundToDouble (sofar.1 + sofar.2)

end SysadminAssistant.Python
