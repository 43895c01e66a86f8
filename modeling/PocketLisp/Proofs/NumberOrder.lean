import Mathlib.Data.Nat.Log
import Mathlib.Tactic.SplitIfs
import PocketLisp.Proofs.Decimal

set_option autoImplicit false

namespace PocketLisp

namespace Number

theorem roundDiv_bounds (num den : Nat) :
    num / den ≤ roundDiv num den ∧ roundDiv num den ≤ num / den + 1 := by
  simp only [roundDiv]
  split
  · omega
  · split <;> omega

theorem roundDiv_mono {num num' : Nat} (le : num ≤ num') (den : Nat) :
    roundDiv num den ≤ roundDiv num' den := by
  have below := roundDiv_bounds num den
  have above := roundDiv_bounds num' den
  by_cases same : num / den = num' / den
  · -- In the same gap the remainders are in order.
    have rest : num % den ≤ num' % den := by
      have first := Nat.div_add_mod num den
      have second := Nat.div_add_mod num' den
      rw [same] at first
      omega
    simp only [roundDiv, same]
    generalize num' / den = quotient
    split_ifs <;> omega
  · have gap : num / den ≤ num' / den := Nat.div_le_div_right le
    omega

variable {num den : Nat}

theorem roundDiv_le_of_le_mul (positive : 0 < den) {quotient : Nat} (le : num ≤ quotient * den) :
    roundDiv num den ≤ quotient := by
  have mono := roundDiv_mono le den
  rwa [roundDiv_multiple quotient positive] at mono

theorem le_roundDiv_of_mul_le (positive : 0 < den) {quotient : Nat} (le : quotient * den ≤ num) :
    quotient ≤ roundDiv num den := by
  have mono := roundDiv_mono le den
  rwa [roundDiv_multiple quotient positive] at mono

def shift (num den : Nat) : Nat :=
  (num / den).log2 - 52

theorem nearestRank_eq (num den : Nat) :
    nearestRank num den =
      shift num den * binade + roundDiv num (den * 2 ^ shift num den) := rfl

theorem lt_two_pow_shift (positive : 0 < den) : num < 2 ^ (shift num den + 53) * den := by
  have quotient : num / den < 2 ^ (shift num den + 53) :=
    calc num / den < 2 ^ ((num / den).log2 + 1) := Nat.lt_log2_self
      _ ≤ 2 ^ (shift num den + 53) := Nat.pow_le_pow_right (by decide) (by unfold shift; omega)
  exact (Nat.div_lt_iff_lt_mul positive).mp quotient

theorem two_pow_shift_le (positive : 0 < den) (shifted : 0 < shift num den) :
    2 ^ (shift num den + 52) * den ≤ num := by
  have log : shift num den + 52 = (num / den).log2 := by
    unfold shift at shifted ⊢
    omega
  have nonzero : num / den ≠ 0 := by
    intro none
    simp [shift, none] at shifted
  rw [log, ← Nat.le_div_iff_mul_le positive]
  exact Nat.log2_self_le nonzero

theorem nearestRank_le (positive : 0 < den) :
    nearestRank num den ≤ (shift num den + 2) * binade := by
  have within : num ≤ 2 ^ 53 * (den * 2 ^ shift num den) := by
    calc num ≤ 2 ^ (shift num den + 53) * den := Nat.le_of_lt (lt_two_pow_shift positive)
      _ = 2 ^ 53 * (den * 2 ^ shift num den) := by ring
  have rounded := roundDiv_le_of_le_mul (Nat.mul_pos positive (Nat.two_pow_pos _)) within
  rw [nearestRank_eq, binade_eq]
  omega

theorem le_nearestRank (positive : 0 < den) (shifted : 0 < shift num den) :
    (shift num den + 1) * binade ≤ nearestRank num den := by
  have beyond : 2 ^ 52 * (den * 2 ^ shift num den) ≤ num := by
    calc 2 ^ 52 * (den * 2 ^ shift num den) = 2 ^ (shift num den + 52) * den := by ring
      _ ≤ num := two_pow_shift_le positive shifted
  have rounded := le_roundDiv_of_mul_le (Nat.mul_pos positive (Nat.two_pow_pos _)) beyond
  rw [nearestRank_eq, binade_eq]
  omega

theorem nearestRank_mono_num {num num' : Nat} (le : num ≤ num') (positive : 0 < den) :
    nearestRank num den ≤ nearestRank num' den := by
  have shifts : shift num den ≤ shift num' den := by
    have logs : (num / den).log2 ≤ (num' / den).log2 := by
      rw [Nat.log2_eq_log_two, Nat.log2_eq_log_two]
      exact Nat.log_mono_right (Nat.div_le_div_right le)
    exact Nat.sub_le_sub_right logs 52
  rcases Nat.eq_or_lt_of_le shifts with same | less
  · rw [nearestRank_eq, nearestRank_eq, same]
    exact Nat.add_le_add_left (roundDiv_mono le _) _
  · calc nearestRank num den ≤ (shift num den + 2) * binade := nearestRank_le positive
      _ ≤ (shift num' den + 1) * binade := Nat.mul_le_mul_right _ (by omega)
      _ ≤ nearestRank num' den := le_nearestRank positive (by omega)

theorem nearestRank_mono {num' den' : Nat} (positive : 0 < den) (positive' : 0 < den')
    (le : num * den' ≤ num' * den) : nearestRank num den ≤ nearestRank num' den' := by
  calc nearestRank num den = nearestRank (den' * num) (den' * den) :=
        (nearestRank_scale num den positive').symm
    _ ≤ nearestRank (den * num') (den' * den) := by
        apply nearestRank_mono_num _ (Nat.mul_pos positive' positive)
        rw [Nat.mul_comm den' num, Nat.mul_comm den num']
        exact le
    _ = nearestRank (den * num') (den * den') := by rw [Nat.mul_comm den' den]
    _ = nearestRank num' den' := nearestRank_scale num' den' positive

theorem units_lt_iff {rank other : Nat} : units rank < units other ↔ rank < other := by
  have back {rank other : Nat} (le : units rank ≤ units other) : rank ≤ other := by
    have rounded := nearestRank_mono_num le Nat.one_pos
    rwa [nearestRank_units, nearestRank_units] at rounded
  constructor
  · intro less
    refine Nat.lt_of_le_of_ne (back (Nat.le_of_lt less)) ?_
    rintro rfl
    exact Nat.lt_irrefl _ less
  · intro less
    by_contra beyond
    exact absurd (back (Nat.not_lt.mp beyond)) (Nat.not_le.mpr less)

def magnitude (rank : Nat) : ℚ :=
  units rank / unitsPerOne

theorem magnitude_zero : magnitude 0 = 0 := by
  have none : units 0 = 0 := rfl
  rw [magnitude, none, Nat.cast_zero, zero_div]

theorem unitsPerOne_pos : 0 < unitsPerOne := by
  rw [unitsPerOne_eq]
  generalize 1074 = exponent
  exact Nat.two_pow_pos exponent

theorem magnitude_lt_iff {rank other : Nat} : magnitude rank < magnitude other ↔ rank < other := by
  have positive : (0 : ℚ) < unitsPerOne := by exact_mod_cast unitsPerOne_pos
  rw [magnitude, magnitude, div_lt_div_iff_of_pos_right positive, Nat.cast_lt, units_lt_iff]

theorem magnitude_pos_iff {rank : Nat} : 0 < magnitude rank ↔ 0 < rank := by
  rw [← magnitude_zero, magnitude_lt_iff]

theorem magnitude_eq_natCast {rank n : Nat} :
    magnitude rank = n ↔ units rank = n * unitsPerOne := by
  have nonzero : (unitsPerOne : ℚ) ≠ 0 := by exact_mod_cast unitsPerOne_pos.ne'
  rw [magnitude, div_eq_iff nonzero]
  exact_mod_cast Iff.rfl

end Number

namespace Decimal

theorem rank_mono {d d' : Decimal} (le : d.value ≤ d'.value) : d.rank ≤ d'.rank := by
  rw [rank_eq, rank_eq]
  apply Number.nearestRank_mono (Nat.pow_pos (by decide)) (Nat.pow_pos (by decide))
  have cross : d.coefficient * 10 ^ d.exponent.toNat * 10 ^ (-d'.exponent).toNat ≤
      d'.coefficient * 10 ^ d'.exponent.toNat * 10 ^ (-d.exponent).toNat := by
    simp only [value, ten_zpow] at le
    rw [← mul_div_assoc, ← mul_div_assoc, div_le_div_iff₀ (by positivity) (by positivity)] at le
    exact_mod_cast le
  rw [Nat.mul_right_comm, Nat.mul_right_comm _ Number.unitsPerOne]
  exact Nat.mul_le_mul_right _ cross

-- Where the point stands relative to the first digit of a decimal.
def point (d : Decimal) : Int :=
  digitCount d.coefficient + d.exponent

theorem value_one (e : Int) : value ⟨1, e⟩ = 10 ^ e := by
  rw [value, Nat.cast_one, one_mul]

theorem value_lt_ten_zpow (d : Decimal) : d.value < 10 ^ d.point := by
  have whole : (d.coefficient : ℚ) < 10 ^ digitCount d.coefficient := by
    exact_mod_cast lt_ten_pow_digitCount d.coefficient
  rw [value, point, zpow_add₀ (by norm_num), zpow_natCast]
  exact mul_lt_mul_of_pos_right whole (zpow_pos (by norm_num) _)

theorem ten_zpow_le_value {d : Decimal} (nonzero : d.coefficient ≠ 0) :
    10 ^ (d.point - 1) ≤ d.value := by
  have whole : (10 : ℚ) ^ (digitCount d.coefficient - 1) ≤ d.coefficient := by
    exact_mod_cast ten_pow_le (Nat.pos_of_ne_zero nonzero)
  have count : 0 < digitCount d.coefficient := Nat.length_toDigits_pos
  have places : d.point - 1 = ((digitCount d.coefficient - 1 : Nat) : Int) + d.exponent := by
    rw [point]
    omega
  rw [value, places, zpow_add₀ (by norm_num), zpow_natCast]
  exact mul_le_mul_of_nonneg_right whole (zpow_nonneg (by norm_num) _)

theorem point_le_iff {d : Decimal} (nonzero : d.coefficient ≠ 0) (places : Int) :
    d.point ≤ places ↔ d.value < 10 ^ places := by
  constructor
  · intro le
    exact lt_of_lt_of_le d.value_lt_ten_zpow (zpow_le_zpow_right₀ (by norm_num) le)
  · intro less
    have powers := lt_of_le_of_lt (ten_zpow_le_value nonzero) less
    have exponents := (zpow_lt_zpow_iff_right₀ (by norm_num : (1 : ℚ) < 10)).mp powers
    omega

end Decimal

end PocketLisp
