import Mathlib.Tactic.Ring
import PocketLisp.Number.Basic

set_option autoImplicit false

namespace PocketLisp

theorem binade_eq : binade = 2 ^ 52 := rfl

namespace Number

-- The exponent is made a variable before the power is looked at, so that nothing computes it.
theorem unitsPerOne_eq : unitsPerOne = 2 ^ 1074 := by
  unfold unitsPerOne
  generalize 1074 = exponent
  rfl

theorem roundDiv_scale (num den : Nat) {factor : Nat} (positive : 0 < factor) :
    roundDiv (factor * num) (factor * den) = roundDiv num den := by
  have twice : 2 * (factor * (num % den)) = factor * (2 * (num % den)) := by ring
  simp only [roundDiv, Nat.mul_div_mul_left _ _ positive, Nat.mul_mod_mul_left, twice,
    Nat.mul_lt_mul_left positive, Nat.mul_right_inj (Nat.pos_iff_ne_zero.mp positive)]

theorem roundDiv_multiple (quotient : Nat) {den : Nat} (positive : 0 < den) :
    roundDiv (quotient * den) den = quotient := by
  simp [roundDiv, Nat.mul_div_cancel _ positive, positive]

theorem nearestRank_scale (num den : Nat) {factor : Nat} (positive : 0 < factor) :
    nearestRank (factor * num) (factor * den) = nearestRank num den := by
  simp only [nearestRank, Nat.mul_div_mul_left _ _ positive, Nat.mul_assoc,
    roundDiv_scale _ _ positive]

theorem nearestRank_congr {num den num' den' : Nat} (positive : 0 < den) (positive' : 0 < den')
    (same : num * den' = num' * den) : nearestRank num den = nearestRank num' den' := by
  calc nearestRank num den = nearestRank (den' * num) (den' * den) :=
        (nearestRank_scale num den positive').symm
    _ = nearestRank (den * num') (den * den') := by
        rw [Nat.mul_comm den' num, same, Nat.mul_comm num' den, Nat.mul_comm den' den]
    _ = nearestRank num' den' := nearestRank_scale num' den' positive

theorem log2_mul_two_pow {m k : Nat} (low : 2 ^ k ≤ m) (high : m < 2 ^ (k + 1)) (shift : Nat) :
    (m * 2 ^ shift).log2 = k + shift := by
  have positive : 0 < m * 2 ^ shift :=
    Nat.mul_pos (Nat.lt_of_lt_of_le (Nat.two_pow_pos k) low) (Nat.two_pow_pos shift)
  apply (Nat.log2_eq_iff (Nat.pos_iff_ne_zero.mp positive)).mpr
  constructor
  · rw [Nat.pow_add]
    exact Nat.mul_le_mul_right _ low
  · calc m * 2 ^ shift < 2 ^ (k + 1) * 2 ^ shift :=
          Nat.mul_lt_mul_of_pos_right high (Nat.two_pow_pos shift)
      _ = 2 ^ (k + shift + 1) := by ring

theorem nearestRank_small {rank : Nat} (small : rank < binade) : nearestRank rank 1 = rank := by
  -- Below the first binade the spacing is one unit, so nothing is shifted or rounded.
  have shift : rank.log2 - 52 = 0 := by
    by_cases zero : rank = 0
    · simp [zero]
    · have below : rank.log2 < 52 := (Nat.log2_lt zero).mpr (binade_eq ▸ small)
      omega
  have whole := roundDiv_multiple rank Nat.one_pos
  rw [Nat.mul_one] at whole
  simp [nearestRank, shift, whole]

theorem nearestRank_large {m : Nat} (small : m < binade) (shift : Nat) :
    nearestRank ((binade + m) * 2 ^ shift) 1 = (shift + 1) * binade + m := by
  -- The leading digit is bit 52 of the significand, so the shift of the magnitude is found again.
  have low : 2 ^ 52 ≤ binade + m := by rw [binade_eq]; omega
  have high : binade + m < 2 ^ (52 + 1) := by rw [binade_eq] at small ⊢; omega
  have log := log2_mul_two_pow low high shift
  have round := roundDiv_multiple (binade + m) (Nat.two_pow_pos shift)
  have width : (52 + shift) - 52 = shift := by omega
  simp only [nearestRank, Nat.div_one, log, width, Nat.one_mul, Nat.pow_eq, round]
  ring

theorem nearestRank_units (rank : Nat) : nearestRank (units rank) 1 = rank := by
  have positive : 0 < binade := by rw [binade_eq]; exact Nat.two_pow_pos 52
  by_cases small : rank < binade
  · rw [units, if_pos small]
    exact nearestRank_small small
  · have first : 0 < rank / binade := Nat.div_pos (Nat.not_lt.mp small) positive
    rw [units, if_neg small, Nat.pow_eq, nearestRank_large (Nat.mod_lt rank positive)]
    rw [Nat.sub_add_cancel first]
    exact Nat.div_add_mod' rank binade

theorem nearestRank_vanishes {num den : Nat} (tiny : 2 * num < den) : nearestRank num den = 0 := by
  have zero : num / den = 0 := Nat.div_eq_of_lt (by omega)
  have rest : num % den = num := Nat.mod_eq_of_lt (by omega)
  simp [nearestRank, zero, roundDiv, rest, tiny]

theorem nearestRank_overflows {num den bits : Nat} (wide : 2099 ≤ bits)
    (huge : 2 ^ bits ≤ num / den) : overflowRank ≤ nearestRank num den := by
  have positive : num / den ≠ 0 := by
    have := Nat.two_pow_pos bits
    omega
  have log : bits ≤ (num / den).log2 := (Nat.le_log2 positive).mpr huge
  have shift : 2047 ≤ (num / den).log2 - 52 := by omega
  calc overflowRank = 2047 * binade := rfl
    _ ≤ ((num / den).log2 - 52) * binade := Nat.mul_le_mul_right _ shift
    _ ≤ nearestRank num den := Nat.le_add_right _ _

end Number

end PocketLisp
