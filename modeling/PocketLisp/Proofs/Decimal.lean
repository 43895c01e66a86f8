import Mathlib.Algebra.Field.Rat
import Mathlib.Algebra.Order.Ring.Rat
import Mathlib.Tactic.Positivity
import PocketLisp.Number.Format
import PocketLisp.Proofs.Rounding

set_option autoImplicit false

namespace PocketLisp.Decimal

def value (d : Decimal) : ℚ :=
  d.coefficient * 10 ^ d.exponent

theorem ten_zpow (e : Int) : (10 : ℚ) ^ e = 10 ^ e.toNat / 10 ^ (-e).toNat := by
  rcases Int.le_total 0 e with nonneg | nonpos
  · obtain ⟨n, rfl⟩ := Int.eq_ofNat_of_zero_le nonneg
    simp
  · obtain ⟨n, same⟩ := Int.eq_ofNat_of_zero_le (show 0 ≤ -e by omega)
    obtain rfl : e = -n := by omega
    simp

-- Of the two powers of ten one is always one.
theorem rank_eq (d : Decimal) :
    d.rank = Number.nearestRank (d.coefficient * 10 ^ d.exponent.toNat * Number.unitsPerOne)
      (10 ^ (-d.exponent).toNat) := by
  unfold rank
  split
  · next nonneg =>
    have zero : (-d.exponent).toNat = 0 := by omega
    simp [zero]
  · next negative =>
    have zero : d.exponent.toNat = 0 := by omega
    simp [zero]

theorem value_natCast (n : Nat) : value ⟨n, 0⟩ = n := by
  rw [value, zpow_zero, mul_one]

theorem rank_natCast (n : Nat) : rank ⟨n, 0⟩ = Number.nearestRank (n * Number.unitsPerOne) 1 := by
  rw [rank_eq]
  simp

theorem rank_congr {d d' : Decimal} (same : d.value = d'.value) : d.rank = d'.rank := by
  rw [rank_eq, rank_eq]
  apply Number.nearestRank_congr (Nat.pow_pos (by decide)) (Nat.pow_pos (by decide))
  have cross : d.coefficient * 10 ^ d.exponent.toNat * 10 ^ (-d'.exponent).toNat =
      d'.coefficient * 10 ^ d'.exponent.toNat * 10 ^ (-d.exponent).toNat := by
    simp only [value, ten_zpow] at same
    rw [← mul_div_assoc, ← mul_div_assoc, div_eq_div_iff (by positivity) (by positivity)] at same
    exact_mod_cast same
  rw [Nat.mul_right_comm, cross, Nat.mul_right_comm]

theorem lt_ten_pow_digitCount (n : Nat) : n < 10 ^ digitCount n :=
  (Nat.length_toDigits_le_iff (by decide) Nat.length_toDigits_pos).mp (Nat.le_refl _)

theorem ten_pow_le {n : Nat} (positive : 0 < n) : 10 ^ (digitCount n - 1) ≤ n := by
  by_cases single : digitCount n - 1 = 0
  · rw [single]
    exact positive
  · by_contra below
    have shorter : digitCount n ≤ digitCount n - 1 :=
      (Nat.length_toDigits_le_iff (by decide) (Nat.pos_of_ne_zero single)).mpr (Nat.not_le.mp below)
    omega

theorem two_pow_le_ten_pow {bits places : Nat} (few : bits ≤ 3 * places) :
    2 ^ bits ≤ 10 ^ places :=
  calc 2 ^ bits ≤ 2 ^ (3 * places) := Nat.pow_le_pow_right (by decide) few
    _ = (2 ^ 3) ^ places := Nat.pow_mul ..
    _ ≤ 10 ^ places := Nat.pow_le_pow_left (by decide) places

theorem two_pow_mul_unitsPerOne_le {bits places : Nat} (few : bits + 1074 ≤ 3 * places) :
    2 ^ bits * Number.unitsPerOne ≤ 10 ^ places := by
  rw [Number.unitsPerOne_eq]
  generalize 1074 = exponent at few
  rw [← Nat.pow_add]
  exact two_pow_le_ten_pow few

theorem rank_zero (e : Int) : rank ⟨0, e⟩ = 0 := by
  rw [rank_eq]
  apply Number.nearestRank_vanishes
  simp

theorem rank_vanishes {d : Decimal} {cut : Nat} (few : 1 + 1074 ≤ 3 * cut)
    (low : digitCount d.coefficient + d.exponent < -cut) : d.rank = 0 := by
  rw [rank_eq]
  apply Number.nearestRank_vanishes
  have whole : d.exponent.toNat = 0 := by omega
  have places : digitCount d.coefficient + cut ≤ (-d.exponent).toNat := by omega
  -- The coefficient is below the power of its digit count, and half a unit is above 10^-cut.
  have unit : 2 ^ 1 * Number.unitsPerOne ≤ 10 ^ cut := two_pow_mul_unitsPerOne_le few
  rw [whole, Nat.pow_zero, Nat.mul_one]
  calc 2 * (d.coefficient * Number.unitsPerOne)
      = d.coefficient * (2 ^ 1 * Number.unitsPerOne) := by ring
    _ < 10 ^ digitCount d.coefficient * 10 ^ cut :=
        Nat.mul_lt_mul_of_lt_of_le (lt_ten_pow_digitCount _) unit (Nat.pow_pos (by decide))
    _ = 10 ^ (digitCount d.coefficient + cut) := (Nat.pow_add _ _ _).symm
    _ ≤ 10 ^ (-d.exponent).toNat := Nat.pow_le_pow_right (by decide) places

theorem rank_overflows {d : Decimal} {cut : Nat} (many : 1025 ≤ 3 * cut)
    (positive : 0 < d.coefficient) (high : cut < digitCount d.coefficient + d.exponent) :
    overflowRank ≤ d.rank := by
  rw [rank_eq]
  obtain ⟨bits, wide, few⟩ : ∃ bits, 2099 ≤ bits + 1074 ∧ bits ≤ 3 * cut :=
    ⟨1025, by decide, many⟩
  apply Number.nearestRank_overflows wide
  rw [Nat.le_div_iff_mul_le (Nat.pow_pos (by decide)), Number.unitsPerOne_eq]
  have places : cut + (-d.exponent).toNat ≤ digitCount d.coefficient - 1 + d.exponent.toNat := by
    omega
  have magnitude : 2 ^ bits * 10 ^ (-d.exponent).toNat ≤ d.coefficient * 10 ^ d.exponent.toNat :=
    calc 2 ^ bits * 10 ^ (-d.exponent).toNat
        ≤ 10 ^ cut * 10 ^ (-d.exponent).toNat :=
          Nat.mul_le_mul_right _ (two_pow_le_ten_pow few)
      _ = 10 ^ (cut + (-d.exponent).toNat) := (Nat.pow_add _ _ _).symm
      _ ≤ 10 ^ (digitCount d.coefficient - 1 + d.exponent.toNat) :=
          Nat.pow_le_pow_right (by decide) places
      _ = 10 ^ (digitCount d.coefficient - 1) * 10 ^ d.exponent.toNat := Nat.pow_add _ _ _
      _ ≤ d.coefficient * 10 ^ d.exponent.toNat := Nat.mul_le_mul_right _ (ten_pow_le positive)
  generalize 1074 = exponent
  calc 2 ^ (bits + exponent) * 10 ^ (-d.exponent).toNat
      = 2 ^ bits * 10 ^ (-d.exponent).toNat * 2 ^ exponent := by ring
    _ ≤ d.coefficient * 10 ^ d.exponent.toNat * 2 ^ exponent := Nat.mul_le_mul_right _ magnitude

-- The cut-offs of `toNumber` agree with rounding.
theorem toNumber_eq (negative : Bool) (d : Decimal) :
    d.toNumber negative = Number.ofRank negative d.rank := by
  simp only [toNumber]
  split
  · next small =>
    have zero : d.rank = 0 := by
      rcases small with none | low
      · obtain ⟨coefficient, exponent⟩ := d
        obtain rfl : coefficient = 0 := none
        exact rank_zero exponent
      · exact rank_vanishes (by decide : 1 + 1074 ≤ 3 * 400) low
    rw [zero]
  · next large =>
    split
    · next high =>
      have positive : 0 < d.coefficient := Nat.pos_of_ne_zero fun none => large (Or.inl none)
      have beyond : overflowRank ≤ d.rank :=
        rank_overflows (by decide : 1025 ≤ 3 * 400) positive high
      rw [Number.ofRank, dif_neg (Nat.not_lt.mpr beyond)]
    · rfl

theorem rank_fives {places : Nat} (unit : Number.unitsPerOne = 2 ^ places) (n : Nat) :
    rank ⟨n * Nat.pow 5 places, -places⟩ = Number.nearestRank n 1 := by
  rw [rank_eq]
  apply Number.nearestRank_congr (Nat.pow_pos (by decide)) Nat.one_pos
  have whole : (-(places : Int)).toNat = 0 := by omega
  have tens : (10 : Nat) ^ places = 5 ^ places * 2 ^ places := Nat.mul_pow 5 2 places
  rw [whole, Int.neg_neg, Int.toNat_natCast, unit, tens, Nat.pow_eq]
  ring

theorem exact_rank (rank : Nat) : (exact rank).rank = rank := by
  have unit := Number.unitsPerOne_eq
  have places : (-1074 : Int) = -((1074 : Nat) : Int) := rfl
  rw [exact, places]
  generalize 1074 = exponent at unit ⊢
  rw [rank_fives unit]
  exact Number.nearestRank_units rank

theorem onGrid?_rank {rank : Nat} {e : Int} {d : Decimal} (found : onGrid? rank e = some d) :
    d.rank = rank := by
  have reads := List.find?_some (p := fun d : Decimal => d.rank == rank) found
  exact eq_of_beq reads

theorem shortest_rank (rank : Nat) : (shortest rank).rank = rank := by
  simp only [shortest]
  -- A candidate is taken only if it reads back, and all digits do when there is none.
  cases chosen :
    (List.range 17).findSome? fun n : Nat => onGrid? rank (leadingExponent rank - n) with
  | none => exact exact_rank rank
  | some d =>
    rw [Option.getD_some]
    obtain ⟨n, -, found⟩ := List.exists_of_findSome?_eq_some chosen
    exact onGrid?_rank found

end PocketLisp.Decimal

namespace PocketLisp.NumberFormat

theorem digitsFor_rank (format : NumberFormat) (rank : Nat) :
    (format.digitsFor rank).rank = rank := by
  simp only [digitsFor]
  split
  · next whole =>
    have same : Number.units rank / Number.unitsPerOne * Number.unitsPerOne = Number.units rank :=
      Nat.div_mul_cancel (Nat.dvd_of_mod_eq_zero whole.2.1)
    rw [Decimal.rank_natCast, same]
    exact Number.nearestRank_units rank
  · exact Decimal.shortest_rank rank

end PocketLisp.NumberFormat
