import PocketLisp.Number.Print
import PocketLisp.Proofs.NumberOrder
import PocketLisp.Proofs.NumberText

set_option autoImplicit false

namespace PocketLisp

/-- Printed numbers have no exponent from 10^-6 up to 10^21, where whole numbers have no point. -/
def printedNumber : NumberFormat where
  positionalFrom := -6
  positionalBelow := 21
  exactIntegers := true
  keepPoint := false
  exponentWidth := 1
  signedZero := false
  infinity := "Infinity"
  nan := "NaN"

namespace Literal

def Unscaled (text : List Char) : Prop :=
  'e' ∉ text ∧ 'E' ∉ text

instance (text : List Char) : Decidable (Unscaled text) :=
  inferInstanceAs (Decidable ('e' ∉ text ∧ 'E' ∉ text))

theorem Unscaled.append {front back : List Char} (first : Unscaled front) (second : Unscaled back) :
    Unscaled (front ++ back) := by
  simp only [Unscaled, List.mem_append, not_or]
  exact ⟨⟨first.1, second.1⟩, ⟨first.2, second.2⟩⟩

theorem Unscaled.cons {c : Char} {text : List Char} (rest : Unscaled text)
    (other : Unscaled [c]) : Unscaled (c :: text) :=
  other.append rest

theorem Digits.unscaled {text : List Char} (all : Digits text) : Unscaled text := by
  constructor
  · intro member
    exact absurd (all 'e' member) (by decide)
  · intro member
    exact absurd (all 'E' member) (by decide)

theorem head_toDigits {n : Nat} (nonzero : n ≠ 0) : (Nat.toDigits 10 n).head? ≠ some '0' := by
  induction n using Nat.strongRecOn with
  | ind n ih =>
    rw [Nat.toDigits_eq_if (by decide)]
    split
    · next single =>
      have first : ∀ m < 10, m ≠ 0 → [Nat.digitChar m].head? ≠ some '0' := by decide
      exact first n single nonzero
    · rw [List.head?_append_of_ne_nil _ Nat.toDigits_ne_nil]
      exact ih (n / 10) (by omega) (by omega)

theorem toDigits_append_zeros {n : Nat} (positive : 0 < n) (count : Nat) :
    Nat.toDigits 10 (n * 10 ^ count) = Nat.toDigits 10 n ++ NumberFormat.zeros count := by
  induction count with
  | zero => simp [NumberFormat.zeros]
  | succ count ih =>
    have split : n * 10 ^ (count + 1) = 10 * (n * 10 ^ count) + 0 := by ring
    have scaled : 0 < n * 10 ^ count := Nat.mul_pos positive (Nat.pow_pos (by decide))
    have last : Nat.toDigits 10 0 = NumberFormat.zeros 1 := rfl
    rw [split, ← Nat.toDigits_append_toDigits (by decide) scaled (by decide), ih, last,
      List.append_assoc]
    simp only [NumberFormat.zeros, List.replicate_append_replicate]

end Literal

namespace NumberFormat

open Literal

theorem unscaled_sign (negative : Bool) : Unscaled (sign negative).toList := by
  cases negative <;> decide

theorem positional_unscaled (format : NumberFormat) {digits : List Char} (all : Digits digits)
    (point : Int) : Unscaled (format.positional digits point) := by
  have shown : Unscaled digits := all.unscaled
  have filled (count : Nat) : Unscaled (zeros count) := (digits_zeros count).unscaled
  have pointed : Unscaled ['.'] := by decide
  unfold positional
  split
  · have front : Unscaled ['0', '.'] := by decide
    exact (front.append (filled _)).append shown
  · split
    · refine (shown.append (filled _)).append ?_
      split <;> decide
    · have front : Digits (digits.take point.toNat) := fun c member =>
        all c (List.mem_of_mem_take member)
      have back : Digits (digits.drop point.toNat) := fun c member =>
        all c (List.mem_of_mem_drop member)
      exact front.unscaled.append (back.unscaled.cons pointed)

def mantissa (digits : List Char) : List Char :=
  digits.take 1 ++ (if digits.length ≤ 1 then [] else '.' :: digits.drop 1)

theorem mantissa_unscaled {digits : List Char} (all : Digits digits) :
    Unscaled (mantissa digits) := by
  have front : Digits (digits.take 1) := fun c member => all c (List.mem_of_mem_take member)
  have back : Digits (digits.drop 1) := fun c member => all c (List.mem_of_mem_drop member)
  refine front.unscaled.append ?_
  split
  · decide
  · exact back.unscaled.cons (by decide)

theorem scientific_eq (format : NumberFormat) (digits : List Char) (exponent : Int) :
    format.scientific digits exponent =
      mantissa digits ++ 'e' :: (if exponent < 0 then '-' else '+') ::
        format.exponentDigits exponent.natAbs := by
  simp [scientific, mantissa]

theorem mark_signed (exponent : Int) :
    (if exponent < 0 then '-' else '+') = '+' ∨ (if exponent < 0 then '-' else '+') = '-' := by
  split
  · exact Or.inr rfl
  · exact Or.inl rfl

theorem exponentDigits_eq (format : NumberFormat) (narrow : format.exponentWidth ≤ 1)
    (exponent : Nat) : format.exponentDigits exponent = Nat.toDigits 10 exponent := by
  have positive : 0 < (Nat.toDigits 10 exponent).length := Nat.length_toDigits_pos
  have padding : format.exponentWidth - (Nat.toDigits 10 exponent).length = 0 := by omega
  simp [exponentDigits, padding, zeros]

def significant (d : Decimal) : List Char :=
  dropTrailingZeros (Nat.toDigits 10 d.coefficient)

section Decimal

variable (format : NumberFormat) {d : Decimal}

theorem decimal_within
    (within : format.positionalFrom < d.point ∧ d.point ≤ format.positionalBelow) :
    format.decimal d = format.positional (significant d) d.point :=
  if_pos within

theorem decimal_beyond
    (beyond : d.point ≤ format.positionalFrom ∨ format.positionalBelow < d.point) :
    format.decimal d = format.scientific (significant d) (d.point - 1) := by
  apply if_neg
  rintro ⟨low, high⟩
  change format.positionalFrom < d.point at low
  change d.point ≤ format.positionalBelow at high
  omega

end Decimal

theorem significant_append (d : Decimal) :
    ∃ count, Nat.toDigits 10 d.coefficient = significant d ++ zeros count ∧
      d.coefficient = value (significant d) * 10 ^ count ∧
      Decimal.digitCount d.coefficient = (significant d).length + count := by
  obtain ⟨count, dropped⟩ := dropTrailingZeros_append (Nat.toDigits 10 d.coefficient)
  refine ⟨count, dropped, ?_, ?_⟩
  · rw [significant, ← value_append_zeros, ← dropped, value_toDigits]
  · rw [Decimal.digitCount, congrArg List.length dropped, List.length_append, zeros,
      List.length_replicate, significant]

-- There is no zero in front, so the digits are those of the number that they denote.
theorem toDigits_significant {d : Decimal} (nonzero : d.coefficient ≠ 0) :
    Nat.toDigits 10 (value (significant d)) = significant d := by
  obtain ⟨count, dropped, coefficient, -⟩ := significant_append d
  have positive : 0 < value (significant d) := by
    apply Nat.pos_of_ne_zero
    intro none
    exact nonzero (by rw [coefficient, none, Nat.zero_mul])
  rw [coefficient, toDigits_append_zeros positive] at dropped
  exact List.append_cancel_right dropped

theorem positional_congr {format other : NumberFormat} {digits : List Char} {point : Int}
    (long : 0 < point → point.toNat < digits.length) :
    format.positional digits point = other.positional digits point := by
  unfold positional
  split
  · rfl
  · next above =>
    have short : ¬ digits.length ≤ point.toNat := Nat.not_le.mpr (long (Int.not_le.mp above))
    rw [if_neg short, if_neg short]

theorem decimal_integer (format : NumberFormat) (bare : format.keepPoint = false) {n : Nat}
    (low : format.positionalFrom < Decimal.digitCount n)
    (high : Decimal.digitCount n ≤ format.positionalBelow) :
    format.decimal ⟨n, 0⟩ = Nat.toDigits 10 n := by
  obtain ⟨count, dropped, -, length⟩ := significant_append ⟨n, 0⟩
  change Decimal.digitCount n = _ at length
  have positive : 0 < Decimal.digitCount n := Nat.length_toDigits_pos
  have point : Decimal.point ⟨n, 0⟩ = Decimal.digitCount n := Int.add_zero _
  have within : format.positionalFrom < Decimal.point ⟨n, 0⟩ ∧
      Decimal.point ⟨n, 0⟩ ≤ format.positionalBelow := by
    rw [point]
    exact ⟨low, high⟩
  -- The zeros that were dropped are filled in again up to the point.
  have gap : Decimal.digitCount n - (significant ⟨n, 0⟩).length = count := by
    omega
  rw [format.decimal_within within, point, positional, if_neg (by omega), Int.toNat_natCast,
    if_pos (by omega), gap, bare, if_neg Bool.false_ne_true, List.append_nil, ← dropped]

theorem digitsFor_value_lt_iff (format : NumberFormat) {limit : Decimal}
    (settled : (format.digitsFor limit.rank).value = limit.value) (rank : Nat) :
    (format.digitsFor rank).value < limit.value ↔ rank < limit.rank := by
  have reads := format.digitsFor_rank rank
  constructor
  · intro less
    have le := Decimal.rank_mono (le_of_lt less)
    rw [reads] at le
    refine Nat.lt_of_le_of_ne le ?_
    rintro rfl
    exact less.ne settled
  · intro less
    by_contra beyond
    have le := Decimal.rank_mono (not_lt.mp beyond)
    omega

theorem digitsFor_point_le_iff (format : NumberFormat) {places : Int}
    (settled : (format.digitsFor (Decimal.rank ⟨1, places⟩)).value = Decimal.value ⟨1, places⟩)
    {rank : Nat} (nonzero : rank ≠ 0) :
    (format.digitsFor rank).point ≤ places ↔ rank < Decimal.rank ⟨1, places⟩ := by
  rw [Decimal.point_le_iff (format.digitsFor_ne_zero nonzero), ← Decimal.value_one]
  exact format.digitsFor_value_lt_iff settled rank

theorem digitsFor_inspected (rank : Nat) :
    inspectedNumber.digitsFor rank = Decimal.shortest rank := by
  simp [digitsFor, inspectedNumber]

end NumberFormat

namespace Number

open Literal NumberFormat

section Notation

variable {lead digits : List Char}

theorem hasNegativeExponent_cons {c : Char} (other : c ≠ 'e') (text : List Char) :
    hasNegativeExponent (c :: text) = hasNegativeExponent text := by
  rw [hasNegativeExponent]
  rintro rest rfl
  contradiction

theorem hasNegativeExponent_append (before : 'e' ∉ lead) (text : List Char) :
    hasNegativeExponent (lead ++ text) = hasNegativeExponent text := by
  induction lead with
  | nil => rfl
  | cons c lead ih =>
    rw [List.mem_cons, not_or] at before
    rw [List.cons_append, hasNegativeExponent_cons (Ne.symm before.1), ih before.2]

theorem hasNegativeExponent_unscaled {text : List Char} (unscaled : Unscaled text) :
    hasNegativeExponent text = false := by
  have all := hasNegativeExponent_append unscaled.1 []
  rwa [List.append_nil] at all

theorem shortenExponent_append (before : 'e' ∉ lead) {mark : Char}
    (signed : mark = '+' ∨ mark = '-') (digits : List Char) :
    shortenExponent (lead ++ 'e' :: mark :: digits) =
      lead ++ 'e' :: mark :: dropLeadingZeros digits := by
  have other : ∀ c ∈ lead, (c != 'e') = true := by
    intro c member
    rw [bne_iff_ne]
    rintro rfl
    exact before member
  have dropped : (lead ++ 'e' :: mark :: digits).dropWhile (· != 'e') = 'e' :: mark :: digits := by
    rw [List.dropWhile_append_of_pos other]
    rfl
  have taken : (lead ++ 'e' :: mark :: digits).takeWhile (· != 'e') = lead := by
    rw [List.takeWhile_append_of_pos other, List.takeWhile_cons_of_neg (by decide),
      List.append_nil]
  simp only [shortenExponent, dropped, taken, signed, if_true]

theorem shortenExponent_unscaled {text : List Char} (unscaled : Unscaled text) :
    shortenExponent text = text := by
  have none : text.dropWhile (· != 'e') = [] := by
    rw [List.dropWhile_eq_nil_iff]
    intro c member
    rw [bne_iff_ne]
    rintro rfl
    exact unscaled.1 member
  simp only [shortenExponent, none]

theorem dropLeadingZeros_zeros (all : Digits digits) (nonempty : digits ≠ [])
    (first : digits.head? ≠ some '0') (count : Nat) :
    dropLeadingZeros (zeros count ++ digits) = digits := by
  obtain ⟨c, rest, rfl⟩ := List.exists_cons_of_ne_nil nonempty
  induction count with
  | zero =>
    show dropLeadingZeros (c :: rest) = c :: rest
    rw [dropLeadingZeros]
    rintro c' rest' same
    cases same
    exact absurd rfl first
  | succ count ih =>
    obtain ⟨next, tail, same⟩ : ∃ next tail, zeros count ++ c :: rest = next :: tail :=
      List.exists_cons_of_ne_nil (by simp)
    have digit : next.isDigit = true :=
      ((digits_zeros count).append all) next (same ▸ List.mem_cons_self)
    have front : zeros (count + 1) ++ c :: rest = '0' :: next :: tail := by
      rw [← same]
      rfl
    rw [front, dropLeadingZeros, if_pos digit, ← same, ih]

variable (all : Digits digits) (negative : Bool)
include all

theorem hasNegativeExponent_scientific (format : NumberFormat) (exponent : Int) :
    hasNegativeExponent ((sign negative).toList ++ format.scientific digits exponent) =
      decide (exponent < 0) := by
  have before := ((unscaled_sign negative).append (mantissa_unscaled all)).1
  rw [scientific_eq, ← List.append_assoc, hasNegativeExponent_append before]
  have after : Unscaled (format.exponentDigits exponent.natAbs) :=
    ((digits_zeros _).append (digits_toDigits _)).unscaled
  split
  · next low => simp [hasNegativeExponent, low]
  · next high =>
    have rest : hasNegativeExponent ('e' :: '+' :: format.exponentDigits exponent.natAbs) =
        hasNegativeExponent ('+' :: format.exponentDigits exponent.natAbs) := rfl
    rw [rest, hasNegativeExponent_unscaled (after.cons (by decide)), decide_eq_false high]

theorem shortenExponent_scientific {exponent : Int} (nonzero : exponent ≠ 0) :
    shortenExponent ((sign negative).toList ++ inspectedNumber.scientific digits exponent) =
      (sign negative).toList ++ printedNumber.scientific digits exponent := by
  have before := ((unscaled_sign negative).append (mantissa_unscaled all)).1
  have head := head_toDigits (Int.natAbs_ne_zero.mpr nonzero)
  have digits := dropLeadingZeros_zeros (digits_toDigits _) Nat.toDigits_ne_nil head
  rw [scientific_eq, scientific_eq, ← List.append_assoc, shortenExponent_append before (mark_signed exponent),
    printedNumber.exponentDigits_eq (Nat.le_refl 1), exponentDigits, digits, List.append_assoc]

theorem fixedText_scientific (format : NumberFormat)
    (canonical : Nat.toDigits 10 (value digits) = digits) (point : Int) :
    fixedText ((sign negative).toList ++ format.scientific digits (point - 1)) =
      (sign negative).toList ++ printedNumber.positional digits point := by
  have nonempty : digits ≠ [] := canonical ▸ Nat.toDigits_ne_nil
  have denotes := Denotes.signed (sign_written negative)
    (format.scientific_magnitude all nonempty (point - 1))
  have place : (digits.length : Int) + (point - 1 + 1 - digits.length) = point := by omega
  simp only [fixedText, parse?_eq_some.mpr denotes, canonical, place]
  rfl

end Notation

section Whole

theorem units_large {m : Nat} (small : m < binade) (shift : Nat) :
    units ((shift + 1) * binade + m) = (binade + m) * 2 ^ shift := by
  have positive : 0 < binade := Nat.lt_of_le_of_lt (Nat.zero_le m) small
  have beyond : ¬ (shift + 1) * binade + m < binade := by
    have first : binade ≤ (shift + 1) * binade := Nat.le_mul_of_pos_left _ (Nat.succ_pos shift)
    omega
  have rest : ((shift + 1) * binade + m) % binade = m := by
    rw [Nat.mul_comm, Nat.mul_add_mod, Nat.mod_eq_of_lt small]
  have quotient : ((shift + 1) * binade + m) / binade = shift + 1 := by
    rw [Nat.mul_comm, Nat.mul_add_div positive, Nat.div_eq_of_lt small, Nat.add_zero]
  rw [units, if_neg beyond, rest, quotient, Nat.add_sub_cancel, Nat.pow_eq]

theorem exists_units {n places : Nat} (small : n < binade) (wide : 52 ≤ places) :
    ∃ rank, units rank = n * 2 ^ places := by
  by_cases zero : n = 0
  · exact ⟨0, by rw [zero, Nat.zero_mul]; rfl⟩
  · -- The significand is scaled until its leading digit is bit 52.
    have log : n.log2 < 52 := (Nat.log2_lt zero).mpr (binade_eq ▸ small)
    have low : 2 ^ 52 ≤ n * 2 ^ (52 - n.log2) :=
      calc 2 ^ 52 = 2 ^ n.log2 * 2 ^ (52 - n.log2) := by rw [← Nat.pow_add]; congr 1; omega
        _ ≤ n * 2 ^ (52 - n.log2) := Nat.mul_le_mul_right _ (Nat.log2_self_le zero)
    have high : n * 2 ^ (52 - n.log2) < 2 ^ 53 :=
      calc n * 2 ^ (52 - n.log2) < 2 ^ (n.log2 + 1) * 2 ^ (52 - n.log2) :=
            Nat.mul_lt_mul_of_pos_right Nat.lt_log2_self (Nat.two_pow_pos _)
        _ = 2 ^ 53 := by rw [← Nat.pow_add]; congr 1; omega
    have significand : n * 2 ^ (52 - n.log2) - binade < binade := by
      rw [binade_eq]
      omega
    have whole : binade + (n * 2 ^ (52 - n.log2) - binade) = n * 2 ^ (52 - n.log2) := by
      rw [binade_eq]
      omega
    have sum : 52 - n.log2 + (places - (52 - n.log2)) = places := by omega
    refine ⟨_, (units_large significand (places - (52 - n.log2))).trans ?_⟩
    rw [whole, Nat.mul_assoc, ← Nat.pow_add, sum]

variable {d : Decimal}

theorem isWhole_iff {rank : Nat} :
    isWhole rank = true ↔ ∃ n, units rank = n * unitsPerOne := by
  rw [isWhole, beq_iff_eq, ← Nat.dvd_iff_mod_eq_zero, dvd_iff_exists_eq_mul_left]

-- From 2^52 on there is no room for a fraction between the ranks.
theorem isWhole_of_large (large : (binade : ℚ) ≤ d.value) : isWhole d.rank = true := by
  have first : Decimal.rank ⟨binade, 0⟩ = (1074 + 1) * binade := by
    have exact := nearestRank_large (m := 0) (by decide) 1074
    rwa [Nat.add_zero, Nat.add_zero, ← unitsPerOne_eq, ← Decimal.rank_natCast] at exact
  have beyond := Decimal.rank_mono ((Decimal.value_natCast binade).trans_le large)
  rw [first] at beyond
  have binades : 1074 ≤ d.rank / binade - 1 := by
    have := (Nat.le_div_iff_mul_le (by decide : 0 < binade)).mpr beyond
    omega
  have outside : ¬ d.rank < binade := by
    omega
  have factor : unitsPerOne ∣ units d.rank := by
    have unit := unitsPerOne_eq
    generalize 1074 = exponent at unit binades
    rw [units, if_neg outside, unit, Nat.pow_eq]
    exact Nat.dvd_mul_left_of_dvd (Nat.pow_dvd_pow 2 binades) _
  exact isWhole_iff.mpr (dvd_iff_exists_eq_mul_left.mp factor)

-- A decimal without a fraction is read as a number without one.
theorem isWhole_of_natCast {n : Nat} (same : d.value = n) : isWhole d.rank = true := by
  by_cases small : n < binade
  · obtain ⟨rank, whole⟩ := exists_units small (by decide : 52 ≤ 1074)
    rw [← unitsPerOne_eq] at whole
    have reads : d.rank = rank := by
      have integer : d.value = Decimal.value ⟨n, 0⟩ := same.trans (Decimal.value_natCast n).symm
      rw [Decimal.rank_congr integer, Decimal.rank_natCast, ← nearestRank_units rank, whole]
    exact isWhole_iff.mpr ⟨n, reads ▸ whole⟩
  · apply isWhole_of_large
    rw [same]
    exact_mod_cast Nat.not_lt.mp small

theorem isWhole_of_short (above : 0 < d.point)
    (short : (significant d).length ≤ d.point.toNat) : isWhole d.rank = true := by
  obtain ⟨count, -, coefficient, length⟩ := significant_append d
  obtain ⟨gap, places⟩ : ∃ gap : Nat, (count : Int) + d.exponent = gap := by
    apply Int.eq_ofNat_of_zero_le
    unfold Decimal.point at short above
    omega
  apply isWhole_of_natCast (n := value (significant d) * 10 ^ gap)
  calc d.value = Decimal.value ⟨value (significant d) * 10 ^ count, d.exponent⟩ := by
        rw [← coefficient]
    _ = Decimal.value ⟨value (significant d), gap⟩ := by rw [Decimal.value_shift, places]
    _ = (value (significant d) * 10 ^ gap : Nat) := by simp [Decimal.value]

end Whole

section Thresholds

variable {rank : Nat}

theorem magnitude_high : magnitude wholeBelow = 10 ^ 21 := by
  have whole : units wholeBelow = 10 ^ 21 * unitsPerOne := by decide +kernel
  exact_mod_cast magnitude_eq_natCast.mpr whole

theorem small_whole_iff : isWhole rank = true ∧ rank < wholeBelow ↔
    ∃ n, units rank = n * unitsPerOne ∧ n < 10 ^ 21 := by
  rw [isWhole_iff, ← exists_and_right]
  apply exists_congr
  intro n
  apply and_congr_right
  intro whole
  rw [← magnitude_lt_iff, magnitude_high, magnitude_eq_natCast.mpr whole]
  exact_mod_cast Iff.rfl

-- The two thresholds are written as they stand, so a number is on the side of its digits.
theorem shortest_low : Decimal.shortest fixedFrom = ⟨1 * 10 ^ 1, -7⟩ := by
  decide +kernel

theorem shortest_high : Decimal.shortest wholeBelow = ⟨1, 21⟩ := by
  decide +kernel

theorem digitsFor_whole {n : Nat} (whole : units rank = n * unitsPerOne) (small : n < 10 ^ 21) :
    printedNumber.digitsFor rank = ⟨n, 0⟩ := by
  have quotient : units rank / unitsPerOne = n := by
    rw [whole, Nat.mul_div_cancel _ unitsPerOne_pos]
  have rest : units rank % unitsPerOne = 0 := by
    rw [whole, Nat.mul_mod_left]
  simp only [digitsFor, quotient, rest]
  exact if_pos ⟨rfl, trivial, small⟩

theorem digitsFor_other (other : ¬ (isWhole rank = true ∧ rank < wholeBelow)) :
    printedNumber.digitsFor rank = Decimal.shortest rank := by
  simp only [digitsFor]
  refine if_neg ?_
  rintro ⟨-, whole, small⟩
  have same := (Nat.div_mul_cancel (Nat.dvd_of_mod_eq_zero whole)).symm
  exact other (small_whole_iff.mpr ⟨_, same, small⟩)

theorem settled_low :
    (inspectedNumber.digitsFor fixedFrom).value = Decimal.value ⟨1, -6⟩ := by
  rw [digitsFor_inspected, shortest_low, Decimal.value_shift]
  rfl

theorem settled_high :
    (inspectedNumber.digitsFor wholeBelow).value = Decimal.value ⟨1, 21⟩ := by
  rw [digitsFor_inspected, shortest_high]

theorem shortest_ne_zero (nonzero : rank ≠ 0) : (Decimal.shortest rank).coefficient ≠ 0 := by
  rw [← digitsFor_inspected]
  exact inspectedNumber.digitsFor_ne_zero nonzero

theorem point_low_iff (nonzero : rank ≠ 0) :
    (Decimal.shortest rank).point ≤ -6 ↔ rank < fixedFrom := by
  rw [← digitsFor_inspected]
  exact inspectedNumber.digitsFor_point_le_iff settled_low nonzero

theorem point_high_iff (nonzero : rank ≠ 0) :
    (Decimal.shortest rank).point ≤ 21 ↔ rank < wholeBelow := by
  rw [← digitsFor_inspected]
  exact inspectedNumber.digitsFor_point_le_iff settled_high nonzero

end Thresholds

section Paths

variable (negative : Bool) {rank : Fin overflowRank}

theorem signedUnits_div {n : Nat} (whole : units rank = n * unitsPerOne) :
    signedUnits negative rank / unitsPerOne = if negative then -(n : Int) else n := by
  have nonzero : (unitsPerOne : Int) ≠ 0 := Int.natCast_ne_zero.mpr unitsPerOne_pos.ne'
  rw [signedUnits, whole, Nat.cast_mul]
  split
  · rw [← Int.neg_mul, Int.mul_ediv_cancel _ nonzero]
  · rw [Int.mul_ediv_cancel _ nonzero]

theorem integerText_eq {n : Nat} (positive : n ≠ 0) :
    integerText (if negative then -(n : Int) else n) =
      (sign negative).toList ++ Nat.toDigits 10 n := by
  cases negative with
  | false =>
    have above : ¬ (n : Int) < 0 := by omega
    rw [if_neg Bool.false_ne_true, integerText, if_neg above]
    rfl
  | true =>
    have below : -(n : Int) < 0 := by omega
    rw [if_pos rfl, integerText, if_pos below, Int.natAbs_neg]
    rfl

theorem printFinite_whole (whole : isWhole rank = true ∧ rank.val < wholeBelow) :
    printFinite negative rank = (printedNumber.write (finite negative rank)).toList := by
  obtain ⟨n, same, small⟩ := small_whole_iff.mp whole
  rw [printFinite, if_pos whole, signedUnits_div negative same]
  by_cases zero : rank.val = 0
  · have none : n = 0 := by
      have empty : units rank = 0 := by rw [zero]; rfl
      rw [same] at empty
      exact (Nat.mul_eq_zero.mp empty).resolve_right unitsPerOne_pos.ne'
    rw [none]
    cases negative <;> simp [integerText, write, zero, zeroText, printedNumber]
  · have digits := digitsFor_whole same small
    have positive : n ≠ 0 := by
      have coefficient := printedNumber.digitsFor_ne_zero zero
      rwa [digits] at coefficient
    have few : Decimal.digitCount n ≤ 21 :=
      (Nat.length_toDigits_le_iff (by decide) (by decide)).mpr small
    have low : (-6 : Int) < Decimal.digitCount n := by omega
    have high : (Decimal.digitCount n : Int) ≤ 21 := by omega
    rw [printedNumber.write_nonzero negative zero, digits,
      printedNumber.decimal_integer rfl low high, integerText_eq negative positive]

variable (other : ¬ (isWhole rank = true ∧ rank.val < wholeBelow)) (nonzero : rank.val ≠ 0)
include other nonzero

-- A fraction is left after the point, so the point is never added to the digits.
theorem positional_eq (low : (Decimal.shortest rank).point ≤ 16) :
    inspectedNumber.positional (significant (Decimal.shortest rank))
        (Decimal.shortest rank).point =
      printedNumber.positional (significant (Decimal.shortest rank))
        (Decimal.shortest rank).point := by
  have small := (point_high_iff nonzero).mp (Int.le_trans low (by decide))
  have fraction : ¬ isWhole (Decimal.shortest rank).rank = true := by
    rw [Decimal.shortest_rank]
    exact fun whole => other ⟨whole, small⟩
  apply positional_congr
  intro above
  exact Nat.not_le.mp fun short => fraction (isWhole_of_short above short)

theorem point_of_large (large : 16 < (Decimal.shortest rank).point) :
    21 < (Decimal.shortest rank).point := by
  by_contra below
  have small := (point_high_iff nonzero).mp (Int.not_lt.mp below)
  have power : (10 : ℚ) ^ (16 : Int) ≤ (Decimal.shortest rank).value :=
    (zpow_le_zpow_right₀ (by norm_num) (by omega)).trans
      (Decimal.ten_zpow_le_value (shortest_ne_zero nonzero))
  have binades : (binade : ℚ) ≤ 10 ^ (16 : Int) := by
    exact_mod_cast (by decide : binade ≤ 10 ^ 16)
  have whole := isWhole_of_large (binades.trans power)
  rw [Decimal.shortest_rank] at whole
  exact other ⟨whole, small⟩

theorem printFinite_other :
    printFinite negative rank = (printedNumber.write (finite negative rank)).toList := by
  have all : Digits (significant (Decimal.shortest rank)) := digits_dropTrailingZeros _
  have canonical := toDigits_significant (shortest_ne_zero nonzero)
  have low := point_low_iff nonzero
  have high := point_high_iff nonzero
  have middle := positional_eq other nonzero
  have large := point_of_large other nonzero
  rw [printedNumber.write_nonzero negative nonzero, digitsFor_other other, printFinite,
    if_neg other, inspect, inspectedNumber.write_nonzero negative nonzero, digitsFor_inspected]
  generalize Decimal.shortest rank = d at *
  -- The texts are split by the power of ten: below 10^-6, up to 10^-4, up to 10^16, and beyond,
  -- where a number that is not whole is at least 10^21.
  by_cases tiny : d.point ≤ -6
  · have little : d.point ≤ -4 := by omega
    have below : ¬ fixedFrom ≤ rank.val := Nat.not_le.mpr (low.mp tiny)
    have exponent : d.point - 1 ≠ 0 := by omega
    rw [inspectedNumber.decimal_beyond (Or.inl little), printedNumber.decimal_beyond (Or.inl tiny)]
    simp only [below, and_false, if_false]
    exact shortenExponent_scientific all negative exponent
  have above : fixedFrom ≤ rank.val := Nat.not_lt.mp fun less => tiny (low.mpr less)
  have first := Int.not_le.mp tiny
  by_cases little : d.point ≤ -4
  · have within : d.point ≤ 21 := by omega
    have exponent : d.point - 1 < 0 := by omega
    rw [inspectedNumber.decimal_beyond (Or.inl little),
      printedNumber.decimal_within ⟨first, within⟩]
    simp only [hasNegativeExponent_scientific all negative, exponent, decide_true, above, and_self,
      if_true]
    exact fixedText_scientific all negative _ canonical d.point
  by_cases short : d.point ≤ 16
  · have within : d.point ≤ 21 := by omega
    have unscaled := (unscaled_sign negative).append
      (inspectedNumber.positional_unscaled all d.point)
    rw [inspectedNumber.decimal_within ⟨Int.not_le.mp little, short⟩,
      printedNumber.decimal_within ⟨first, within⟩]
    simp only [hasNegativeExponent_unscaled unscaled, Bool.false_eq_true, false_and, if_false]
    rw [shortenExponent_unscaled unscaled, middle short]
  · have beyond := large (Int.not_le.mp short)
    have exponent : ¬ d.point - 1 < 0 := by omega
    have nonzero : d.point - 1 ≠ 0 := by omega
    rw [inspectedNumber.decimal_beyond (Or.inr (Int.not_le.mp short)),
      printedNumber.decimal_beyond (Or.inr beyond)]
    simp only [hasNegativeExponent_scientific all negative, exponent, decide_false,
      Bool.false_eq_true, false_and, if_false]
    exact shortenExponent_scientific all negative nonzero

end Paths

/-- The three notations make up one format. -/
theorem print_eq_write (x : Number) : x.print = printedNumber.write x := by
  cases x with
  | nan mark => rfl
  | infinite negative => cases negative <;> rfl
  | finite negative rank =>
    apply String.toList_injective
    rw [print, String.toList_ofList]
    by_cases whole : isWhole rank = true ∧ rank.val < wholeBelow
    · exact printFinite_whole negative whole
    · have nonzero : rank.val ≠ 0 := by
        intro zero
        apply whole
        rw [zero]
        decide +kernel
      exact printFinite_other negative whole nonzero

end Number

end PocketLisp
