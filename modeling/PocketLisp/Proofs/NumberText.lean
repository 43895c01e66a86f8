import Mathlib.Data.List.DropRight
import PocketLisp.Proofs.Decimal
import PocketLisp.Proofs.Literal

set_option autoImplicit false

namespace PocketLisp

theorem Decimal.value_shift (n k : Nat) (e : Int) :
    Decimal.value ⟨n * 10 ^ k, e⟩ = Decimal.value ⟨n, k + e⟩ := by
  simp only [Decimal.value]
  rw [zpow_add₀ (by norm_num), zpow_natCast]
  push_cast
  ring

namespace Literal

theorem value_append (front back : List Char) :
    value (front ++ back) = value front * 10 ^ back.length + value back := by
  calc value (front ++ back) = Nat.ofDigitChars 10 back (value front) :=
        Nat.ofDigitChars_append (l := front) (m := back) 0
    _ = 10 ^ back.length * value front + value back := Nat.ofDigitChars_eq_ofDigitChars_zero
    _ = value front * 10 ^ back.length + value back := by rw [Nat.mul_comm]

theorem value_append_zeros (digits : List Char) (count : Nat) :
    value (digits ++ NumberFormat.zeros count) = value digits * 10 ^ count := by
  have none : value (NumberFormat.zeros count) = 0 := Nat.ofDigitChars_replicate_zero (b := 10)
  rw [value_append, none, Nat.add_zero, NumberFormat.zeros, List.length_replicate]

theorem value_zeros_append (count : Nat) (digits : List Char) :
    value (NumberFormat.zeros count ++ digits) = value digits := by
  have none : value (NumberFormat.zeros count) = 0 := Nat.ofDigitChars_replicate_zero (b := 10)
  rw [value_append, none, Nat.zero_mul, Nat.zero_add]

theorem value_toDigits (n : Nat) : value (Nat.toDigits 10 n) = n :=
  Nat.ofDigitChars_ten_toDigits

theorem digits_toDigits (n : Nat) : Digits (Nat.toDigits 10 n) := by
  intro c member
  exact Nat.isDigit_of_mem_toDigits (by decide) (by decide) member

theorem digits_zeros (count : Nat) : Digits (NumberFormat.zeros count) := by
  intro c member
  rw [List.eq_of_mem_replicate member]
  decide

theorem Digits.append {front back : List Char} (first : Digits front) (second : Digits back) :
    Digits (front ++ back) := by
  intro c member
  rcases List.mem_append.mp member with inFront | inBack
  · exact first c inFront
  · exact second c inBack

theorem Magnitude.plain {whole fraction text : List Char} (digits : Mantissa whole fraction text) :
    Magnitude ⟨value (whole ++ fraction), -fraction.length⟩ text := by
  have unscaled := Magnitude.scaled digits .absent
  rwa [List.append_nil, Int.zero_sub] at unscaled

end Literal

namespace NumberFormat

open Literal

theorem dropTrailingZeros_append (digits : List Char) :
    ∃ count, digits = dropTrailingZeros digits ++ zeros count := by
  have dropped : digits = digits.rdropWhile (· == '0') ++ digits.rtakeWhile (· == '0') :=
    (List.rdropWhile_append_rtakeWhile ..).symm
  refine ⟨(digits.rtakeWhile (· == '0')).length, dropped.trans ?_⟩
  congr 1
  apply List.eq_replicate_of_mem
  intro c member
  simpa using List.mem_rtakeWhile_imp member

theorem digits_dropTrailingZeros (n : Nat) : Digits (dropTrailingZeros (Nat.toDigits 10 n)) := by
  obtain ⟨count, dropped⟩ := dropTrailingZeros_append (Nat.toDigits 10 n)
  intro c member
  exact digits_toDigits n c (dropped ▸ List.mem_append_left _ member)

theorem positional_magnitude (format : NumberFormat) {digits : List Char} (all : Digits digits)
    (nonempty : digits ≠ []) (point : Int) :
    ∃ d, Magnitude d (format.positional digits point) ∧
      d.value = Decimal.value ⟨value digits, point - digits.length⟩ := by
  unfold positional
  split
  -- The point stands before the digits, after them, or among them.
  · next low =>
    have text : ['0', '.'] ++ zeros (-point).toNat ++ digits =
        zeros 1 ++ '.' :: (zeros (-point).toNat ++ digits) := by simp [zeros]
    have places : Digits (zeros (-point).toNat ++ digits) := (digits_zeros _).append all
    have exponent : -((zeros (-point).toNat ++ digits).length : Int) = point - digits.length := by
      rw [List.length_append, zeros, List.length_replicate]
      omega
    rw [text]
    refine ⟨_, .plain (.pointed (digits_zeros 1) places (.inl (by decide))), ?_⟩
    rw [value_zeros_append, value_zeros_append, exponent]
  · next high =>
    have padded : Digits (digits ++ zeros (point.toNat - digits.length)) :=
      all.append (digits_zeros _)
    split
    · next short =>
      have exponent : ((point.toNat - digits.length : Nat) : Int) = point - digits.length := by
        omega
      split
      · have text : ['.', '0'] = '.' :: zeros 1 := rfl
        rw [text]
        refine ⟨_, .plain (.pointed padded (digits_zeros 1) (.inr (by decide))), ?_⟩
        rw [value_append_zeros, Decimal.value_shift, value_append_zeros, Decimal.value_shift, zeros,
          List.length_replicate, Int.add_right_neg, Int.add_zero, exponent]
      · rw [List.append_nil]
        refine ⟨_, .plain (.integer padded (by simp [nonempty])), ?_⟩
        rw [List.append_nil, value_append_zeros, Decimal.value_shift, List.length_nil, exponent,
          Int.ofNat_zero, Int.neg_zero, Int.add_zero]
    · next long =>
      have front : Digits (digits.take point.toNat) := fun c member =>
        all c (List.mem_of_mem_take member)
      have back : Digits (digits.drop point.toNat) := fun c member =>
        all c (List.mem_of_mem_drop member)
      refine ⟨_, .plain (.pointed front back (.inr ?_)), ?_⟩
      · rw [ne_eq, List.drop_eq_nil_iff]
        omega
      · have exponent : -((digits.length - point.toNat : Nat) : Int) = point - digits.length := by
          omega
        rw [List.take_append_drop, List.length_drop, exponent]

theorem exponent_written (format : NumberFormat) (exponent : Int) :
    Exponent exponent
      (['e', if exponent < 0 then '-' else '+'] ++ format.exponentDigits exponent.natAbs) := by
  have all : Digits (format.exponentDigits exponent.natAbs) :=
    (digits_zeros _).append (digits_toDigits _)
  have nonempty : format.exponentDigits exponent.natAbs ≠ [] := by
    simp [exponentDigits, Nat.toDigits_ne_nil]
  have same : value (format.exponentDigits exponent.natAbs) = exponent.natAbs := by
    rw [exponentDigits, value_zeros_append, value_toDigits]
  split
  · next low =>
    have scale := Exponent.marked (.inl rfl) .minus all nonempty
    rwa [same, if_pos rfl, ← Int.eq_neg_natAbs_of_nonpos (Int.le_of_lt low)] at scale
  · next high =>
    have scale := Exponent.marked (.inl rfl) .plus all nonempty
    rwa [same, if_neg Bool.false_ne_true, Int.natAbs_of_nonneg (Int.not_lt.mp high)] at scale

theorem scientific_magnitude (format : NumberFormat) {digits : List Char} (all : Digits digits)
    (nonempty : digits ≠ []) (exponent : Int) :
    Magnitude ⟨value digits, exponent + 1 - digits.length⟩ (format.scientific digits exponent) := by
  obtain ⟨first, rest, rfl⟩ := List.exists_cons_of_ne_nil nonempty
  have whole : Digits [first] := fun c member =>
    all c (List.mem_singleton.mp member ▸ List.mem_cons_self)
  have places : Digits rest := fun c member => all c (List.mem_cons_of_mem _ member)
  have mantissa : Mantissa [first] rest
      ([first] ++ if (first :: rest).length ≤ 1 then [] else '.' :: rest) := by
    cases rest with
    | nil => exact .integer whole (List.cons_ne_nil _ _)
    | cons c rest =>
      rw [if_neg (by simp)]
      exact .pointed whole places (.inl (List.cons_ne_nil _ _))
  have written := Magnitude.scaled mantissa (format.exponent_written exponent)
  have scale : exponent - rest.length = exponent + 1 - (first :: rest).length := by
    rw [List.length_cons]
    omega
  rw [scale] at written
  simpa [scientific] using written

theorem decimal_magnitude (format : NumberFormat) {d : Decimal} (nonzero : d.coefficient ≠ 0) :
    ∃ d', Magnitude d' (format.decimal d) ∧ d'.value = d.value := by
  obtain ⟨count, dropped⟩ := dropTrailingZeros_append (Nat.toDigits 10 d.coefficient)
  generalize kept : dropTrailingZeros (Nat.toDigits 10 d.coefficient) = digits at dropped
  -- The zeros that are not shown are made up for by the place of the point.
  have coefficient : d.coefficient = value digits * 10 ^ count := by
    rw [← value_append_zeros, ← dropped, value_toDigits]
  have all : Digits digits := kept ▸ digits_dropTrailingZeros d.coefficient
  have nonempty : digits ≠ [] := by
    rintro rfl
    exact nonzero (coefficient.trans (Nat.zero_mul _))
  have point : ((Nat.toDigits 10 d.coefficient).length : Int) + d.exponent - digits.length =
      count + d.exponent := by
    rw [dropped, List.length_append, zeros, List.length_replicate]
    omega
  have same : Decimal.value ⟨value digits, count + d.exponent⟩ = d.value := by
    rw [← Decimal.value_shift, ← coefficient]
  simp only [decimal, kept]
  split
  · obtain ⟨d', written, value⟩ := format.positional_magnitude all nonempty
      ((Nat.toDigits 10 d.coefficient).length + d.exponent)
    exact ⟨d', written, by rw [value, point, same]⟩
  · refine ⟨_, format.scientific_magnitude all nonempty _, ?_⟩
    rw [Int.sub_add_cancel, point, same]

theorem zeroText_denotes (format : NumberFormat) (negative : Bool) :
    ∃ e, Denotes (negative && format.signedZero) ⟨0, e⟩ (format.zeroText negative) := by
  have mark : Sign (negative && format.signedZero)
      (if negative && format.signedZero then ['-'] else []) := by
    cases negative && format.signedZero with
    | false => exact .absent
    | true => exact .minus
  unfold zeroText
  cases format.keepPoint with
  | false => exact ⟨0, .signed mark (.plain (.integer (digits_zeros 1) (by decide)))⟩
  | true =>
    have zero : Mantissa ['0'] ['0'] ['0', '.', '0'] :=
      .pointed (digits_zeros 1) (digits_zeros 1) (.inl (by decide))
    exact ⟨-1, .signed mark (.plain zero)⟩

-- A zero coefficient would read back as rank zero.
theorem digitsFor_ne_zero (format : NumberFormat) {rank : Nat} (nonzero : rank ≠ 0) :
    (format.digitsFor rank).coefficient ≠ 0 := by
  intro none
  apply nonzero
  rw [← format.digitsFor_rank rank, ← Decimal.rank_zero (format.digitsFor rank).exponent, ← none]

theorem write_nonzero (format : NumberFormat) (negative : Bool) {rank : Fin overflowRank}
    (nonzero : rank.val ≠ 0) :
    (format.write (.finite negative rank)).toList =
      (sign negative).toList ++ format.decimal (format.digitsFor rank) := by
  simp [write, nonzero]

theorem sign_written (negative : Bool) : Sign negative (sign negative).toList := by
  cases negative with
  | false => exact .absent
  | true => exact .minus

theorem write_digitsFor (format : NumberFormat) (negative : Bool) {rank : Fin overflowRank}
    (nonzero : rank.val ≠ 0) :
    ∃ d, Denotes negative d (format.write (.finite negative rank)).toList ∧
      d.value = (format.digitsFor rank).value := by
  obtain ⟨d, written, same⟩ := format.decimal_magnitude (format.digitsFor_ne_zero nonzero)
  rw [write_nonzero format negative nonzero]
  exact ⟨d, .signed (sign_written negative) written, same⟩

/-- The text of a finite number denotes a decimal that rounds to it. A zero may lose its sign. -/
theorem write_denotes (format : NumberFormat) (negative : Bool) (rank : Fin overflowRank) :
    ∃ d, Denotes (negative && (format.signedZero || rank.val != 0)) d
        (format.write (.finite negative rank)).toList ∧ d.rank = rank := by
  by_cases zero : rank.val = 0
  · obtain ⟨e, written⟩ := format.zeroText_denotes negative
    refine ⟨⟨0, e⟩, ?_, ?_⟩
    · simpa [write, zero] using written
    · rw [Decimal.rank_zero, zero]
  · obtain ⟨d, written, same⟩ := format.write_digitsFor negative zero
    have shown : (rank.val != 0) = true := bne_iff_ne.mpr zero
    refine ⟨d, ?_, (Decimal.rank_congr same).trans (format.digitsFor_rank rank)⟩
    simpa [shown] using written

theorem number?_write (format : NumberFormat) (negative : Bool) (rank : Fin overflowRank) :
    number? (format.write (.finite negative rank)) =
      some (.finite (negative && (format.signedZero || rank.val != 0)) rank) := by
  obtain ⟨d, written, same⟩ := format.write_denotes negative rank
  have reads : d.toNumber (negative && (format.signedZero || rank.val != 0)) =
      .finite (negative && (format.signedZero || rank.val != 0)) rank := by
    rw [Decimal.toNumber_eq, same, Number.ofRank, dif_pos rank.isLt]
  rw [number?, parse?_eq_some.mpr written, ← reads]
  rfl

end NumberFormat

end PocketLisp
