import Mathlib.Algebra.Order.Group.Unbundled.Abs
import PocketLisp.Proofs.PrintedNumber

set_option autoImplicit false

namespace PocketLisp

namespace Literal

/-- `text` is a literal of the rational number `q`. -/
def Spells (text : List Char) (q : ℚ) : Prop :=
  ∃ negative d, Denotes negative d text ∧ q = if negative then -d.value else d.value

def Numeral (digits : List Char) : Prop :=
  Digits digits ∧ digits ≠ [] ∧ digits.head? ≠ some '0'

def Scale (text : List Char) : Prop :=
  ∃ sign digits, text = sign :: digits ∧ (sign = '+' ∨ sign = '-') ∧ Numeral digits

-- Where the text around the mark has no other mark, the mark is the only place to split at.
theorem split_at_mark {front back lead tail : List Char} {mark : Char}
    (e : mark = 'e' ∨ mark = 'E') (before : Unscaled lead) (after : Unscaled tail)
    (split : lead ++ 'e' :: tail = front ++ mark :: back) : tail = back := by
  have outside : mark ∉ lead ∧ mark ∉ tail := by
    rcases e with rfl | rfl
    · exact ⟨before.1, after.1⟩
    · exact ⟨before.2, after.2⟩
  exact ((List.append_cons_inj_of_notMem outside.1 outside.2).mp split).2.2

theorem numeral_toDigits {n : Nat} (nonzero : n ≠ 0) : Numeral (Nat.toDigits 10 n) :=
  ⟨digits_toDigits n, Nat.toDigits_ne_nil, head_toDigits nonzero⟩

end Literal

namespace NumberFormat

open Literal

theorem decimal_unscaled_iff (format : NumberFormat) (d : Decimal) :
    Unscaled (format.decimal d) ↔
      format.positionalFrom < d.point ∧ d.point ≤ format.positionalBelow := by
  have all : Digits (significant d) := digits_dropTrailingZeros d.coefficient
  by_cases within : format.positionalFrom < d.point ∧ d.point ≤ format.positionalBelow
  · rw [format.decimal_within within]
    exact iff_of_true (format.positional_unscaled all _) within
  · refine iff_of_false (fun unscaled => ?_) within
    rw [format.decimal_beyond (by omega), scientific_eq] at unscaled
    exact unscaled.1 (by simp)

theorem decimal_scaled (format : NumberFormat) (narrow : format.exponentWidth ≤ 1)
    (units : format.positionalFrom < 1 ∧ 1 ≤ format.positionalBelow) (negative : Bool)
    {d : Decimal} {front back : List Char} {mark : Char} (e : mark = 'e' ∨ mark = 'E')
    (split : (sign negative).toList ++ format.decimal d = front ++ mark :: back) : Scale back := by
  by_cases within : format.positionalFrom < d.point ∧ d.point ≤ format.positionalBelow
  · -- Such a text has no mark at all.
    have unscaled := (unscaled_sign negative).append ((format.decimal_unscaled_iff d).mpr within)
    rw [split] at unscaled
    rcases e with rfl | rfl
    · exact absurd (by simp) unscaled.1
    · exact absurd (by simp) unscaled.2
  · have before : Unscaled (mantissa (significant d)) :=
      mantissa_unscaled (digits_dropTrailingZeros d.coefficient)
    -- An exponent of zero would be within the bounds.
    have exponent : (d.point - 1).natAbs ≠ 0 := by omega
    have numeral := numeral_toDigits exponent
    rw [format.decimal_beyond (by omega), scientific_eq, format.exponentDigits_eq narrow,
      ← List.append_assoc] at split
    have signed := mark_signed (d.point - 1)
    generalize (if d.point - 1 < 0 then '-' else '+') = sign at split signed
    have after : Unscaled (sign :: Nat.toDigits 10 (d.point - 1).natAbs) := by
      apply numeral.1.unscaled.cons
      rcases signed with rfl | rfl <;> decide
    rw [← split_at_mark e ((unscaled_sign negative).append before) after split]
    exact ⟨sign, _, rfl, signed, numeral⟩

end NumberFormat

namespace Number

open Literal NumberFormat

def value : Number → ℚ
  | .finite negative rank => signedUnits negative rank / unitsPerOne
  | _ => 0

def Plain (x : Number) : Prop :=
  (∃ n : ℤ, x.value = n) ∧ |x.value| < 10 ^ 21

/-- The canonical text of a finite number. -/
structure Canonical (x : Number) (text : List Char) : Prop where
  precise : x.Plain → Spells text x.value
  -- Other numbers are spelt with the fewest digits, like their inspected form.
  shortest : ¬ x.Plain → ∃ q, Spells text q ∧ Spells x.inspect.toList q
  -- The lower bound is the number nearest to 10^-6.
  unscaled_iff : Unscaled text ↔
    x.value = 0 ∨ magnitude (Decimal.rank ⟨1, -6⟩) ≤ |x.value| ∧ |x.value| < 10 ^ 21
  zero : x.value = 0 → text = ['0']
  whole : x.Plain → x.value ≠ 0 →
    ∃ digits, Numeral digits ∧ text = (if x.value < 0 then ['-'] else []) ++ digits
  scaled : ∀ {front back : List Char} {mark : Char}, mark = 'e' ∨ mark = 'E' →
    text = front ++ mark :: back → Scale back

section Finite

variable (negative : Bool) {rank : Fin overflowRank}

theorem value_eq : (finite negative rank).value =
    if negative then -magnitude rank else magnitude rank := by
  cases negative with
  | false =>
    have plus : (finite false rank).value = ((units rank : Int) : ℚ) / unitsPerOne := rfl
    rw [plus, Int.cast_natCast, if_neg Bool.false_ne_true, magnitude]
  | true =>
    have minus : (finite true rank).value = ((-(units rank : Int) : Int) : ℚ) / unitsPerOne := rfl
    rw [minus, Int.cast_neg, Int.cast_natCast, neg_div, if_pos rfl, magnitude]

theorem abs_value : |(finite negative rank).value| = magnitude rank := by
  have nonneg : 0 ≤ magnitude rank := div_nonneg (Nat.cast_nonneg _) (Nat.cast_nonneg _)
  rw [value_eq]
  split
  · rw [abs_neg, abs_of_nonneg nonneg]
  · exact abs_of_nonneg nonneg

theorem value_eq_zero_iff : (finite negative rank).value = 0 ↔ rank.val = 0 := by
  rw [← abs_eq_zero, abs_value]
  constructor
  · intro none
    by_contra nonzero
    exact (magnitude_pos_iff.mpr (Nat.pos_of_ne_zero nonzero)).ne' none
  · intro zero
    rw [zero, magnitude_zero]

theorem sign_toList (nonzero : rank.val ≠ 0) :
    (sign negative).toList = if (finite negative rank).value < 0 then ['-'] else [] := by
  have positive : 0 < magnitude rank := magnitude_pos_iff.mpr (Nat.pos_of_ne_zero nonzero)
  rw [value_eq]
  cases negative with
  | false =>
    rw [if_neg Bool.false_ne_true, if_neg (not_lt.mpr positive.le)]
    rfl
  | true =>
    rw [if_pos rfl, if_pos (neg_lt_zero.mpr positive)]
    rfl

theorem plain_iff : (finite negative rank).Plain ↔
    ∃ n : Nat, units rank = n * unitsPerOne ∧ n < 10 ^ 21 := by
  simp only [Plain, abs_value, ← magnitude_eq_natCast]
  constructor
  · rintro ⟨⟨n, whole⟩, small⟩
    have same : magnitude rank = n.natAbs := by
      rw [← abs_value negative, whole, Nat.cast_natAbs, Int.cast_abs]
    rw [same] at small
    exact ⟨n.natAbs, same, by exact_mod_cast small⟩
  · rintro ⟨n, same, small⟩
    refine ⟨?_, by rw [same]; exact_mod_cast small⟩
    rw [value_eq, same]
    cases negative with
    | false => exact ⟨n, by simp⟩
    | true => exact ⟨-n, by simp⟩

theorem digitsFor_plain (plain : (finite negative rank).Plain) :
    ∃ n : Nat, printedNumber.digitsFor rank = ⟨n, 0⟩ ∧ magnitude rank = n ∧ n < 10 ^ 21 := by
  obtain ⟨n, whole, small⟩ := (plain_iff negative).mp plain
  exact ⟨n, digitsFor_whole whole small, magnitude_eq_natCast.mpr whole, small⟩

theorem digitsFor_shortest (other : ¬ (finite negative rank).Plain) :
    printedNumber.digitsFor rank = Decimal.shortest rank := by
  apply digitsFor_other
  rw [small_whole_iff, ← plain_iff negative]
  exact other

theorem write_spells (format : NumberFormat) (nonzero : rank.val ≠ 0) :
    Spells (format.write (finite negative rank)).toList
      (if negative then -(format.digitsFor rank).value else (format.digitsFor rank).value) := by
  obtain ⟨d, written, same⟩ := format.write_digitsFor negative nonzero
  exact ⟨negative, d, written, by rw [same]⟩

theorem print_zero (zero : rank.val = 0) : (finite negative rank).print.toList = ['0'] := by
  simp [print_eq_write, write, zero, zeroText, printedNumber]

theorem spells_zero : Spells ['0'] 0 := by
  refine ⟨false, ⟨0, 0⟩, parse?_eq_some.mp (by decide), by simp [Decimal.value]⟩

theorem printed_low :
    (printedNumber.digitsFor fixedFrom).value = Decimal.value ⟨1, -6⟩ := by
  have fraction : isWhole fixedFrom = false := by decide +kernel
  rw [digitsFor_other (by simp [fraction]), ← digitsFor_inspected, settled_low]

theorem printed_high :
    (printedNumber.digitsFor wholeBelow).value = Decimal.value ⟨1, 21⟩ := by
  rw [digitsFor_other (by simp), ← digitsFor_inspected, settled_high]

theorem decimal_digitsFor_unscaled_iff (nonzero : rank.val ≠ 0) :
    Unscaled (printedNumber.decimal (printedNumber.digitsFor rank)) ↔
      magnitude (Decimal.rank ⟨1, -6⟩) ≤ magnitude rank ∧ magnitude rank < 10 ^ 21 := by
  have low := printedNumber.digitsFor_point_le_iff printed_low nonzero
  have high := printedNumber.digitsFor_point_le_iff printed_high nonzero
  have above : magnitude (Decimal.rank ⟨1, -6⟩) ≤ magnitude rank ↔
      -6 < (printedNumber.digitsFor rank).point := by
    rw [← not_lt, magnitude_lt_iff, ← low, not_le]
  rw [decimal_unscaled_iff, above, ← magnitude_high, magnitude_lt_iff]
  exact and_congr_right fun _ => high

theorem print_precise (plain : (finite negative rank).Plain) :
    Spells (finite negative rank).print.toList (finite negative rank).value := by
  by_cases zero : rank.val = 0
  · rw [print_zero negative zero, (value_eq_zero_iff negative).mpr zero]
    exact spells_zero
  · obtain ⟨n, digits, whole, -⟩ := digitsFor_plain negative plain
    have same : (printedNumber.digitsFor rank).value = magnitude rank := by
      rw [digits, whole, Decimal.value_natCast]
    rw [value_eq, ← same, print_eq_write]
    exact write_spells negative printedNumber zero

theorem print_shortest (other : ¬ (finite negative rank).Plain) :
    ∃ q, Spells (finite negative rank).print.toList q ∧
      Spells (finite negative rank).inspect.toList q := by
  have nonzero : rank.val ≠ 0 := by
    intro zero
    apply other
    rw [Plain, (value_eq_zero_iff negative).mpr zero]
    exact ⟨⟨0, Int.cast_zero.symm⟩, by norm_num⟩
  have printed := write_spells negative printedNumber nonzero
  rw [digitsFor_shortest negative other, ← digitsFor_inspected, ← print_eq_write] at printed
  exact ⟨_, printed, write_spells negative inspectedNumber nonzero⟩

theorem print_whole (plain : (finite negative rank).Plain) (nonzero : rank.val ≠ 0) :
    ∃ digits, Numeral digits ∧ (finite negative rank).print.toList =
      (if (finite negative rank).value < 0 then ['-'] else []) ++ digits := by
  obtain ⟨n, digits, whole, small⟩ := digitsFor_plain negative plain
  have positive : n ≠ 0 := by
    have coefficient := printedNumber.digitsFor_ne_zero nonzero
    rwa [digits] at coefficient
  have few : Decimal.digitCount n ≤ 21 :=
    (Nat.length_toDigits_le_iff (by decide) (by decide)).mpr small
  have low : (-6 : Int) < Decimal.digitCount n := by omega
  have high : (Decimal.digitCount n : Int) ≤ 21 := by omega
  refine ⟨Nat.toDigits 10 n, numeral_toDigits positive, ?_⟩
  rw [print_eq_write, printedNumber.write_nonzero negative nonzero, digits,
    printedNumber.decimal_integer rfl low high, sign_toList negative nonzero]

theorem print_unscaled_iff : Unscaled (finite negative rank).print.toList ↔
    (finite negative rank).value = 0 ∨ magnitude (Decimal.rank ⟨1, -6⟩) ≤ magnitude rank ∧
      magnitude rank < 10 ^ 21 := by
  by_cases zero : rank.val = 0
  · rw [print_zero negative zero]
    exact iff_of_true (by decide) (Or.inl ((value_eq_zero_iff negative).mpr zero))
  · have nonzero : (finite negative rank).value ≠ 0 :=
      fun none => zero ((value_eq_zero_iff negative).mp none)
    have marks : Unscaled (finite negative rank).print.toList ↔
        Unscaled (printedNumber.decimal (printedNumber.digitsFor rank)) := by
      rw [print_eq_write, printedNumber.write_nonzero negative zero]
      constructor
      · intro text
        exact ⟨fun member => text.1 (List.mem_append_right _ member),
          fun member => text.2 (List.mem_append_right _ member)⟩
      · exact (unscaled_sign negative).append
    rw [marks, decimal_digitsFor_unscaled_iff zero, or_iff_right nonzero]

theorem print_scaled {front back : List Char} {mark : Char} (e : mark = 'e' ∨ mark = 'E')
    (split : (finite negative rank).print.toList = front ++ mark :: back) : Scale back := by
  by_cases zero : rank.val = 0
  · rw [print_zero negative zero] at split
    have member : mark ∈ ['0'] := by simp [split]
    rcases e with rfl | rfl <;> cases member <;> contradiction
  · rw [print_eq_write, printedNumber.write_nonzero negative zero] at split
    exact printedNumber.decimal_scaled (Nat.le_refl 1) (by decide) negative e split

end Finite

theorem equal_finite_iff {negative negative' : Bool} {rank rank' : Fin overflowRank} :
    (finite negative rank).equal (finite negative' rank') = true ↔
      rank = rank' ∧ (rank.val = 0 ∨ negative = negative') := by
  have places : (finite negative rank).equal (finite negative' rank') = true ↔
      (if negative then -(rank.val : Int) else rank.val) =
        if negative' then -(rank'.val : Int) else rank'.val := beq_iff_eq
  rw [places, Fin.ext_iff]
  cases negative <;> cases negative' <;> simp <;> omega

theorem print_eq_iff {negative negative' : Bool} {rank rank' : Fin overflowRank} :
    (finite negative rank).print = (finite negative' rank').print ↔
      (finite negative rank).equal (finite negative' rank') = true := by
  rw [equal_finite_iff]
  constructor
  · intro same
    have reads := printedNumber.number?_write negative rank
    have reads' := printedNumber.number?_write negative' rank'
    rw [print_eq_write, print_eq_write] at same
    rw [same, reads'] at reads
    obtain ⟨signs, rfl⟩ := finite.inj (Option.some.inj reads)
    refine ⟨rfl, ?_⟩
    by_cases zero : rank'.val = 0
    · exact Or.inl zero
    · have shown : (rank'.val != 0) = true := bne_iff_ne.mpr zero
      simp only [shown, Bool.or_true, Bool.and_true] at signs
      exact Or.inr signs.symm
  · rintro ⟨rfl, zero | rfl⟩
    · apply String.toList_injective
      rw [print_zero _ zero, print_zero _ zero]
    · rfl

/-- Every finite number is printed in canonical form, and two of them alike only when they are equal
as numbers. -/
theorem print_canonical (negative : Bool) (rank : Fin overflowRank) :
    (finite negative rank).Canonical (finite negative rank).print.toList ∧
      ∀ (negative' : Bool) (rank' : Fin overflowRank),
        (finite negative' rank').print = (finite negative rank).print ↔
          (finite negative' rank').equal (finite negative rank) = true := by
  refine ⟨?_, fun _ _ => print_eq_iff⟩
  exact {
    precise := print_precise negative
    shortest := print_shortest negative
    unscaled_iff := by
      rw [abs_value]
      exact print_unscaled_iff negative
    zero := fun none => print_zero negative ((value_eq_zero_iff negative).mp none)
    whole := fun plain nonzero =>
      print_whole negative plain fun zero => nonzero ((value_eq_zero_iff negative).mpr zero)
    scaled := print_scaled negative }

example : (Decimal.toNumber true ⟨1, -6⟩).print = "-0.000001" := by decide +kernel

example : (Decimal.toNumber false ⟨9999999999999997, -22⟩).print = "9.999999999999997e-7" := by
  decide +kernel

end Number

end PocketLisp
