import Mathlib.Data.List.TakeWhile
import PocketLisp.Number.Literal

set_option autoImplicit false

namespace PocketLisp.Literal

def Digits (text : List Char) : Prop :=
  ∀ c ∈ text, c.isDigit = true

inductive Sign : (negative : Bool) → (text : List Char) → Prop where
  | absent : Sign false []
  | plus : Sign false ['+']
  | minus : Sign true ['-']

inductive Mantissa : (whole fraction text : List Char) → Prop where
  | integer {whole : List Char} (digits : Digits whole) (nonempty : whole ≠ []) :
    Mantissa whole [] whole
  | pointed {whole fraction : List Char} (digits : Digits whole) (places : Digits fraction)
    (nonempty : whole ≠ [] ∨ fraction ≠ []) : Mantissa whole fraction (whole ++ '.' :: fraction)

inductive Exponent : (exponent : Int) → (text : List Char) → Prop where
  | absent : Exponent 0 []
  | marked {mark : Char} {negative : Bool} {sign digits : List Char} (e : mark = 'e' ∨ mark = 'E')
    (signed : Sign negative sign) (all : Digits digits) (nonempty : digits ≠ []) :
    Exponent (if negative then -(value digits : Int) else value digits) (mark :: (sign ++ digits))

inductive Magnitude : (d : Decimal) → (text : List Char) → Prop where
  | scaled {exponent : Int} {whole fraction mantissa tail : List Char}
    (digits : Mantissa whole fraction mantissa) (scale : Exponent exponent tail) :
    Magnitude ⟨value (whole ++ fraction), exponent - fraction.length⟩ (mantissa ++ tail)

/-- The literals of a signed decimal. -/
inductive Denotes : (negative : Bool) → (d : Decimal) → (text : List Char) → Prop where
  | signed {negative : Bool} {d : Decimal} {sign magnitude : List Char}
    (mark : Sign negative sign) (unsigned : Magnitude d magnitude) :
    Denotes negative d (sign ++ magnitude)

section Reading

variable {negative : Bool} {text rest : List Char}

theorem digits_append (all : Digits text) (stops : ∀ c ∈ rest.head?, c.isDigit = false) :
    digits (text ++ rest) = (text, rest) := by
  have nothing : rest.takeWhile Char.isDigit = [] ∧ rest.dropWhile Char.isDigit = rest := by
    cases rest with
    | nil => exact ⟨rfl, rfl⟩
    | cons c rest =>
      have other := stops c rfl
      simp [other]
  rw [digits, List.takeWhile_append_of_pos all, List.dropWhile_append_of_pos all, nothing.1,
    nothing.2, List.append_nil]

theorem digits_sound (text : List Char) :
    Digits (digits text).1 ∧ text = (digits text).1 ++ (digits text).2 :=
  ⟨fun _ member => List.mem_takeWhile_imp member, List.takeWhile_append_dropWhile.symm⟩

theorem isDigit_ne {c : Char} (digit : c.isDigit = true) : c ≠ '+' ∧ c ≠ '-' ∧ c ≠ '.' := by
  refine ⟨?_, ?_, ?_⟩ <;>
  · rintro rfl
    exact absurd digit (by decide)

-- Each part of a literal is read up to where the next one starts, and the characters that the next
-- one may start with cannot go on with this one.
theorem sign_append {mark : List Char} (signed : Sign negative mark)
    (starts : ∀ c ∈ text.head?, c ≠ '+' ∧ c ≠ '-') : sign (mark ++ text) = (negative, text) := by
  cases signed with
  | plus => rfl
  | minus => rfl
  | absent =>
    cases text with
    | nil => rfl
    | cons c text =>
      obtain ⟨plus, minus⟩ := starts c rfl
      unfold sign
      split <;> simp_all

theorem sign_sound (text : List Char) :
    ∃ mark, Sign (sign text).1 mark ∧ text = mark ++ (sign text).2 := by
  unfold sign
  split
  · exact ⟨_, .plus, rfl⟩
  · exact ⟨_, .minus, rfl⟩
  · exact ⟨_, .absent, rfl⟩

theorem Digits.head (all : Digits text) : ∀ c ∈ text.head?, c.isDigit = true := by
  intro c first
  exact all c (List.mem_of_mem_head? first)

theorem Mantissa.starts {whole fraction : List Char} (digits : Mantissa whole fraction text) :
    ∀ c ∈ (text ++ rest).head?, c ≠ '+' ∧ c ≠ '-' := by
  intro c first
  cases digits with
  | integer all nonempty =>
    obtain ⟨d, whole, rfl⟩ := List.exists_cons_of_ne_nil nonempty
    obtain rfl : d = c := Option.some.inj first
    have other := isDigit_ne (all d (List.mem_cons_self ..))
    exact ⟨other.1, other.2.1⟩
  | pointed all places nonempty =>
    cases whole with
    | nil =>
      obtain rfl : '.' = c := Option.some.inj first
      decide
    | cons d whole =>
      obtain rfl : d = c := Option.some.inj first
      have other := isDigit_ne (all d (List.mem_cons_self ..))
      exact ⟨other.1, other.2.1⟩

theorem Exponent.starts {exponent : Int} (scale : Exponent exponent text) :
    ∀ c ∈ text.head?, c.isDigit = false ∧ c ≠ '.' := by
  intro c first
  cases scale with
  | absent => cases first
  | marked e =>
    obtain rfl := Option.some.inj first
    rcases e with rfl | rfl <;> decide

theorem mantissa?_append {whole fraction : List Char} (mantissa : Mantissa whole fraction text)
    (stops : ∀ c ∈ rest.head?, c.isDigit = false ∧ c ≠ '.') :
    mantissa? (text ++ rest) = some (whole, fraction, rest) := by
  have after : ∀ c ∈ rest.head?, c.isDigit = false := fun c first => (stops c first).1
  cases mantissa with
  | integer all nonempty =>
    simp only [mantissa?, digits_append all after]
    -- The rest is looked at for a point, which it does not start with.
    cases rest with
    | nil => simp [nonempty]
    | cons c rest =>
      have other : c ≠ '.' := (stops c rfl).2
      simp [nonempty, other]
  | pointed all places nonempty =>
    have point : ∀ c ∈ ('.' :: (fraction ++ rest)).head?, c.isDigit = false := by
      intro c first
      obtain rfl := Option.some.inj first
      decide
    have filled : (whole.isEmpty && fraction.isEmpty) = false := by
      rw [Bool.and_eq_false_iff, List.isEmpty_eq_false_iff, List.isEmpty_eq_false_iff]
      exact nonempty
    rw [List.append_assoc, List.cons_append, mantissa?, digits_append all point]
    simp only [digits_append places after, filled]
    rfl

theorem mantissa?_sound {whole fraction : List Char}
    (read : mantissa? text = some (whole, fraction, rest)) :
    ∃ mantissa, Mantissa whole fraction mantissa ∧ text = mantissa ++ rest := by
  have front := digits_sound text
  unfold mantissa? at read
  split at read
  · next start after same =>
    rw [same] at front
    have back := digits_sound after
    rcases places : digits after with ⟨ds, tail⟩
    simp only [places] at back read
    split at read
    · cases read
    · next nonempty =>
      obtain ⟨rfl, rfl, rfl⟩ := by simpa using read
      refine ⟨_, .pointed front.1 back.1 ?_, ?_⟩
      · simpa [Classical.or_iff_not_imp_left] using nonempty
      · rw [List.append_assoc, List.cons_append, ← back.2]
        exact front.2
  · next start after _ same =>
    rw [same] at front
    split at read
    · cases read
    · next nonempty =>
      obtain ⟨rfl, rfl, rfl⟩ := by simpa using read
      exact ⟨start, .integer front.1 (by simpa using nonempty), front.2⟩

theorem exponent?_complete {exponent : Int} (scale : Exponent exponent text) :
    exponent? text = some exponent := by
  cases scale with
  | absent => rfl
  | @marked mark negative sgn ds e signed all nonempty =>
    have starts : ∀ c ∈ ds.head?, c ≠ '+' ∧ c ≠ '-' := fun c first =>
      have other := isDigit_ne (all.head c first)
      ⟨other.1, other.2.1⟩
    have whole : digits (ds ++ []) = (ds, []) := digits_append all (by simp)
    rw [List.append_nil] at whole
    simp only [exponent?, if_pos e, sign_append signed starts, whole]
    simp [nonempty]

theorem exponent?_sound {exponent : Int} (read : exponent? text = some exponent) :
    Exponent exponent text := by
  cases text with
  | nil =>
    obtain rfl : 0 = exponent := Option.some.inj read
    exact .absent
  | cons mark text =>
    obtain ⟨sgn, signed, same⟩ := sign_sound text
    rcases after : sign text with ⟨negative, tail⟩
    have all := digits_sound tail
    rcases whole : digits tail with ⟨ds, rest⟩
    simp only [exponent?, after, whole] at read signed same all
    split at read
    · next e =>
      split at read
      · next ds' split =>
        obtain ⟨rfl, rfl⟩ := by simpa using split
        split at read
        · cases read
        · next nonempty =>
          obtain rfl := Option.some.inj read
          rw [same, all.2, List.append_nil]
          exact .marked e signed all.1 (by simpa using nonempty)
      · cases read
    · cases read

theorem parse?_eq_some {d : Decimal} :
    parse? text = some (negative, d) ↔ Denotes negative d text := by
  constructor
  · intro read
    obtain ⟨sgn, signed, same⟩ := sign_sound text
    rcases after : sign text with ⟨minus, rest⟩
    simp only [parse?, after, Option.bind_eq_bind, Option.bind_eq_some_iff] at read signed same
    obtain ⟨⟨whole, fraction, tail⟩, front, exponent, back, result⟩ := read
    obtain ⟨rfl, rfl⟩ := by simpa using result
    obtain ⟨mantissa, digits, split⟩ := mantissa?_sound front
    rw [same, split]
    exact .signed signed (.scaled digits (exponent?_sound back))
  · intro literal
    obtain ⟨mark, ⟨digits, scale⟩⟩ := literal
    rw [parse?, sign_append mark digits.starts]
    simp [mantissa?_append digits scale.starts, exponent?_complete scale]

end Reading

end PocketLisp.Literal
