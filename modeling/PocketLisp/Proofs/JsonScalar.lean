import PocketLisp.Json.Read
import PocketLisp.Proofs.Literal
import PocketLisp.Proofs.Run

set_option autoImplicit false

namespace PocketLisp.Json

def Fault.IsLimit : Fault → Prop
  | .malformed _ _ => False
  | .longInteger _ | .tooDeep => True

inductive Continues : List Char → Prop
  | fraction {d : Char} {rest : List Char} (digit : d.isDigit = true) :
      Continues ('.' :: d :: rest)
  | exponent {mark d : Char} {negative : Bool} {sign rest : List Char}
      (e : mark = 'e' ∨ mark = 'E') (signed : Literal.Sign negative sign)
      (digit : d.isDigit = true) : Continues (mark :: (sign ++ d :: rest))

inductive LongInteger : (text : List Char) → (count : Nat) → Prop
  | digits {sign digits rest : List Char} (signed : sign = [] ∨ sign = ['-'])
      (all : Literal.Digits digits) (nonzero : digits.head? ≠ some '0')
      (exceeds : Literal.maxIntegerDigits < digits.length)
      (stops : ∀ c ∈ rest.head?, c.isDigit = false) (whole : ¬ Continues rest) :
      LongInteger (sign ++ (digits ++ rest)) digits.length

section Lengths

@[simp] theorem rest_advance (cursor : Cursor) (count : Nat) :
    (cursor.advance count).rest = cursor.rest.drop count := rfl

theorem skipBlanks_le (cursor : Cursor) : cursor.skipBlanks.rest.length ≤ cursor.rest.length := by
  simp [Cursor.skipBlanks]

variable {α β : Type}

def Within (error : Fault → Prop) (text : List Char) : Except Fault (α × Cursor) → Prop :=
  Ends (fun read => read.2.rest.length ≤ text.length) error

variable {error : Fault → Prop} {text : List Char} {answer : Except Fault (α × Cursor)}

theorem Within.longer {longer : List Char} (within : Within error text answer)
    (le : text.length ≤ longer.length) : Within error longer answer :=
  within.weaken (fun _ shorter => Nat.le_trans shorter le) fun _ => id

theorem Within.bind {next : α × Cursor → Except Fault (β × Cursor)}
    (first : Within error text answer)
    (rest : ∀ v after, Within error after.rest (next (v, after))) :
    Within error text (answer >>= next) :=
  Ends.bind first fun read shorter => (rest read.1 read.2).longer shorter

abbrev Plain (text : List Char) : Except Fault (α × Cursor) → Prop :=
  Within (fun fault => ¬ fault.IsLimit) text

theorem readCodes_plain (opening position : Nat) (read : List Nat) (text : List Char) :
    Plain text (readCodes opening position read text) := by
  fun_induction readCodes opening position read text
  case case2 => simp [Within, Ends]
  case case6 ih | case8 ih | case11 ih => exact ih.longer (by simp only [List.length_cons]; omega)
  all_goals exact id

theorem readString_plain (cursor : Cursor) : Plain cursor.rest (readString cursor) :=
  (readCodes_plain _ _ _ _).bind fun _ _ => Nat.le_refl _

theorem readKey_plain (cursor : Cursor) : Plain cursor.rest (readKey cursor) := by
  unfold readKey
  split
  · refine Within.longer (.bind (readString_plain _) fun key after => ?_) (by simp)
    have blanks := skipBlanks_le after
    dsimp only
    split
    · exact Nat.le_trans (skipBlanks_le _) (Nat.le_trans (by simp) blanks)
    · exact id
  · exact id

end Lengths

section Numbers

theorem fractionDigits_eq_nil_iff (text : List Char) :
    fractionDigits text = [] ↔ ∀ d rest, text = '.' :: d :: rest → d.isDigit = false := by
  unfold fractionDigits
  split
  · next rest =>
    cases rest with
    | nil => simp
    | cons c rest => cases digit : c.isDigit <;> simp [digit]
  · next other =>
    simp only [true_iff]
    rintro d rest rfl
    exact absurd rfl (other _)

theorem exponentPart?_eq_none_iff (mark : Char) (text : List Char) :
    exponentPart? (mark :: text) = none ↔
      (mark = 'e' ∨ mark = 'E') → ∀ d ∈ (Literal.sign text).2.head?, d.isDigit = false := by
  by_cases e : mark = 'e' ∨ mark = 'E'
  · rcases unsigned : Literal.sign text with ⟨negative, _ | ⟨d, rest⟩⟩
    · simp [exponentPart?, e, unsigned]
    · cases digit : d.isDigit <;> simp [exponentPart?, e, unsigned, digit]
  · simp [exponentPart?, e]

theorem not_continues_iff (text : List Char) :
    ¬ Continues text ↔ fractionDigits text = [] ∧ exponentPart? text = none := by
  constructor
  · intro whole
    constructor
    · refine (fractionDigits_eq_nil_iff text).mpr ?_
      rintro d rest rfl
      exact Bool.eq_false_iff.mpr fun digit => whole (.fraction digit)
    · cases text with
      | nil => rfl
      | cons mark rest =>
        refine (exponentPart?_eq_none_iff mark rest).mpr fun e d first => ?_
        obtain ⟨sign, signed, joined⟩ := Literal.sign_sound rest
        obtain ⟨more, unsigned⟩ : ∃ more, (Literal.sign rest).2 = d :: more :=
          List.head?_eq_some_iff.mp first
        rw [unsigned] at joined
        subst joined
        exact Bool.eq_false_iff.mpr fun digit => whole (.exponent e signed digit)
  · rintro ⟨fraction, exponent⟩ continues
    cases continues with
    | fraction digit =>
      have none := (fractionDigits_eq_nil_iff _).mp fraction _ _ rfl
      exact absurd digit (by simp [none])
    | @exponent mark d negative sign rest e signed digit =>
      have plain := Literal.isDigit_ne digit
      have starts : ∀ c ∈ (d :: rest).head?, c ≠ '+' ∧ c ≠ '-' := by
        simpa using ⟨plain.1, plain.2.1⟩
      have none := (exponentPart?_eq_none_iff mark _).mp exponent e d
      rw [Literal.sign_append signed starts] at none
      exact absurd digit (by simp [none rfl])

def pastFraction (cursor : Cursor) : Cursor :=
  if (fractionDigits cursor.rest).isEmpty then cursor
  else cursor.advance (1 + (fractionDigits cursor.rest).length)

theorem pastFraction_le (cursor : Cursor) :
    (pastFraction cursor).rest.length ≤ cursor.rest.length := by
  unfold pastFraction
  split <;> simp

def readTail (negative : Bool) (whole : List Char) (cursor : Cursor) :
    Except Fault (Json × Cursor) :=
  match exponentPart? (pastFraction cursor).rest with
  | some (length, exponent) =>
    .ok (decimalNumber negative whole (fractionDigits cursor.rest) exponent,
      (pastFraction cursor).advance length)
  | none =>
    if !(fractionDigits cursor.rest).isEmpty then
      .ok (decimalNumber negative whole (fractionDigits cursor.rest) 0, pastFraction cursor)
    else if Literal.maxIntegerDigits < whole.length then .error (.longInteger whole.length)
    else .ok (.int (signed negative (Literal.value whole)), pastFraction cursor)

def unsigned (cursor : Cursor) : Cursor :=
  if cursor.rest.head? = some '-' then cursor.advance 1 else cursor

theorem readNumber_eq (cursor : Cursor) :
    readNumber cursor =
      if (wholeDigits (unsigned cursor).rest).isEmpty then cursor.fail .value
      else readTail (cursor.rest.head? = some '-') (wholeDigits (unsigned cursor).rest)
        ((unsigned cursor).advance (wholeDigits (unsigned cursor).rest).length) := rfl

theorem readTail_within (negative : Bool) (whole : List Char) (cursor : Cursor) :
    Within (fun fault => fault = .longInteger whole.length ∧
        Literal.maxIntegerDigits < whole.length ∧ ¬ Continues cursor.rest)
      cursor.rest (readTail negative whole cursor) := by
  have past := pastFraction_le cursor
  unfold readTail
  split
  · exact Nat.le_trans (by simp) past
  · next exponent =>
    split
    · exact past
    · next fraction =>
      have empty : fractionDigits cursor.rest = [] := by simpa using fraction
      split
      · next long =>
        refine ⟨rfl, long, (not_continues_iff _).mpr ⟨empty, ?_⟩⟩
        simpa [pastFraction, empty] using exponent
      · exact past

theorem readTail_long (negative : Bool) {whole : List Char} {cursor : Cursor}
    (exceeds : Literal.maxIntegerDigits < whole.length) (integer : ¬ Continues cursor.rest) :
    readTail negative whole cursor = .error (.longInteger whole.length) := by
  obtain ⟨fraction, exponent⟩ := (not_continues_iff _).mp integer
  simp [readTail, pastFraction, fraction, exponent, exceeds]

theorem wholeDigits_append {digits rest : List Char} (all : Literal.Digits digits)
    (nonzero : digits.head? ≠ some '0') (some : digits ≠ [])
    (stops : ∀ c ∈ rest.head?, c.isDigit = false) : wholeDigits (digits ++ rest) = digits := by
  obtain ⟨d, more, rfl⟩ := List.exists_cons_of_ne_nil some
  unfold wholeDigits
  split
  · next same => exact absurd (by simp [(List.cons.inj same).1]) nonzero
  · exact congrArg Prod.fst (Literal.digits_append all stops)

-- A zero is an integer by itself, so of several digits the first is another.
theorem wholeDigits_several {text : List Char} (several : 1 < (wholeDigits text).length) :
    ∃ digits rest, text = digits ++ rest ∧ wholeDigits text = digits ∧ Literal.Digits digits ∧
      digits.head? ≠ some '0' ∧ ∀ c ∈ rest.head?, c.isDigit = false := by
  unfold wholeDigits at several ⊢
  split at several
  · simp at several
  · next other =>
    obtain ⟨all, joined⟩ := Literal.digits_sound text
    refine ⟨_, _, joined, rfl, all, fun zero => ?_, fun c first => ?_⟩
    · obtain ⟨more, start⟩ := List.head?_eq_some_iff.mp zero
      rw [start] at joined
      exact other _ joined
    · have stop := List.head?_dropWhile_not Char.isDigit text
      rwa [show (text.dropWhile Char.isDigit).head? = some c from first] at stop

theorem unsigned_rest (cursor : Cursor) :
    ∃ sign, (sign = [] ∨ sign = ['-']) ∧ cursor.rest = sign ++ (unsigned cursor).rest := by
  unfold unsigned
  split
  · next minus =>
    obtain ⟨rest, joined⟩ := List.head?_eq_some_iff.mp minus
    exact ⟨['-'], .inr rfl, by simp [joined]⟩
  · exact ⟨[], .inl rfl, rfl⟩

theorem unsigned_of_digit {cursor : Cursor} {sign text : List Char}
    (joined : cursor.rest = sign ++ text) (signed : sign = [] ∨ sign = ['-'])
    (digit : ∀ c ∈ text.head?, c.isDigit = true) : (unsigned cursor).rest = text := by
  unfold unsigned
  rcases signed with rfl | rfl
  · rw [if_neg, joined, List.nil_append]
    intro minus
    rw [joined, List.nil_append] at minus
    exact absurd (digit '-' minus) (by decide)
  · rw [if_pos (by simp [joined]), rest_advance, joined]
    rfl

theorem readNumber_long {cursor : Cursor} {count : Nat} (long : LongInteger cursor.rest count) :
    readNumber cursor = .error (.longInteger count) := by
  generalize text : cursor.rest = rest at long
  cases long with
  | @digits sign digits rest signed all nonzero exceeds stops whole =>
    obtain ⟨d, more, rfl⟩ := List.exists_cons_of_length_pos (Nat.zero_lt_of_lt exceeds)
    have past := unsigned_of_digit text signed (by simpa using all d (by simp))
    have integer : ¬ Continues ((unsigned cursor).advance (d :: more).length).rest := by
      simpa [past] using whole
    rw [readNumber_eq, past, wholeDigits_append all nonzero (by simp) stops, if_neg (by simp)]
    exact readTail_long _ exceeds integer

abbrev Scalar (cursor : Cursor) : Except Fault (Json × Cursor) → Prop :=
  Within (fun fault => fault.IsLimit →
    ∃ count, fault = .longInteger count ∧ LongInteger cursor.rest count) cursor.rest

theorem readNumber_scalar (cursor : Cursor) : Scalar cursor (readNumber cursor) := by
  obtain ⟨sign, signed, joined⟩ := unsigned_rest cursor
  rw [readNumber_eq]
  split
  · exact False.elim
  · refine (readTail_within _ _ _).weaken (fun read shorter => ?_) ?_
    · refine Nat.le_trans shorter ?_
      rw [joined]
      simp
      omega
    · rintro fault ⟨rfl, exceeds, integer⟩ -
      have several : 1 < (wholeDigits (unsigned cursor).rest).length :=
        Nat.lt_trans (by decide) exceeds
      obtain ⟨digits, rest, text, found, all, nonzero, stops⟩ := wholeDigits_several several
      rw [found] at exceeds integer ⊢
      rw [joined, text]
      refine ⟨_, rfl, .digits signed all nonzero exceeds stops ?_⟩
      simpa [text] using integer

end Numbers

section Scalars

theorem skip?_le {cursor after : Cursor} {word : String}
    (skipped : cursor.skip? word = some after) : after.rest.length ≤ cursor.rest.length := by
  unfold Cursor.skip? at skipped
  split at skipped
  · cases skipped
    simp
  · cases skipped

theorem readScalar_scalar (cursor : Cursor) : Scalar cursor (readScalar cursor) := by
  unfold readScalar
  split
  · have plain : Plain cursor.rest (readString (cursor.advance 1)) :=
      (readString_plain _).longer (by simp)
    refine Ends.weaken (Within.bind plain fun _ _ => Nat.le_refl _) (fun _ => id) ?_
    exact fun _ malformed limit => absurd limit malformed
  · split
    · next found =>
      obtain ⟨⟨word, value⟩, -, skipped⟩ := List.exists_of_findSome?_eq_some found
      obtain ⟨after, passed, rfl⟩ := Option.map_eq_some_iff.mp skipped
      exact skip?_le passed
    · exact readNumber_scalar cursor

theorem LongInteger.head {text : List Char} {count : Nat} (long : LongInteger text count) :
    ∃ d rest, d.isDigit = true ∧ (text = d :: rest ∨ text = '-' :: d :: rest) := by
  cases long with
  | @digits sign digits rest signed all nonzero exceeds stops whole =>
    obtain ⟨d, more, rfl⟩ := List.exists_cons_of_length_pos (Nat.zero_lt_of_lt exceeds)
    refine ⟨d, more ++ rest, all d (by simp), ?_⟩
    rcases signed with rfl | rfl
    · exact .inl rfl
    · exact .inr rfl

theorem readScalar_long {cursor : Cursor} {count : Nat} (long : LongInteger cursor.rest count) :
    readScalar cursor = .error (.longInteger count) := by
  obtain ⟨d, rest, digit, start⟩ := long.head
  have other (c : Char) (letter : c.isDigit = false) : ¬ c = d := by
    rintro rfl
    exact absurd digit (by simp [letter])
  have word : ∀ entry ∈ words, cursor.skip? entry.1 = none := by
    rcases start with start | start <;> simp [words, Cursor.skip?, start, other]
  unfold readScalar
  split
  · next string =>
    rw [string] at start
    rcases start with start | start
    · exact absurd (List.cons.inj start).1 (other '"' (by decide))
    · exact absurd (List.cons.inj start).1 (by decide)
  · split
    · next found =>
      obtain ⟨⟨text, value⟩, member, skipped⟩ := List.exists_of_findSome?_eq_some found
      simp [word _ member] at skipped
    · exact readNumber_long long

end Scalars

end PocketLisp.Json
