import Mathlib.Computability.RegularExpressions
import PocketLisp.Proofs.Word
import PocketLisp.Text.Integer

set_option autoImplicit false

namespace PocketLisp.Literal

section Grammar

def SomeDigits (text : List Char) : Prop :=
  Digits text ∧ text ≠ []

def IsSign (text : List Char) : Prop :=
  text = [] ∨ text = ['+'] ∨ text = ['-']

inductive IsMantissa : List Char → Prop where
  | whole {whole : List Char} (digits : SomeDigits whole) : IsMantissa whole
  | pointed {whole fraction : List Char} (digits : SomeDigits whole) (places : Digits fraction) :
    IsMantissa (whole ++ '.' :: fraction)
  | fraction {fraction : List Char} (places : SomeDigits fraction) : IsMantissa ('.' :: fraction)

inductive IsExponent : List Char → Prop where
  | absent : IsExponent []
  | marked {mark : Char} {sign digits : List Char} (e : mark = 'e' ∨ mark = 'E')
    (signed : IsSign sign) (places : SomeDigits digits) : IsExponent (mark :: (sign ++ digits))

def IsLiteral (text : List Char) : Prop :=
  ∃ sign mantissa exponent, text = sign ++ mantissa ++ exponent ∧
    IsSign sign ∧ IsMantissa mantissa ∧ IsExponent exponent

variable {text : List Char}

theorem isSign_iff : IsSign text ↔ ∃ negative, Sign negative text := by
  constructor
  · rintro (rfl | rfl | rfl)
    · exact ⟨false, .absent⟩
    · exact ⟨false, .plus⟩
    · exact ⟨true, .minus⟩
  · rintro ⟨negative, signed⟩
    cases signed <;> simp [IsSign]

theorem isMantissa_iff : IsMantissa text ↔ ∃ whole fraction, Mantissa whole fraction text := by
  constructor
  · intro mantissa
    cases mantissa with
    | whole digits => exact ⟨_, _, .integer digits.1 digits.2⟩
    | pointed digits places => exact ⟨_, _, .pointed digits.1 places (.inl digits.2)⟩
    | fraction places =>
      have none : Digits [] := fun _ member => nomatch member
      exact ⟨[], _, .pointed none places.1 (.inr places.2)⟩
  · rintro ⟨whole, fraction, mantissa⟩
    cases mantissa with
    | integer digits nonempty => exact .whole ⟨digits, nonempty⟩
    | pointed digits places nonempty =>
      by_cases none : whole = []
      · subst none
        exact .fraction ⟨places, nonempty.resolve_left fun filled => filled rfl⟩
      · exact .pointed ⟨digits, none⟩ places

theorem isExponent_iff : IsExponent text ↔ ∃ exponent, Exponent exponent text := by
  constructor
  · intro scale
    cases scale with
    | absent => exact ⟨0, .absent⟩
    | marked e signed places =>
      obtain ⟨negative, sign⟩ := isSign_iff.mp signed
      exact ⟨_, .marked e sign places.1 places.2⟩
  · rintro ⟨exponent, scale⟩
    cases scale with
    | absent => exact .absent
    | marked e signed all nonempty =>
      exact .marked e (isSign_iff.mpr ⟨_, signed⟩) ⟨all, nonempty⟩

theorem isLiteral_iff : IsLiteral text ↔ ∃ negative d, Denotes negative d text := by
  constructor
  · rintro ⟨sign, mantissa, exponent, rfl, signed, digits, scale⟩
    obtain ⟨negative, signed⟩ := isSign_iff.mp signed
    obtain ⟨whole, fraction, digits⟩ := isMantissa_iff.mp digits
    obtain ⟨power, scale⟩ := isExponent_iff.mp scale
    rw [List.append_assoc]
    exact ⟨negative, _, .signed signed (.scaled digits scale)⟩
  · rintro ⟨negative, d, literal⟩
    obtain ⟨signed, ⟨digits, scale⟩⟩ := literal
    exact ⟨_, _, _, (List.append_assoc ..).symm, isSign_iff.mpr ⟨_, signed⟩,
      isMantissa_iff.mpr ⟨_, _, digits⟩, isExponent_iff.mpr ⟨_, scale⟩⟩

end Grammar

section Pattern

open RegularExpression

def anyOf : List Char → RegularExpression Char
  | [] => 0
  | c :: rest => char c + anyOf rest

def optional (r : RegularExpression Char) : RegularExpression Char :=
  1 + r

def repeated (r : RegularExpression Char) : RegularExpression Char :=
  r * r.star

def digit : RegularExpression Char :=
  anyOf ['0', '1', '2', '3', '4', '5', '6', '7', '8', '9']

def signPattern : RegularExpression Char :=
  optional (anyOf ['+', '-'])

-- The first alternative takes digits on both sides of a point that may be absent, so one run of
-- digits can be cut in many ways.
def mantissaPattern : RegularExpression Char :=
  repeated digit * optional (char '.') * digit.star + char '.' * repeated digit

def exponentPattern : RegularExpression Char :=
  optional (anyOf ['e', 'E'] * signPattern * repeated digit)

def pattern : RegularExpression Char :=
  signPattern * mantissaPattern * exponentPattern

variable {text : List Char}

theorem mem_char {c : Char} : text ∈ (char c).matches' ↔ text = [c] :=
  Set.mem_singleton_iff

theorem mem_anyOf {cs : List Char} : text ∈ (anyOf cs).matches' ↔ ∃ c ∈ cs, text = [c] := by
  induction cs with
  | nil => simp [anyOf]
  | cons c cs ih =>
    rw [anyOf, matches'_add, Language.mem_add, mem_char, ih]
    simp

theorem mem_optional {r : RegularExpression Char} :
    text ∈ (optional r).matches' ↔ text = [] ∨ text ∈ r.matches' := by
  simp [optional, Language.mem_add]

theorem mem_digit : text ∈ digit.matches' ↔ ∃ c, c.isDigit = true ∧ text = [c] := by
  have decimal : ∀ c ∈ ['0', '1', '2', '3', '4', '5', '6', '7', '8', '9'], c.isDigit = true :=
    List.all_iff_forall_prop.mp (by decide)
  have listed : ∀ c ∈ marks, c.isDigit = true →
      c ∈ ['0', '1', '2', '3', '4', '5', '6', '7', '8', '9'] :=
    List.all_iff_forall_prop.mp (by decide)
  rw [digit, mem_anyOf]
  constructor
  · rintro ⟨c, member, rfl⟩
    exact ⟨c, decimal c member, rfl⟩
  · rintro ⟨c, digit, rfl⟩
    have single : Digits [c] := List.forall_mem_singleton.mpr digit
    exact ⟨c, listed c (single.marks c (by simp)) digit, rfl⟩

theorem mem_star_digit : text ∈ digit.star.matches' ↔ Digits text := by
  rw [matches'_star, Language.mem_kstar]
  constructor
  · rintro ⟨words, rfl, each⟩ c member
    obtain ⟨word, listed, inside⟩ := List.mem_flatten.mp member
    obtain ⟨d, digit, rfl⟩ := mem_digit.mp (each word listed)
    rwa [List.mem_singleton.mp inside]
  · intro all
    refine ⟨text.map fun c => [c], ?_, ?_⟩
    · rw [← List.flatMap_def, List.flatMap_singleton']
    · intro word member
      obtain ⟨c, inside, rfl⟩ := List.mem_map.mp member
      exact mem_digit.mpr ⟨c, all c inside, rfl⟩

theorem mem_repeated_digit : text ∈ (repeated digit).matches' ↔ SomeDigits text := by
  rw [repeated, matches'_mul, Language.mem_mul]
  constructor
  · rintro ⟨first, one, rest, more, rfl⟩
    obtain ⟨c, digit, rfl⟩ := mem_digit.mp one
    exact ⟨List.forall_mem_cons.mpr ⟨digit, mem_star_digit.mp more⟩, List.cons_ne_nil _ _⟩
  · rintro ⟨all, nonempty⟩
    obtain ⟨c, rest, rfl⟩ := List.exists_cons_of_ne_nil nonempty
    obtain ⟨digit, more⟩ := List.forall_mem_cons.mp all
    exact ⟨[c], mem_digit.mpr ⟨c, digit, rfl⟩, rest, mem_star_digit.mpr more, rfl⟩

theorem mem_signPattern : text ∈ signPattern.matches' ↔ IsSign text := by
  simp [signPattern, mem_optional, mem_anyOf, IsSign]

theorem mem_mantissaPattern : text ∈ mantissaPattern.matches' ↔ IsMantissa text := by
  rw [mantissaPattern, matches'_add, Language.mem_add]
  simp only [matches'_mul, Language.mem_mul, mem_optional, mem_char, mem_repeated_digit,
    mem_star_digit]
  constructor
  · rintro (⟨_, ⟨whole, digits, point, between, rfl⟩, fraction, places, rfl⟩ |
      ⟨_, rfl, fraction, places, rfl⟩)
    · rcases between with rfl | rfl
      -- Without a point the two runs of digits are one.
      · rw [List.append_nil]
        refine .whole ⟨List.forall_mem_append.mpr ⟨digits.1, places⟩, ?_⟩
        exact List.append_ne_nil_of_left_ne_nil digits.2 fraction
      · rw [List.append_assoc]
        exact .pointed digits places
    · exact .fraction places
  · intro mantissa
    cases mantissa with
    | whole digits =>
      have none : Digits [] := fun _ member => nomatch member
      exact .inl ⟨_, ⟨_, digits, [], .inl rfl, rfl⟩, [], none, by simp⟩
    | pointed digits places =>
      exact .inl ⟨_, ⟨_, digits, ['.'], .inr rfl, rfl⟩, _, places, by simp⟩
    | fraction places => exact .inr ⟨['.'], rfl, _, places, rfl⟩

theorem mem_exponentPattern : text ∈ exponentPattern.matches' ↔ IsExponent text := by
  rw [exponentPattern, mem_optional]
  simp only [matches'_mul, Language.mem_mul, mem_anyOf, mem_signPattern, mem_repeated_digit]
  constructor
  · rintro (rfl | ⟨_, ⟨_, ⟨mark, listed, rfl⟩, sign, signed, rfl⟩, digits, places, rfl⟩)
    · exact .absent
    · exact .marked (by simpa using listed) signed places
  · intro scale
    cases scale with
    | absent => exact .inl rfl
    | marked e signed places =>
      exact .inr ⟨_, ⟨_, ⟨_, by simpa using e, rfl⟩, _, signed, rfl⟩, _, places, rfl⟩

theorem mem_pattern : text ∈ pattern.matches' ↔ IsLiteral text := by
  rw [pattern]
  simp only [matches'_mul, Language.mem_mul, mem_signPattern, mem_mantissaPattern,
    mem_exponentPattern]
  constructor
  · rintro ⟨_, ⟨sign, signed, mantissa, digits, rfl⟩, exponent, scale, rfl⟩
    exact ⟨sign, mantissa, exponent, rfl, signed, digits, scale⟩
  · rintro ⟨sign, mantissa, exponent, rfl, signed, digits, scale⟩
    exact ⟨_, ⟨sign, signed, mantissa, digits, rfl⟩, exponent, scale, rfl⟩

end Pattern

section Conversion

inductive DigitPart : List Char → Prop where
  | last {c : Char} (known : (Text.digit? c).isSome = true) : DigitPart [c]
  | next {c : Char} {text : List Char} (known : (Text.digit? c).isSome = true)
    (rest : DigitPart text) : DigitPart (c :: text)
  | underscore {c : Char} {text : List Char} (known : (Text.digit? c).isSome = true)
    (rest : DigitPart text) : DigitPart (c :: '_' :: text)

inductive FloatMantissa : List Char → Prop where
  | whole {whole : List Char} (digits : DigitPart whole) : FloatMantissa whole
  | point {whole : List Char} (digits : DigitPart whole) : FloatMantissa (whole ++ ['.'])
  | pointed {whole fraction : List Char} (digits : DigitPart whole) (places : DigitPart fraction) :
    FloatMantissa (whole ++ '.' :: fraction)
  | fraction {fraction : List Char} (places : DigitPart fraction) : FloatMantissa ('.' :: fraction)

inductive FloatExponent : List Char → Prop where
  | absent : FloatExponent []
  | marked {mark : Char} {sign digits : List Char} (e : mark = 'e' ∨ mark = 'E')
    (signed : IsSign sign) (places : DigitPart digits) : FloatExponent (mark :: (sign ++ digits))

inductive FloatMagnitude : List Char → Prop where
  | number {mantissa exponent : List Char} (digits : FloatMantissa mantissa)
    (scale : FloatExponent exponent) : FloatMagnitude (mantissa ++ exponent)
  | word {text : List Char}
    (named : String.ofList (text.map Char.toLower) ∈ ["inf", "infinity", "nan"]) :
    FloatMagnitude text

/-- What conversion of text to a floating-point number accepts. The reader asks for less: no blanks
around the number, no words, no underscores and no digits of other scripts. -/
def Convertible (text : List Char) : Prop :=
  ∃ before sign magnitude after, text = before ++ (sign ++ magnitude) ++ after ∧
    (∀ c ∈ before ++ after, Text.isIntegerBlank c = true) ∧ IsSign sign ∧ FloatMagnitude magnitude

variable {text : List Char}

theorem digit?_isSome {c : Char} (digit : c.isDigit = true) : (Text.digit? c).isSome = true := by
  simp only [Char.isDigit, Bool.and_eq_true, decide_eq_true_eq] at digit
  have inside : Text.within c (0x30, 0x39) = true := by
    simp only [Text.within, Bool.and_eq_true, decide_eq_true_eq]
    exact digit
  rw [Text.digit?, Option.isSome_map, List.find?_isSome]
  exact ⟨(0x30, 0x39), by decide, inside⟩

theorem SomeDigits.digitPart (digits : SomeDigits text) : DigitPart text := by
  obtain ⟨all, nonempty⟩ := digits
  induction text with
  | nil => exact absurd rfl nonempty
  | cons c rest ih =>
    obtain ⟨digit, more⟩ := List.forall_mem_cons.mp all
    by_cases none : rest = []
    · subst none
      exact .last (digit?_isSome digit)
    · exact .next (digit?_isSome digit) (ih more none)

theorem IsMantissa.float (mantissa : IsMantissa text) : FloatMantissa text := by
  cases mantissa with
  | whole digits => exact .whole digits.digitPart
  | fraction places => exact .fraction places.digitPart
  | @pointed whole fraction digits places =>
    by_cases none : fraction = []
    · subst none
      exact .point digits.digitPart
    · have filled : SomeDigits fraction := ⟨places, none⟩
      exact .pointed digits.digitPart filled.digitPart

theorem IsExponent.float (scale : IsExponent text) : FloatExponent text := by
  cases scale with
  | absent => exact .absent
  | marked e signed places => exact .marked e signed places.digitPart

theorem IsLiteral.convertible (accepted : IsLiteral text) : Convertible text := by
  obtain ⟨sign, mantissa, exponent, rfl, signed, digits, scale⟩ := accepted
  exact ⟨[], sign, mantissa ++ exponent, [], by simp, by simp, signed,
    .number digits.float scale.float⟩

end Conversion

section Characters

variable {text : List Char}

theorem IsLiteral.marks (accepted : IsLiteral text) : ∀ c ∈ text, c ∈ marks := by
  obtain ⟨negative, d, literal⟩ := isLiteral_iff.mp accepted
  exact literal.marks

theorem IsMantissa.digit (mantissa : IsMantissa text) : ∃ c ∈ text, c.isDigit = true := by
  have first : ∀ {digits : List Char}, SomeDigits digits → ∃ c ∈ digits, c.isDigit = true := by
    rintro digits ⟨all, nonempty⟩
    obtain ⟨c, member⟩ := List.exists_mem_of_ne_nil digits nonempty
    exact ⟨c, member, all c member⟩
  cases mantissa with
  | whole digits => exact first digits
  | pointed digits places =>
    obtain ⟨c, member, digit⟩ := first digits
    exact ⟨c, by simp [member], digit⟩
  | fraction places =>
    obtain ⟨c, member, digit⟩ := first places
    exact ⟨c, by simp [member], digit⟩

theorem IsLiteral.digit (accepted : IsLiteral text) : ∃ c ∈ text, c.isDigit = true := by
  obtain ⟨sign, mantissa, exponent, rfl, -, digits, -⟩ := accepted
  obtain ⟨c, member, digit⟩ := digits.digit
  exact ⟨c, by simp [member], digit⟩

end Characters

end PocketLisp.Literal

namespace PocketLisp.Reader

open Literal

theorem readWord_of_denotes {token : String} {negative : Bool} {d : Decimal}
    (literal : Denotes negative d token.toList) :
    readWord token = .number (d.toNumber negative) := by
  rw [readWord, number?, parse?_eq_some.mpr literal]
  rfl

theorem readWord_of_not_literal {token : String} (other : ¬ IsLiteral token.toList) :
    readWord token = .symbol (.ofText token) := by
  have none : number? token = none := by
    rw [number?_eq_none]
    exact fun negative d literal => other (isLiteral_iff.mpr ⟨negative, d, literal⟩)
  rw [readWord, none]

/-- A word is a number exactly if it is a sign, a mantissa and an exponent with nothing around them,
which is also what the regular expression matches as a whole. Such a word has a numerical value,
which is the number that is read. Any other word is the symbol of its lower case, and so are words
with a character that no number has, or without a digit. -/
theorem readWord_number_iff (token : String) :
    ((∃ x, readWord token = .number x) ↔ IsLiteral token.toList) ∧
    (IsLiteral token.toList ↔ token.toList ∈ pattern.matches') ∧
    (IsLiteral token.toList → Convertible token.toList ∧ (∀ c ∈ token.toList, c ∈ marks) ∧
      ∃ c ∈ token.toList, c.isDigit = true) ∧
    (∀ negative d, Denotes negative d token.toList →
      readWord token = .number (d.toNumber negative)) ∧
    (¬ IsLiteral token.toList → readWord token = .symbol ⟨Text.lower token⟩) := by
  refine ⟨⟨?_, ?_⟩, mem_pattern.symm, ?_, fun _ _ => readWord_of_denotes, readWord_of_not_literal⟩
  · rintro ⟨x, number⟩
    by_contra other
    rw [readWord_of_not_literal other] at number
    cases number
  · intro accepted
    obtain ⟨negative, d, literal⟩ := isLiteral_iff.mp accepted
    exact ⟨_, readWord_of_denotes literal⟩
  · exact fun accepted => ⟨accepted.convertible, accepted.marks, accepted.digit⟩

-- Digits may be missing on one side of the point but not on both, and never after the `e`.
example : (readWord "1.").isNumber ∧ (readWord ".5e-3").isNumber ∧
    readWord "+.e5" = .symbol ⟨"+.e5"⟩ ∧ readWord "1E" = .symbol ⟨"1e"⟩ ∧
    readWord "1.2.3" = .symbol ⟨"1.2.3"⟩ := by
  refine ⟨?_, ?_, ?_, ?_, ?_⟩ <;> rfl

end PocketLisp.Reader
