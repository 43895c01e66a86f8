import Mathlib.Data.Bool.AllAny
import PocketLisp.Reader
import PocketLisp.Proofs.Literal

set_option autoImplicit false

namespace PocketLisp

namespace Token

def Solid (c : Char) : Prop :=
  delimiter? c = none ∧ Text.isBlank c = false

instance (c : Char) : Decidable (Solid c) :=
  inferInstanceAs (Decidable (_ ∧ _))

structure Word (text : List Char) : Prop where
  nonempty : text ≠ []
  solid : ∀ c ∈ text, Solid c

theorem Word.of_all {text : List Char} (nonempty : text ≠ [])
    (solid : text.all (fun c => decide (Solid c)) = true) : Word text :=
  ⟨nonempty, List.all_iff_forall_prop.mp solid⟩

def Breaks (rest : List Char) : Prop :=
  ∀ c ∈ rest.head?, ¬ Solid c

section Scanning

variable {text rest : List Char}

theorem scanFrom_solid (solid : ∀ c ∈ text, Solid c) (read rest : List Char) :
    scanFrom read (text ++ rest) = scanFrom (text.reverse ++ read) rest := by
  induction text generalizing read with
  | nil => rfl
  | cons c text ih =>
    obtain ⟨plain, dark⟩ := solid c List.mem_cons_self
    have next := ih (fun d member => solid d (List.mem_cons_of_mem c member)) (c :: read)
    simpa [scanFrom, plain, dark] using next

theorem scanFrom_break (breaks : Breaks rest) {read : List Char} (pending : read ≠ []) :
    scanFrom read rest = .word (String.ofList read.reverse) :: scanFrom [] rest := by
  obtain ⟨last, before, rfl⟩ := List.exists_cons_of_ne_nil pending
  cases rest with
  | nil => rfl
  | cons c rest =>
    have broken := breaks c rfl
    cases kind : delimiter? c with
    | some token => simp [scanFrom, kind, Token.pending]
    | none =>
      have blank : Text.isBlank c = true := by simpa [Solid, kind] using broken
      simp [scanFrom, kind, blank, Token.pending]

theorem scanFrom_word (word : Word text) (breaks : Breaks rest) :
    scanFrom [] (text ++ rest) = .word (String.ofList text) :: scanFrom [] rest := by
  rw [scanFrom_solid word.solid, List.append_nil,
    scanFrom_break breaks (List.reverse_ne_nil_iff.mpr word.nonempty), List.reverse_reverse]

end Scanning

section Scanned

variable {read : List Char} {text : String}

theorem word_of_mem_pending (solid : ∀ c ∈ read, Solid c) (member : .word text ∈ pending read) :
    Word text.toList := by
  cases read with
  | nil => cases member
  | cons c read =>
    obtain rfl : text = String.ofList (c :: read).reverse := by simpa [pending] using member
    rw [String.toList_ofList]
    exact ⟨by simp, fun d member => solid d (List.mem_reverse.mp member)⟩

theorem delimiter?_eq_some {c : Char} {token : Token} (delimiter : delimiter? c = some token) :
    c = '(' ∧ token = .lparen ∨ c = ')' ∧ token = .rparen ∨ c = '\'' ∧ token = .quote := by
  unfold delimiter? at delimiter
  split at delimiter
  · next left => exact .inl ⟨left, (Option.some.inj delimiter).symm⟩
  · split at delimiter
    · next right => exact .inr (.inl ⟨right, (Option.some.inj delimiter).symm⟩)
    · split at delimiter
      · next mark => exact .inr (.inr ⟨mark, (Option.some.inj delimiter).symm⟩)
      · cases delimiter

theorem delimiter?_ne_word (c : Char) (text : String) : delimiter? c ≠ some (.word text) := by
  intro delimiter
  rcases delimiter?_eq_some delimiter with ⟨-, same⟩ | ⟨-, same⟩ | ⟨-, same⟩ <;> cases same

theorem delimiter?_blank {c : Char} (blank : Text.isBlank c = true) : delimiter? c = none := by
  cases kind : delimiter? c with
  | none => rfl
  | some token =>
    rcases delimiter?_eq_some kind with ⟨rfl, -⟩ | ⟨rfl, -⟩ | ⟨rfl, -⟩ <;>
      exact absurd blank (by decide)

theorem word_of_mem_scanFrom (solid : ∀ c ∈ read, Solid c) (source : List Char)
    (member : .word text ∈ scanFrom read source) : Word text.toList := by
  fun_induction scanFrom read source with
  | case1 read => exact word_of_mem_pending solid member
  | case2 read c rest token delimiter ih =>
    rcases List.mem_append.mp member with before | after
    · exact word_of_mem_pending solid before
    · rcases List.mem_cons.mp after with rfl | later
      · exact absurd delimiter (delimiter?_ne_word c text)
      · exact ih (by simp) later
  | case3 read c rest plain blank ih =>
    rcases List.mem_append.mp member with before | later
    · exact word_of_mem_pending solid before
    · exact ih (by simp) later
  | case4 read c rest plain dark ih =>
    have next : Solid c := ⟨plain, Bool.eq_false_iff.mpr dark⟩
    exact ih (List.forall_mem_cons.mpr ⟨next, solid⟩) member

end Scanned

end Token

@[elab_as_elim]
theorem Text.of_ascii {motive : Char → Prop} {c : Char} (ascii : c.toNat < 128)
    (table : ∀ n : Fin 128, motive (Char.ofNat n)) : motive c := by
  have found := table ⟨c.toNat, ascii⟩
  rwa [Char.ofNat_toNat] at found

namespace Literal

def marks : List Char :=
  ['0', '1', '2', '3', '4', '5', '6', '7', '8', '9', '+', '-', '.', 'e', 'E']

-- These are checks along the list; left to itself `decide` would go through all characters.
theorem marks_ascii : ∀ c ∈ marks, c.toNat < 128 :=
  List.all_iff_forall_prop.mp (by decide)

theorem marks_solid : ∀ c ∈ marks, Token.Solid c :=
  List.all_iff_forall_prop.mp (by decide)

theorem Digits.marks {text : List Char} (all : Digits text) : ∀ c ∈ text, c ∈ marks := by
  intro c member
  have digit := all c member
  have ascii : c.toNat < 128 := by
    simp only [Char.isDigit, Bool.and_eq_true, decide_eq_true_eq] at digit
    have high : c.toNat ≤ 57 := digit.2
    omega
  have found : c.isDigit = true → c ∈ Literal.marks := Text.of_ascii ascii (by decide)
  exact found digit

theorem Digits.toLower {text : List Char} (all : Digits text) : text.map Char.toLower = text := by
  have fixed : ∀ c ∈ Literal.marks, c.isDigit = true → c.toLower = c :=
    List.all_iff_forall_prop.mp (by decide)
  have same : ∀ c ∈ text, c.toLower = id c := fun c member =>
    fixed c (all.marks c member) (all c member)
  rw [List.map_congr_left same, List.map_id]

theorem Sign.marks {negative : Bool} {text : List Char} (signed : Sign negative text) :
    ∀ c ∈ text, c ∈ marks := by
  cases signed <;> simp [Literal.marks]

theorem Sign.toLower {negative : Bool} {text : List Char} (signed : Sign negative text) :
    text.map Char.toLower = text := by
  cases signed <;> rfl

theorem Mantissa.marks {whole fraction text : List Char} (mantissa : Mantissa whole fraction text) :
    ∀ c ∈ text, c ∈ marks := by
  cases mantissa with
  | integer digits => exact digits.marks
  | pointed digits places =>
    simp only [List.mem_append, List.mem_cons]
    rintro c (before | rfl | after)
    · exact digits.marks c before
    · decide
    · exact places.marks c after

theorem Mantissa.toLower {whole fraction text : List Char}
    (mantissa : Mantissa whole fraction text) : text.map Char.toLower = text := by
  cases mantissa with
  | integer digits => exact digits.toLower
  | pointed digits places =>
    rw [List.map_append, List.map_cons, digits.toLower, places.toLower]
    rfl

theorem Exponent.marks {exponent : Int} {text : List Char} (scale : Exponent exponent text) :
    ∀ c ∈ text, c ∈ marks := by
  cases scale with
  | absent => simp
  | marked e signed all =>
    simp only [List.mem_append, List.mem_cons]
    rintro c (rfl | before | after)
    · rcases e with rfl | rfl <;> decide
    · exact signed.marks c before
    · exact all.marks c after

-- The mark of an exponent may be of either case, and nothing else in a literal has a case.
theorem Exponent.toLower {exponent : Int} {text : List Char} (scale : Exponent exponent text) :
    Exponent exponent (text.map Char.toLower) := by
  cases scale with
  | absent => exact .absent
  | marked e signed all nonempty =>
    rw [List.map_cons, List.map_append, signed.toLower, all.toLower]
    refine .marked (.inl ?_) signed all nonempty
    rcases e with rfl | rfl <;> rfl

section Whole

variable {negative : Bool} {d : Decimal} {text : List Char}

theorem Denotes.marks (literal : Denotes negative d text) : ∀ c ∈ text, c ∈ marks := by
  obtain ⟨signed, ⟨mantissa, scale⟩⟩ := literal
  simp only [List.mem_append]
  rintro c (sign | digits | exponent)
  · exact signed.marks c sign
  · exact mantissa.marks c digits
  · exact scale.marks c exponent

theorem Denotes.toLower (literal : Denotes negative d text) :
    Denotes negative d (text.map Char.toLower) := by
  obtain ⟨signed, ⟨mantissa, scale⟩⟩ := literal
  rw [List.map_append, List.map_append, signed.toLower, mantissa.toLower]
  exact .signed signed (.scaled mantissa scale.toLower)

theorem Denotes.word (literal : Denotes negative d text) : Token.Word text where
  solid c member := marks_solid c (literal.marks c member)
  nonempty := by
    rintro rfl
    have read := parse?_eq_some.mpr literal
    cases read

theorem number?_eq_none {source : String} :
    number? source = none ↔ ∀ negative d, ¬ Denotes negative d source.toList := by
  rw [number?, Option.map_eq_none_iff, Option.eq_none_iff_forall_ne_some]
  constructor
  · intro none negative d literal
    exact none _ (parse?_eq_some.mpr literal)
  · rintro none ⟨negative, d⟩ read
    exact none negative d (parse?_eq_some.mp read)

end Whole

end Literal

namespace Text

theorem lowerFrom_ascii {text : List Char} (ascii : ∀ c ∈ text, c.toNat < 128)
    (afterCased : Bool) : lowerFrom afterCased text = text.map Char.toLower := by
  induction text generalizing afterCased with
  | nil => rfl
  | cons c text ih =>
    have low := ascii c List.mem_cons_self
    have letter : c ≠ 'Σ' := by
      rintro rfl
      exact absurd low (by decide)
    have tail := ih fun d member => ascii d (List.mem_cons_of_mem c member)
    simp [lowerFrom, letter, lowerChar, low, tail]

theorem lowerChar_blank {c : Char} (blank : isBlank c = true) : lowerChar c = [c] ∧ c ≠ 'Σ' := by
  have table : ∀ run ∈ blankRanges, ∀ n ∈ List.range' run.1 (run.2 + 1 - run.1),
      lowerChar (Char.ofNat n) = [Char.ofNat n] ∧ Char.ofNat n ≠ 'Σ' := by
    decide +kernel
  obtain ⟨run, listed, inside⟩ := List.any_eq_true.mp blank
  simp only [within, Bool.and_eq_true, decide_eq_true_eq] at inside
  have found := table run listed c.toNat (List.mem_range'_1.mpr (by omega))
  rwa [Char.ofNat_toNat] at found

theorem lowerChar_break {c : Char} (breaks : ¬ Token.Solid c) : lowerChar c = [c] ∧ c ≠ 'Σ' := by
  by_cases blank : isBlank c = true
  · exact lowerChar_blank blank
  · cases kind : Token.delimiter? c with
    | none => exact absurd ⟨kind, by simpa using blank⟩ breaks
    | some token =>
      rcases Token.delimiter?_eq_some kind with ⟨rfl, -⟩ | ⟨rfl, -⟩ | ⟨rfl, -⟩ <;> decide

theorem mem_lowerFrom_of_break {c : Char} (breaks : ¬ Token.Solid c) {text : List Char}
    (member : c ∈ text) (afterCased : Bool) : c ∈ lowerFrom afterCased text := by
  obtain ⟨same, letter⟩ := lowerChar_break breaks
  induction text generalizing afterCased with
  | nil => cases member
  | cons d text ih =>
    rw [lowerFrom, List.mem_append]
    rcases List.mem_cons.mp member with rfl | later
    · left
      rw [if_neg letter, same]
      exact List.mem_singleton_self c
    · right
      exact ih later _

def breakRanges : List (Nat × Nat) :=
  (0x27, 0x29) :: blankRanges

theorem solid_of_outside {c : Char}
    (outside : ∀ range ∈ breakRanges, c.toNat < range.1 ∨ range.2 < c.toNat) : Token.Solid c := by
  obtain ⟨marks, blanks⟩ := List.forall_mem_cons.mp outside
  constructor
  · have plain : ∀ d : Char, 0x27 ≤ d.toNat → d.toNat ≤ 0x29 → c ≠ d := by
      rintro d low high rfl
      omega
    simp [Token.delimiter?, plain]
  · rw [isBlank, inRanges, List.any_eq_false]
    intro range listed
    have apart := blanks range listed
    simp only [within, Bool.and_eq_true, decide_eq_true_eq]
    omega

theorem toNat_ofNat (n : Nat) : (Char.ofNat n).toNat = n ∨ (Char.ofNat n).toNat = 0 := by
  by_cases valid : n.isValidChar
  · exact .inl (congrArg Char.toNat (dif_pos valid))
  · exact .inr (congrArg Char.toNat (dif_neg valid))

-- No run of letters in lower case comes near a break.
theorem lowerRuns_apart : ∀ run ∈ lowerRuns, ∀ range ∈ breakRanges,
    run.image + (run.last - run.first) < range.1 ∨ range.2 < run.image := by
  decide +kernel

theorem mapRuns_solid {c : Char} (solid : Token.Solid c) :
    Token.Solid (mapRuns lowerRuns c) := by
  unfold mapRuns
  split
  · next run found =>
    have apart := lowerRuns_apart run (List.mem_of_find?_eq_some found)
    have covered := List.find?_some found
    simp only [CaseRun.covers, within, Bool.and_eq_true, decide_eq_true_eq] at covered
    have low : ∀ range ∈ breakRanges, 0 < range.1 := by decide
    apply solid_of_outside
    intro range listed
    have away := apart range listed
    have positive := low range listed
    rcases toNat_ofNat (run.image + (c.toNat - run.first)) with code | code <;> omega
  · exact solid

theorem lowerChar_solid {c : Char} (solid : Token.Solid c) : ∀ d ∈ lowerChar c, Token.Solid d := by
  unfold lowerChar
  split
  · next ascii =>
    have lowered : Token.Solid c → Token.Solid c.toLower := of_ascii ascii (by decide +kernel)
    simpa using lowered solid
  · split
    · exact List.all_iff_forall_prop.mp (by decide)
    · simpa using mapRuns_solid solid

theorem lowerFrom_solid {text : List Char} (solid : ∀ c ∈ text, Token.Solid c)
    (afterCased : Bool) : ∀ d ∈ lowerFrom afterCased text, Token.Solid d := by
  induction text generalizing afterCased with
  | nil => simp [lowerFrom]
  | cons c text ih =>
    intro d member
    rw [lowerFrom, List.mem_append] at member
    rcases member with first | later
    · split at first
      · rw [List.mem_singleton.mp first, lowerSigma]
        split <;> decide
      · exact lowerChar_solid (solid c List.mem_cons_self) d first
    · exact ih (fun e member => solid e (List.mem_cons_of_mem c member)) _ d later

theorem lowerFrom_ne_nil {text : List Char} (some : text ≠ []) (afterCased : Bool) :
    lowerFrom afterCased text ≠ [] := by
  obtain ⟨c, text, rfl⟩ := List.exists_cons_of_ne_nil some
  have first : lowerChar c ≠ [] := by
    unfold lowerChar
    split
    · simp
    · split <;> simp
  rw [lowerFrom]
  split <;> simp [first]

theorem word_lower {text : String} :
    Token.Word (lower text).toList ↔ Token.Word text.toList := by
  rw [lower, String.toList_ofList]
  constructor
  · intro word
    constructor
    · rintro none
      exact word.nonempty (by rw [none]; rfl)
    · intro c member
      by_contra breaks
      -- Lower case would have kept it.
      exact breaks (word.solid c (mem_lowerFrom_of_break breaks member false))
  · intro word
    exact ⟨lowerFrom_ne_nil word.nonempty false, lowerFrom_solid word.solid false⟩

end Text

theorem Symbol.print_word {s : Symbol} (word : Token.Word s.name.toList) :
    Token.Word s.print.toList := by
  simp only [Symbol.print]
  split
  · next undone =>
    rw [← Text.word_lower, undone]
    exact word
  · exact word

/-- A symbol that source text can name: a word that is kept in lower case and is no literal. -/
structure Symbol.Readable (s : Symbol) : Prop where
  word : Token.Word s.name.toList
  lower : Text.lower s.name = s.name
  symbolic : ∀ negative d, ¬ Literal.Denotes negative d s.name.toList

namespace Symbol.Readable

variable {s : Symbol}

theorem ofText_print (readable : s.Readable) : Symbol.ofText s.print = s := by
  simp only [Symbol.print, Symbol.ofText]
  split
  · next undone => rw [undone]
  · rw [readable.lower]

theorem print_symbolic (readable : s.Readable) : Literal.number? s.print = none := by
  have undone : Text.lower s.print = s.name := congrArg Symbol.name readable.ofText_print
  rw [Literal.number?_eq_none]
  intro negative d literal
  have ascii : ∀ c ∈ s.print.toList, c.toNat < 128 := fun c member =>
    Literal.marks_ascii c (literal.marks c member)
  -- In lower case a literal is a literal still, and that is the name.
  have lowered := literal.toLower
  rw [← Text.lowerFrom_ascii ascii false] at lowered
  apply readable.symbolic negative d
  rwa [← undone, Text.lower, String.toList_ofList]

theorem readWord_print (readable : s.Readable) : Reader.readWord s.print = .symbol s := by
  rw [Reader.readWord, readable.print_symbolic]
  exact congrArg Value.symbol readable.ofText_print

end Symbol.Readable

end PocketLisp
