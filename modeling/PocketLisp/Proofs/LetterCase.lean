import Mathlib.Data.List.Forall2
import PocketLisp.Session
import PocketLisp.Proofs.Word

set_option autoImplicit false

namespace PocketLisp

namespace Literal

def Steady (c : Char) : Prop :=
  c.isDigit = true ∨ c = '+' ∨ c = '-' ∨ c = '.'

instance (c : Char) : Decidable (Steady c) :=
  inferInstanceAs (Decidable (_ ∨ _))

section Lowering

variable {text : List Char} (ascii : ∀ c ∈ text, c.toNat < 128)

theorem toLower_of_steady {c : Char} (ascii : c.toNat < 128) :
    Steady c.toLower → c.toLower = c :=
  Text.of_ascii ascii (by decide +kernel)

theorem mark_of_toLower {c : Char} (ascii : c.toNat < 128) :
    c.toLower = 'e' ∨ c.toLower = 'E' → c = 'e' ∨ c = 'E' :=
  Text.of_ascii ascii (by decide +kernel)

theorem map_toLower_of_steady (ascii : ∀ c ∈ text, c.toNat < 128)
    (steady : ∀ c ∈ text.map Char.toLower, Steady c) : text.map Char.toLower = text := by
  have same : ∀ c ∈ text, c.toLower = id c := fun c member =>
    toLower_of_steady (ascii c member) (steady _ (List.mem_map_of_mem member))
  rw [List.map_congr_left same, List.map_id]

theorem Digits.steady {digits : List Char} (all : Digits digits) : ∀ c ∈ digits, Steady c :=
  fun c member => .inl (all c member)

theorem Sign.steady {negative : Bool} {mark : List Char} (signed : Sign negative mark) :
    ∀ c ∈ mark, Steady c := by
  cases signed <;> simp [Steady]

theorem Mantissa.steady {whole fraction mantissa : List Char}
    (digits : Mantissa whole fraction mantissa) : ∀ c ∈ mantissa, Steady c := by
  cases digits with
  | integer digits => exact digits.steady
  | pointed digits places =>
    simp only [List.mem_append, List.mem_cons]
    rintro c (before | rfl | after)
    · exact digits.steady c before
    · exact .inr (.inr (.inr rfl))
    · exact places.steady c after

include ascii

theorem exponent_of_toLower {exponent : Int} (scale : Exponent exponent (text.map Char.toLower)) :
    Exponent exponent text := by
  generalize same : text.map Char.toLower = lowered at scale
  cases scale with
  | absent =>
    rw [List.map_eq_nil_iff.mp same]
    exact .absent
  | @marked mark negative sign digits e signed all nonempty =>
    obtain ⟨c, rest, rfl, rfl, after⟩ := List.map_eq_cons_iff.mp same
    obtain ⟨first, others⟩ := List.forall_mem_cons.mp ascii
    have steady : ∀ d ∈ rest.map Char.toLower, Steady d := by
      rw [after]
      exact List.forall_mem_append.mpr ⟨signed.steady, all.steady⟩
    rw [← map_toLower_of_steady others steady, after]
    exact .marked (mark_of_toLower first e) signed all nonempty

theorem denotes_of_toLower {negative : Bool} {d : Decimal}
    (literal : Denotes negative d (text.map Char.toLower)) : Denotes negative d text := by
  generalize same : text.map Char.toLower = lowered at literal
  obtain ⟨signed, ⟨digits, scale⟩⟩ := literal
  obtain ⟨sign, unsigned, rfl, front, after⟩ := List.map_eq_append_iff.mp same
  obtain ⟨mantissa, tail, rfl, middle, back⟩ := List.map_eq_append_iff.mp after
  simp only [List.forall_mem_append] at ascii
  obtain ⟨first, second, third⟩ := ascii
  subst front middle back
  rw [map_toLower_of_steady first signed.steady] at signed
  rw [map_toLower_of_steady second digits.steady] at digits
  exact .signed signed (.scaled digits (exponent_of_toLower third scale))

theorem parse?_toLower : parse? (text.map Char.toLower) = parse? text := by
  apply Option.ext
  rintro ⟨negative, d⟩
  rw [parse?_eq_some, parse?_eq_some]
  exact ⟨denotes_of_toLower ascii, Denotes.toLower⟩

end Lowering

end Literal

namespace Text

def SameLetter (c d : Char) : Prop :=
  d = c ∨ d = c.toLower ∨ d = c.toUpper

instance (c d : Char) : Decidable (SameLetter c d) :=
  inferInstanceAs (Decidable (_ ∨ _))

/-- Texts of one length that differ only in the case of letters. -/
def Recased (a b : String) : Prop :=
  List.Forall₂ SameLetter a.toList b.toList

structure Folds (c d : Char) : Prop where
  ascii : c.toNat < 128 ∧ d.toNat < 128
  lower : c.toLower = d.toLower

theorem SameLetter.folds {c d : Char} (same : SameLetter c d) (ascii : c.toNat < 128) :
    Folds c d := by
  have variants : (c.toLower.toNat < 128 ∧ c.toLower = c.toLower.toLower) ∧
      c.toUpper.toNat < 128 ∧ c.toLower = c.toUpper.toLower :=
    of_ascii ascii (by decide +kernel)
  rcases same with rfl | rfl | rfl
  · exact ⟨⟨ascii, ascii⟩, rfl⟩
  · exact ⟨⟨ascii, variants.1.1⟩, variants.1.2⟩
  · exact ⟨⟨ascii, variants.2.1⟩, variants.2.2⟩

-- Letters neither break words nor are they blank, in either case.
theorem toLower_breaks {c : Char} (ascii : c.toNat < 128) :
    Token.delimiter? c.toLower = Token.delimiter? c ∧ isBlank c.toLower = isBlank c :=
  of_ascii ascii (by decide +kernel)

namespace Folds

variable {c d : Char}

theorem delimiter? (folds : Folds c d) : Token.delimiter? c = Token.delimiter? d := by
  rw [← (toLower_breaks folds.ascii.1).1, folds.lower, (toLower_breaks folds.ascii.2).1]

theorem isBlank (folds : Folds c d) : Text.isBlank c = Text.isBlank d := by
  rw [← (toLower_breaks folds.ascii.1).2, folds.lower, (toLower_breaks folds.ascii.2).2]

variable {a b : List Char}

theorem ascii_all (folds : List.Forall₂ Folds a b) :
    (∀ c ∈ a, c.toNat < 128) ∧ ∀ d ∈ b, d.toNat < 128 := by
  induction folds with
  | nil => simp
  | cons first _ ih =>
    exact ⟨List.forall_mem_cons.mpr ⟨first.ascii.1, ih.1⟩,
      List.forall_mem_cons.mpr ⟨first.ascii.2, ih.2⟩⟩

theorem map_toLower (folds : List.Forall₂ Folds a b) :
    a.map Char.toLower = b.map Char.toLower := by
  induction folds with
  | nil => rfl
  | cons first _ ih => rw [List.map_cons, List.map_cons, first.lower, ih]

end Folds

end Text

namespace Reader

open Text

theorem readWord_folds {a b : String} (folds : List.Forall₂ Folds a.toList b.toList) :
    readWord a = readWord b := by
  obtain ⟨left, right⟩ := Folds.ascii_all folds
  have same := Folds.map_toLower folds
  have number : Literal.number? a = Literal.number? b := by
    rw [Literal.number?, Literal.number?, ← Literal.parse?_toLower left, same,
      Literal.parse?_toLower right]
  have lower : Text.lower a = Text.lower b := by
    rw [Text.lower, Text.lower, lowerFrom_ascii left, lowerFrom_ascii right, same]
  rw [readWord, readWord, number, Symbol.ofText, Symbol.ofText, lower]

inductive Alike : Token → Token → Prop
  | refl (token : Token) : Alike token token
  | word {a b : String} (same : readWord a = readWord b) : Alike (.word a) (.word b)

section Scanning

variable {read read' : List Char} (before : List.Forall₂ Folds read read')

include before

theorem pending_alike : List.Forall₂ Alike (Token.pending read) (Token.pending read') := by
  cases before with
  | nil => exact .nil
  | cons first others =>
    have reversed := List.rel_reverse (.cons first others)
    refine .cons (.word (readWord_folds ?_)) .nil
    rwa [String.toList_ofList, String.toList_ofList]

theorem scanFrom_alike {text text' : List Char} (after : List.Forall₂ Folds text text') :
    List.Forall₂ Alike (Token.scanFrom read text) (Token.scanFrom read' text') := by
  induction after generalizing read read' with
  | nil => exact pending_alike before
  | @cons c d text text' first _ ih =>
    rw [Token.scanFrom, Token.scanFrom, first.delimiter?, first.isBlank]
    cases Token.delimiter? d with
    | some token => exact List.rel_append (pending_alike before) (.cons (.refl token) (ih .nil))
    | none =>
      dsimp only
      split
      · exact List.rel_append (pending_alike before) (ih .nil)
      · exact ih (.cons first before)

end Scanning

inductive Related {α : Type} (related : α → α → Prop) : Except Fault α → Except Fault α → Prop
  | ok {a b : α} (same : related a b) : Related related (.ok a) (.ok b)
  | error (fault : Fault) : Related related (.error fault) (.error fault)

theorem Related.bind {α β : Type} {first : α → α → Prop} {second : β → β → Prop}
    {a b : Except Fault α} {f g : α → Except Fault β} (start : Related first a b)
    (rest : ∀ x y, first x y → Related second (f x) (g y)) :
    Related second (a >>= f) (b >>= g) := by
  cases start with
  | ok same => exact rest _ _ same
  | error fault => exact .error fault

theorem Related.eq {α : Type} {a b : Except Fault α} (related : Related (fun x y => x = y) a b) :
    a = b := by
  cases related with
  | ok same => rw [same]
  | error fault => rfl

def SameRead {α : Type} (x y : α × List Token) : Prop :=
  x.1 = y.1 ∧ List.Forall₂ Alike x.2 y.2

section Reading

variable {f : List Token → Except Fault (Value × List Token)}
  (reads : ∀ {tokens others}, List.Forall₂ Alike tokens others →
    Related SameRead (f tokens) (f others))

include reads

theorem readItems_alike {bound bound' : List Token} (long : List.Forall₂ Alike bound bound')
    {tokens others : List Token} (alike : List.Forall₂ Alike tokens others) :
    Related SameRead (readItems f bound tokens) (readItems f bound' others) := by
  induction long generalizing tokens others with
  | nil => exact .error _
  | @cons b b' bound bound' _ _ ih =>
    -- Where a further item is read, whatever it starts with.
    have more : Related SameRead
        (f tokens >>= fun item => readItems f bound item.2 >>= fun items =>
          pure (item.1 :: items.1, items.2))
        (f others >>= fun item => readItems f bound' item.2 >>= fun items =>
          pure (item.1 :: items.1, items.2)) := by
      refine .bind (reads alike) fun x y same => ?_
      refine .bind (ih same.2) fun xs ys items => ?_
      exact .ok ⟨by rw [same.1, items.1], items.2⟩
    cases alike with
    | nil => exact .error _
    | @cons token other rest rest' first later =>
      cases first with
      | refl =>
        cases token with
        | rparen => exact .ok ⟨rfl, later⟩
        | _ => exact more
      | word => exact more

theorem readQuoted_alike {tokens others : List Token} (alike : List.Forall₂ Alike tokens others) :
    Related SameRead (readQuoted f tokens) (readQuoted f others) := by
  have more : Related SameRead
      (f tokens >>= fun read => pure (Value.list [.symbol ⟨"quote"⟩, read.1], read.2))
      (f others >>= fun read => pure (Value.list [.symbol ⟨"quote"⟩, read.1], read.2)) := by
    refine .bind (reads alike) fun x y same => ?_
    exact .ok ⟨by rw [same.1], same.2⟩
  cases alike with
  | nil => exact .error _
  | @cons token other rest rest' first later =>
    cases first with
    | refl =>
      cases token with
      | rparen => exact .error _
      | _ => exact more
    | word => exact more

theorem readMany_alike {bound bound' : List Token} (long : List.Forall₂ Alike bound bound')
    {tokens others : List Token} (alike : List.Forall₂ Alike tokens others) :
    Related (fun x y => x = y) (readMany f bound tokens) (readMany f bound' others) := by
  induction long generalizing tokens others with
  | nil =>
    cases alike with
    | nil => exact .ok rfl
    | cons => exact .error _
  | cons _ _ ih =>
    cases alike with
    | nil => exact .ok rfl
    | cons first later =>
      refine .bind (reads (.cons first later)) fun x y same => ?_
      refine .bind (ih same.2) fun xs ys exprs => ?_
      exact .ok (by rw [same.1, exprs])

end Reading

theorem readOne_alike (depth : Nat) {tokens others : List Token}
    (alike : List.Forall₂ Alike tokens others) :
    Related SameRead (readOne depth tokens) (readOne depth others) := by
  induction depth generalizing tokens others with
  | zero =>
    cases alike with
    | nil => exact .error _
    | cons => exact .error _
  | succ depth ih =>
    cases alike with
    | nil => exact .error _
    | @cons token other rest rest' first later =>
      cases first with
      | word same => exact .ok ⟨same, later⟩
      | refl =>
        cases token with
        | rparen => exact .error _
        | quote => exact readQuoted_alike ih later
        | word text => exact .ok ⟨rfl, later⟩
        | lparen =>
          refine .bind (readItems_alike ih (.cons (.refl _) later) later) fun x y items => ?_
          exact .ok ⟨by rw [items.1], items.2⟩

theorem read_recased {a b : String} (ascii : ∀ c ∈ a.toList, c.toNat < 128)
    (recased : Recased a b) (depth : Nat) : read depth a = read depth b := by
  have both := (List.forall₂_and_left _ _).mpr ⟨ascii, recased⟩
  have folds : List.Forall₂ Folds a.toList b.toList := both.imp fun _ _ pair => pair.2.folds pair.1
  have alike : List.Forall₂ Alike (Token.scan a) (Token.scan b) := scanFrom_alike .nil folds
  exact (readMany_alike (readOne_alike depth) alike alike).eq

end Reader

namespace Session

/-- ASCII source texts of one length that differ only in the case of letters are read as one
program, or fail to be read in the same way. So whatever the session, the answers are the same, and
so are the bindings and the lines that are left. -/
theorem evaluate_recased {a b : String} (ascii : ∀ c ∈ a.toList, c.toNat < 128)
    (recased : Text.Recased a b) :
    (∀ depth, Reader.read depth a = Reader.read depth b) ∧
      ∀ depth (session : Session), session.evalValue depth a = session.evalValue depth b ∧
        session.evaluate depth a = session.evaluate depth b := by
  have same := Reader.read_recased ascii recased
  refine ⟨same, fun depth session => ?_⟩
  have value : session.evalValue depth a = session.evalValue depth b := by
    rw [evalValue, evalValue, same]
  exact ⟨value, by rw [evaluate, evaluate, value]⟩

theorem evaluate_recased_mixed :
    let a := "(DEFUN Foo (X) (IF x 1E3 'Bar)) (foo (LIST))"
    let b := "(defun fOO (x) (if X 1e3 'bAR)) (FOO (list))"
    (∀ c ∈ a.toList, c.toNat < 128) ∧ Text.Recased a b ∧
      (∀ depth, Reader.read depth a = Reader.read depth b) ∧
      ∀ depth (session : Session), session.evalValue depth a = session.evalValue depth b ∧
        session.evaluate depth a = session.evaluate depth b := by
  intro a b
  have ascii : ∀ c ∈ a.toList, c.toNat < 128 := List.all_iff_forall_prop.mp (by decide)
  have recased : Text.Recased a b := by
    unfold Text.Recased
    decide
  exact ⟨ascii, recased, evaluate_recased ascii recased⟩

end Session

end PocketLisp
