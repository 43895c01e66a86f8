import Mathlib.Data.List.Basic
import PocketLisp.Proofs.Rules

set_option autoImplicit false

namespace PocketLisp

theorem Number.isZero_iff (x : Number) : x.isZero = true ↔ ∃ negative, x = .ofRank negative 0 := by
  have zero : ∀ negative, Number.ofRank negative 0 = .finite negative ⟨0, by decide⟩ :=
    fun negative => dif_pos (by decide)
  constructor
  · intro holds
    cases x with
    | finite negative rank =>
      refine ⟨negative, ?_⟩
      rw [zero, Number.finite.injEq]
      exact ⟨rfl, Fin.ext (by simpa [Number.isZero] using holds)⟩
    | infinite | nan => cases holds
  · rintro ⟨negative, rfl⟩
    rw [zero]
    rfl

namespace Primitive

def Admits (p : Primitive) (count : Nat) : Prop :=
  match p with
  | equal | less | greater | atMost | atLeast | cons => count = 2
  | car | cdr | length | atom | null | numberp | symbolp | not => count = 1
  | sub | div => 1 ≤ count
  | add | mul | list | append | and | or | print => True

-- The kind of argument that a primitive takes. Booleans are not numbers.
def accepts (p : Primitive) (v : Value) : Bool :=
  match p with
  | add | sub | mul | div | less | greater | atMost | atLeast => v.isNumber
  | car | cdr | append => v.isList
  | _ => true

def typeError (p : Primitive) (v : Value) : LispError :=
  match p with
  | car | cdr | append => .notAList p v
  | _ => .notANumber p v

def Fits (p : Primitive) (args : List Value) : Prop :=
  p.Admits args.length ∧ ∀ v ∈ args, p.accepts v = true

def DividesByZero (p : Primitive) (args : List Value) : Prop :=
  p = div ∧ ∃ negative, .number (.ofRank negative 0) ∈ args.tail

def OpensEmpty (p : Primitive) (args : List Value) : Prop :=
  p = car ∧ args = [.list []]

/-- What a call answers. Each error takes that the checks before it were passed. -/
inductive Answers (p : Primitive) (args : List Value) : Result → Prop
  | miscounted {e : LispError} (count : ¬ p.Admits args.length) (kind : e.kind = .arity) :
      Answers p args (.error e)
  | mistyped {v : Value} (count : p.Admits args.length)
      (first : args.find? (fun w => !p.accepts w) = some v) :
      Answers p args (.error (p.typeError v))
  | divided (fits : p.Fits args) (zero : p.DividesByZero args) :
      Answers p args (.error .divisionByZero)
  | opened (fits : p.Fits args) (empty : p.OpensEmpty args) : Answers p args (.error .emptyList)
  | returned {v : Value} (fits : p.Fits args) (nonzero : ¬ p.DividesByZero args)
      (filled : ¬ p.OpensEmpty args) : Answers p args (.ok v)

namespace Answers

variable {p : Primitive} {args : List Value}

theorem bind {α : Type} {value : α → Prop} {check : Except LispError α} {next : α → Result}
    (checked : Ends value (fun e => Answers p args (.error e)) check)
    (rest : ∀ a, value a → Answers p args (next a)) : Answers p args (check >>= next) := by
  cases check with
  | ok a => exact rest a checked
  | error e => exact checked

theorem plain {v : Value} (other : p ≠ div ∧ p ≠ car) (fits : p.Fits args) :
    Answers p args (pure v) :=
  .returned fits (fun zero => other.1 zero.1) fun empty => other.2 empty.1

end Answers

section Counting

variable {p : Primitive} {args : List Value}

theorem expectOne_answers {f : Value → Result} (one : ∀ count, p.Admits count ↔ count = 1)
    (each : ∀ v, args = [v] → Answers p args (f v)) : Answers p args (expectOne p args f) := by
  unfold expectOne
  split
  · next v => exact each v rfl
  · next other =>
    refine .miscounted ?_ rfl
    rw [one, List.length_eq_one_iff]
    rintro ⟨v, single⟩
    exact other v single

theorem expectTwo_answers {f : Value → Value → Result} (two : ∀ count, p.Admits count ↔ count = 2)
    (each : ∀ v w, args = [v, w] → Answers p args (f v w)) :
    Answers p args (expectTwo p args f) := by
  unfold expectTwo
  split
  · next v w => exact each v w rfl
  · next other =>
    refine .miscounted ?_ rfl
    rw [two, List.length_eq_two]
    rintro ⟨v, w, pair⟩
    exact other v w pair

theorem expectSome_answers {f : Value → List Value → Result}
    (some : ∀ count, p.Admits count ↔ 1 ≤ count)
    (each : ∀ v rest, args = v :: rest → Answers p args (f v rest)) :
    Answers p args (expectSome p args f) := by
  unfold expectSome
  split
  · next v rest => exact each v rest rfl
  · exact .miscounted (by simp [some]) rfl

end Counting

def Reaches (p : Primitive) (args rest : List Value) : Prop :=
  ∃ before, args = before ++ rest ∧ ∀ v ∈ before, p.accepts v = true

namespace Reaches

variable {p : Primitive} {args rest : List Value} {v : Value}

theorem start : Reaches p args args :=
  ⟨[], rfl, by simp⟩

theorem next (reaches : Reaches p args (v :: rest)) (right : p.accepts v = true) :
    Reaches p args rest := by
  obtain ⟨before, split, fine⟩ := reaches
  refine ⟨before ++ [v], by simp [split], ?_⟩
  intro w member
  rcases List.mem_append.mp member with old | new
  · exact fine w old
  · rwa [List.mem_singleton.mp new]

theorem stop (reaches : Reaches p args (v :: rest)) (count : p.Admits args.length)
    (wrong : p.accepts v = false) : Answers p args (.error (p.typeError v)) := by
  obtain ⟨before, split, fine⟩ := reaches
  refine .mistyped count ?_
  rw [List.find?_eq_some_iff_append]
  exact ⟨by simp [wrong], before, rest, split, fun w member => by simp [fine w member]⟩

theorem fits (reaches : Reaches p args []) (count : p.Admits args.length) : p.Fits args := by
  obtain ⟨before, split, fine⟩ := reaches
  rw [List.append_nil] at split
  exact ⟨count, split ▸ fine⟩

end Reaches

section Kinds

variable {p : Primitive} {args rest : List Value} {v : Value} (count : p.Admits args.length)

section Numbers

variable (numeric : p.accepts = Value.isNumber) (named : p.typeError = .notANumber p)

include count numeric named

theorem expectNumber_checks (reaches : Reaches p args (v :: rest)) :
    Ends (fun x => v = .number x ∧ Reaches p args rest) (fun e => Answers p args (.error e))
      (expectNumber p v) := by
  cases v with
  | number x => exact ⟨rfl, reaches.next (by rw [numeric]; rfl)⟩
  | _ =>
    have rejected := reaches.stop count (by rw [numeric]; rfl)
    rwa [named] at rejected

theorem expectNumbers_checks (reaches : Reaches p args rest) :
    Ends (fun xs => rest = xs.map .number ∧ Reaches p args []) (fun e => Answers p args (.error e))
      (expectNumbers p rest) := by
  induction rest with
  | nil => exact ⟨rfl, reaches⟩
  | cons v rest ih =>
    refine .bind (expectNumber_checks count numeric named reaches) fun x first => ?_
    refine .bind (ih first.2) fun xs others => ?_
    exact ⟨by rw [first.1, others.1]; rfl, others.2⟩

end Numbers

section Lists

variable (listed : p.accepts = Value.isList) (named : p.typeError = .notAList p)

include count listed named

theorem expectList_checks (reaches : Reaches p args (v :: rest)) :
    Ends (fun items => v = .list items ∧ Reaches p args rest) (fun e => Answers p args (.error e))
      (expectList p v) := by
  cases v with
  | list items => exact ⟨rfl, reaches.next (by rw [listed]; rfl)⟩
  | _ =>
    have rejected := reaches.stop count (by rw [listed]; rfl)
    rwa [named] at rejected

theorem concat_checks (reaches : Reaches p args rest) :
    Ends (fun _ => Reaches p args []) (fun e => Answers p args (.error e)) (concat p rest) := by
  induction rest with
  | nil => exact reaches
  | cons v rest ih =>
    refine .bind (expectList_checks count listed named reaches) fun items first => ?_
    exact .bind (ih first.2) fun _ done => done

end Lists

end Kinds

theorem quotient_ends (mark : Nat) (x : Number) (ys : List Number) :
    Ends (fun _ => ∀ y ∈ ys, y.isZero = false)
      (fun e => e = .divisionByZero ∧ ∃ y ∈ ys, y.isZero = true) (quotient mark x ys) := by
  induction ys generalizing x with
  | nil => exact fun _ member => absurd member (by simp)
  | cons y ys ih =>
    unfold quotient
    split
    · next zero => exact ⟨rfl, y, by simp, zero⟩
    · next nonzero =>
      refine (ih (x.div mark y)).weaken (fun _ others => ?_) fun e later => ?_
      · exact List.forall_mem_cons.mpr ⟨Bool.eq_false_iff.mpr nonzero, others⟩
      · obtain ⟨same, z, member, zero⟩ := later
        exact ⟨same, z, List.mem_cons_of_mem y member, zero⟩

theorem dividesByZero_iff {x : Value} {ys : List Number} :
    div.DividesByZero (x :: ys.map .number) ↔ ∃ y ∈ ys, y.isZero = true := by
  simp only [DividesByZero, List.tail_cons, List.mem_map, Value.number.injEq, Number.isZero_iff,
    true_and]
  constructor
  · rintro ⟨negative, y, member, zero⟩
    exact ⟨y, member, negative, zero⟩
  · rintro ⟨y, member, negative, zero⟩
    exact ⟨negative, y, member, zero⟩

theorem div_answers (mark : Nat) (args : List Value) : Answers div args (div.call mark args) := by
  refine expectSome_answers (fun _ => Iff.rfl) ?_
  rintro v rest rfl
  have count : div.Admits (v :: rest).length := Nat.le_add_left 1 _
  refine .bind (expectNumber_checks count rfl rfl .start) fun x first => ?_
  refine .bind (expectNumbers_checks count rfl rfl first.2) fun ys others => ?_
  have fits := others.2.fits count
  have ends := quotient_ends mark x ys
  rw [others.1] at fits ⊢
  cases result : quotient mark x ys with
  | ok answer =>
    rw [result] at ends
    refine .returned fits ?_ (by simp [OpensEmpty])
    rw [dividesByZero_iff]
    rintro ⟨y, member, zero⟩
    exact absurd zero (by rw [ends y member]; decide)
  | error e =>
    rw [result] at ends
    rw [ends.1]
    exact .divided fits (dividesByZero_iff.mpr ends.2)

theorem compare_answers {p : Primitive} (two : ∀ count, p.Admits count ↔ count = 2)
    (numeric : p.accepts = Value.isNumber) (named : p.typeError = .notANumber p)
    (other : p ≠ div ∧ p ≠ car) (relation : Number → Number → Bool) (args : List Value) :
    Answers p args (compare p relation args) := by
  refine expectTwo_answers two ?_
  rintro v w rfl
  have count : p.Admits [v, w].length := (two 2).mpr rfl
  refine .bind (expectNumber_checks count numeric named .start) fun x first => ?_
  refine .bind (expectNumber_checks count numeric named first.2) fun y second => ?_
  exact .plain other (second.2.fits count)

theorem predicate_answers {p : Primitive} (one : ∀ count, p.Admits count ↔ count = 1)
    (any : ∀ v, p.accepts v = true) (other : p ≠ div ∧ p ≠ car) (f : Value → Value)
    (args : List Value) : Answers p args (expectOne p args fun v => return f v) := by
  refine expectOne_answers one ?_
  rintro v rfl
  exact .plain other ⟨(one 1).mpr rfl, fun w _ => any w⟩

theorem call_answers (p : Primitive) (mark : Nat) (args : List Value) :
    Answers p args (p.call mark args) := by
  cases p with
  | add | mul =>
    refine .bind (expectNumbers_checks trivial rfl rfl .start) fun xs numbers => ?_
    exact .plain (by decide) (numbers.2.fits trivial)
  | sub =>
    refine expectSome_answers (fun _ => Iff.rfl) ?_
    rintro v rest rfl
    have count : sub.Admits (v :: rest).length := Nat.le_add_left 1 _
    refine .bind (expectNumber_checks count rfl rfl .start) fun x first => ?_
    refine .bind (expectNumbers_checks count rfl rfl first.2) fun ys others => ?_
    exact .plain (by decide) (others.2.fits count)
  | div => exact div_answers mark args
  | less | greater | atMost | atLeast =>
    exact compare_answers (fun _ => Iff.rfl) rfl rfl (by decide) _ args
  | equal =>
    refine expectTwo_answers (fun _ => Iff.rfl) ?_
    rintro v w rfl
    exact .plain (by decide) ⟨rfl, fun _ _ => rfl⟩
  | cons =>
    refine expectTwo_answers (fun _ => Iff.rfl) ?_
    rintro head tail rfl
    split <;> exact .plain (by decide) ⟨rfl, fun _ _ => rfl⟩
  | car =>
    refine expectOne_answers (fun _ => Iff.rfl) ?_
    rintro v rfl
    refine .bind (expectList_checks rfl rfl rfl .start) ?_
    rintro items ⟨rfl, reached⟩
    cases items with
    | nil => exact .opened (reached.fits rfl) ⟨rfl, rfl⟩
    | cons head rest =>
      have nonzero : ¬ car.DividesByZero [.list (head :: rest)] := by simp [DividesByZero]
      exact .returned (reached.fits rfl) nonzero (by simp [OpensEmpty])
  | cdr =>
    refine expectOne_answers (fun _ => Iff.rfl) ?_
    rintro v rfl
    refine .bind (expectList_checks rfl rfl rfl .start) fun items first => ?_
    exact .plain (by decide) (first.2.fits rfl)
  | append =>
    refine .bind (concat_checks trivial rfl rfl .start) fun items reached => ?_
    exact .plain (by decide) (reached.fits trivial)
  | length =>
    refine expectOne_answers (fun _ => Iff.rfl) ?_
    rintro v rfl
    split <;> exact .plain (by decide) ⟨rfl, fun _ _ => rfl⟩
  | atom | null | numberp | symbolp | not =>
    exact predicate_answers (fun _ => Iff.rfl) (fun _ => rfl) (by decide) _ args
  | list | and | or | print => exact .plain (by decide) ⟨trivial, fun _ _ => rfl⟩

theorem typeError_kind (p : Primitive) (v : Value) : (p.typeError v).kind = .wrongType := by
  cases p <;> rfl

theorem typeError_shows (p : Primitive) (v : Value) :
    ∃ text, (p.typeError v).message = text ++ v.print := by
  cases p <;> exact ⟨_, rfl⟩

def outcome : Result → Except Fault Value
  | .ok v => .ok v
  | .error e => .error (.error e)

def Raises (kind : ErrorKind) (ended : Except Fault Value) : Prop :=
  ∃ e, ended = .error (.error e) ∧ e.kind = kind

section Offender

variable {p : Primitive} {args : List Value}

theorem mem_of_first {v : Value} (first : args.find? (fun w => !p.accepts w) = some v) :
    v ∈ args ∧ p.accepts v = false :=
  ⟨List.mem_of_find?_eq_some first, by simpa using List.find?_some first⟩

theorem Fits.no_offender (fits : p.Fits args) : ¬ ∃ v ∈ args, p.accepts v = false := by
  rintro ⟨v, member, wrong⟩
  exact absurd (fits.2 v member) (by simp [wrong])

theorem not_fits_of_first {v : Value} (first : args.find? (fun w => !p.accepts w) = some v) :
    ¬ p.Fits args :=
  fun fits => fits.no_offender ⟨v, mem_of_first first⟩

end Offender

namespace Answers

variable {p : Primitive} {args : List Value} {answer : Result}

-- The kinds of errors are told apart by the check that fails, so each kind has one case for it, and
-- in the others its condition contradicts theirs.
theorem raises_arity (answers : Answers p args answer) :
    Raises .arity (outcome answer) ↔ ¬ p.Admits args.length := by
  cases answers with
  | miscounted count kind => simp [Raises, outcome, count, kind]
  | mistyped count => simp [Raises, outcome, count, typeError_kind]
  | divided fits | opened fits | returned fits => simp [Raises, outcome, fits.1, LispError.kind]

theorem raises_wrongType (answers : Answers p args answer) :
    Raises .wrongType (outcome answer) ↔
      p.Admits args.length ∧ ∃ v ∈ args, p.accepts v = false := by
  cases answers with
  | miscounted count kind => simp [Raises, outcome, count, kind]
  | mistyped count first =>
    have wrong : ∃ v ∈ args, p.accepts v = false := ⟨_, mem_of_first first⟩
    simp [Raises, outcome, count, typeError_kind, wrong]
  | divided fits | opened fits | returned fits =>
    simp [Raises, outcome, LispError.kind, -Bool.not_eq_true, fits.no_offender]

theorem offender_of_wrongType (answers : Answers p args answer) {e : LispError}
    (failed : outcome answer = .error (.error e)) (kind : e.kind = .wrongType) :
    ∃ v, args.find? (fun w => !p.accepts w) = some v ∧ e = p.typeError v := by
  cases answers with
  | mistyped _ first =>
    obtain rfl : p.typeError _ = e := by simpa [outcome] using failed
    exact ⟨_, first, rfl⟩
  | miscounted _ other =>
    obtain rfl : _ = e := by simpa [outcome] using failed
    exact absurd (other.symm.trans kind) (by decide)
  | divided | opened =>
    obtain rfl : _ = e := by simpa [outcome] using failed
    exact absurd kind (by decide)
  | returned => simp [outcome] at failed

theorem raises_divisionByZero (answers : Answers p args answer) :
    Raises .divisionByZero (outcome answer) ↔ p.Fits args ∧ p.DividesByZero args := by
  cases answers with
  | miscounted count kind => simp [Raises, outcome, Fits, count, kind]
  | mistyped count first => simp [Raises, outcome, typeError_kind, not_fits_of_first first]
  | divided fits zero => simp [Raises, outcome, LispError.kind, fits, zero]
  | opened fits empty =>
    have nonzero : ¬ p.DividesByZero args := by simp [DividesByZero, empty.1]
    simp [Raises, outcome, LispError.kind, nonzero]
  | returned fits nonzero => simp [Raises, outcome, nonzero]

theorem raises_emptyList (answers : Answers p args answer) :
    Raises .emptyList (outcome answer) ↔ p.Fits args ∧ p.OpensEmpty args := by
  cases answers with
  | miscounted count kind => simp [Raises, outcome, Fits, count, kind]
  | mistyped count first => simp [Raises, outcome, typeError_kind, not_fits_of_first first]
  | divided fits zero =>
    have filled : ¬ p.OpensEmpty args := by simp [OpensEmpty, zero.1]
    simp [Raises, outcome, LispError.kind, filled]
  | opened fits empty => simp [Raises, outcome, LispError.kind, fits, empty]
  | returned fits nonzero filled => simp [Raises, outcome, filled]

theorem returns_iff (answers : Answers p args answer) :
    (∃ v, outcome answer = .ok v) ↔
      p.Fits args ∧ ¬ p.DividesByZero args ∧ ¬ p.OpensEmpty args := by
  cases answers with
  | miscounted count => simp [outcome, Fits, count]
  | mistyped count first => simp [outcome, not_fits_of_first first]
  | divided fits zero => simp [outcome, zero]
  | opened fits empty => simp [outcome, empty]
  | returned fits nonzero filled => simp [outcome, fits, nonzero, filled]

end Answers

end Primitive

namespace Eval

open Primitive

theorem callPrimitive_outcome (p : Primitive) (args : List Value) (store : Store) :
    ((callPrimitive p args).run store).1 = outcome (p.call store.nextMark args) := by
  rw [run_callPrimitive]
  cases p.call store.nextMark args <;> rfl

theorem callPrimitive_store_of_error {p : Primitive} {args : List Value} {store : Store}
    {fault : Fault} (failed : ((callPrimitive p args).run store).1 = .error fault) :
    ((callPrimitive p args).run store).2 = store := by
  rw [run_callPrimitive] at failed ⊢
  cases called : p.call store.nextMark args with
  | ok v => simp [called] at failed
  | error e => rfl

/-- A primitive fails for the number of its arguments before it fails for their kinds, and for the
first argument of the wrong kind before it fails for a value. Nothing else makes it fail, and where
it fails it prints nothing. -/
theorem callPrimitive_checks (p : Primitive) (args : List Value) (store : Store) :
    let ran := (callPrimitive p args).run store
    (Raises .arity ran.1 ↔ ¬ p.Admits args.length) ∧
    (Raises .wrongType ran.1 ↔ p.Admits args.length ∧ ∃ v ∈ args, p.accepts v = false) ∧
    (∀ e, ran.1 = .error (.error e) → e.kind = .wrongType →
      ∃ v, args.find? (fun w => !p.accepts w) = some v ∧ e = p.typeError v ∧
        ∃ text, e.message = text ++ v.print) ∧
    (Raises .divisionByZero ran.1 ↔ p.Fits args ∧ p.DividesByZero args) ∧
    (Raises .emptyList ran.1 ↔ p.Fits args ∧ p.OpensEmpty args) ∧
    ((∃ v, ran.1 = .ok v) ↔ p.Fits args ∧ ¬ p.DividesByZero args ∧ ¬ p.OpensEmpty args) ∧
    ∀ fault, ran.1 = .error fault → ran.2 = store := by
  intro ran
  have same : ran.1 = outcome (p.call store.nextMark args) := callPrimitive_outcome p args store
  have answers := call_answers p store.nextMark args
  have kept : ∀ fault, ran.1 = .error fault → ran.2 = store :=
    fun _ => callPrimitive_store_of_error
  have offender : ∀ e, ran.1 = .error (.error e) → e.kind = .wrongType →
      ∃ v, args.find? (fun w => !p.accepts w) = some v ∧ e = p.typeError v ∧
        ∃ text, e.message = text ++ v.print := by
    intro e failed kind
    obtain ⟨v, first, rfl⟩ := answers.offender_of_wrongType (same ▸ failed) kind
    exact ⟨v, first, rfl, typeError_shows p v⟩
  rw [same] at offender ⊢
  exact ⟨answers.raises_arity, answers.raises_wrongType, offender, answers.raises_divisionByZero,
    answers.raises_emptyList, answers.returns_iff, same ▸ kept⟩

end Eval

end PocketLisp
