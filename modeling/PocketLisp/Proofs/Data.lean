import PocketLisp.Proofs.Environment
import PocketLisp.Proofs.Run

set_option autoImplicit false

namespace PocketLisp

/-- Numbers, booleans, nil, symbols that `named` admits, and lists of such. -/
inductive Value.Data (named : Symbol → Prop) : Value → Prop
  | nil : Data named .nil
  | bool (b : Bool) : Data named (.bool b)
  | number (x : Number) : Data named (.number x)
  | symbol {s : Symbol} (admitted : named s) : Data named (.symbol s)
  | list {items : List Value} (each : ∀ v ∈ items, Data named v) : Data named (.list items)

def LispError.operands : LispError → List Value
  | .unboundName v | .notAFunction v | .inapplicable v | .uninterpretable v | .defunName v => [v]
  | .cannotBind v | .notANumber _ v | .notAList _ v => [v]
  | _ => []

-- Errors that running programs stop at. The others come from the reader, or from values that
-- programs cannot hold.
def LispError.AtRun : LispError → Prop
  | .unexpectedEnd | .unmatchedParenthesis | .unexpectedParenthesis | .danglingQuote => False
  | .unboundName _ | .inapplicable _ | .uninterpretable _ | .cannotBind _ => False
  | _ => True

structure LispError.Raised (named : Symbol → Prop) (e : LispError) : Prop where
  at_run : e.AtRun
  operands : ∀ v ∈ e.operands, v.Data named

section Values

variable {named : Symbol → Prop}

theorem Value.Data.items {items : List Value} (data : (Value.list items).Data named) :
    ∀ v ∈ items, v.Data named := by
  cases data with
  | list each => exact each

theorem LispError.Raised.silent {e : LispError} (at_run : e.AtRun) (silent : e.operands = []) :
    e.Raised named :=
  ⟨at_run, by simp [silent]⟩

theorem LispError.Raised.showing {e : LispError} {v : Value} (at_run : e.AtRun)
    (shown : e.operands = [v]) (data : v.Data named) : e.Raised named :=
  ⟨at_run, by simpa [shown] using data⟩

end Values

namespace Primitive

variable {named : Symbol → Prop} {p : Primitive} {args : List Value}

abbrev Sound (named : Symbol → Prop) : Result → Prop :=
  Ends (Value.Data named) (LispError.Raised named)

theorem expectOne_sound {f : Value → Result} (each : ∀ v ∈ args, v.Data named)
    (sound : ∀ v, v.Data named → Sound named (f v)) : Sound named (expectOne p args f) := by
  unfold expectOne
  split
  · exact sound _ (each _ (by simp))
  · exact .silent trivial rfl

theorem expectTwo_sound {f : Value → Value → Result} (each : ∀ v ∈ args, v.Data named)
    (sound : ∀ v w, v.Data named → w.Data named → Sound named (f v w)) :
    Sound named (expectTwo p args f) := by
  unfold expectTwo
  split
  · exact sound _ _ (each _ (by simp)) (each _ (by simp))
  · exact .silent trivial rfl

theorem expectSome_sound {f : Value → List Value → Result} (each : ∀ v ∈ args, v.Data named)
    (sound : ∀ v rest, v.Data named → (∀ w ∈ rest, w.Data named) → Sound named (f v rest)) :
    Sound named (expectSome p args f) := by
  unfold expectSome
  split
  · exact sound _ _ (each _ (by simp)) fun w member => each w (by simp [member])
  · exact .silent trivial rfl

theorem expectNumber_sound {v : Value} (data : v.Data named) :
    Ends (fun _ => True) (LispError.Raised named) (expectNumber p v) := by
  unfold expectNumber
  split
  · trivial
  · exact .showing trivial rfl data

theorem expectNumbers_sound (each : ∀ v ∈ args, v.Data named) :
    Ends (fun _ => True) (LispError.Raised named) (expectNumbers p args) := by
  induction args with
  | nil => trivial
  | cons v rest ih =>
    refine .bind (expectNumber_sound (each v (by simp))) fun _ _ => ?_
    exact .bind (ih fun w member => each w (by simp [member])) fun _ _ => trivial

theorem expectList_sound {v : Value} (data : v.Data named) :
    Ends (fun items => ∀ w ∈ items, w.Data named) (LispError.Raised named) (expectList p v) := by
  unfold expectList
  split
  · exact data.items
  · exact .showing trivial rfl data

theorem concat_sound (each : ∀ v ∈ args, v.Data named) :
    Ends (fun items => ∀ w ∈ items, w.Data named) (LispError.Raised named) (concat p args) := by
  induction args with
  | nil => exact fun _ member => absurd member (by simp)
  | cons v rest ih =>
    refine .bind (expectList_sound (each v (by simp))) fun items data => ?_
    refine .bind (ih fun w member => each w (by simp [member])) fun more later => ?_
    exact fun w member => (List.mem_append.mp member).elim (data w) (later w)

theorem quotient_sound (mark : Nat) (x : Number) (divisors : List Number) :
    Sound named (quotient mark x divisors) := by
  induction divisors generalizing x with
  | nil => exact .number x
  | cons y rest ih =>
    unfold quotient
    split
    · exact .silent trivial rfl
    · exact ih _

theorem compare_sound (relation : Number → Number → Bool) (each : ∀ v ∈ args, v.Data named) :
    Sound named (compare p relation args) := by
  refine expectTwo_sound each fun v w left right => ?_
  refine .bind (expectNumber_sound left) fun _ _ => ?_
  exact .bind (expectNumber_sound right) fun _ _ => .bool _

theorem call_sound (p : Primitive) (mark : Nat) (each : ∀ v ∈ args, v.Data named) :
    Sound named (p.call mark args) := by
  cases p with
  | add | mul => exact .bind (expectNumbers_sound each) fun _ _ => .number _
  | sub =>
    refine expectSome_sound each fun v rest first others => ?_
    refine .bind (expectNumber_sound first) fun _ _ => ?_
    exact .bind (expectNumbers_sound others) fun _ _ => .number _
  | div =>
    refine expectSome_sound each fun v rest first others => ?_
    refine .bind (expectNumber_sound first) fun x _ => ?_
    exact .bind (expectNumbers_sound others) fun ys _ => quotient_sound mark x ys
  | equal => exact expectTwo_sound each fun _ _ _ _ => .bool _
  | less | greater | atMost | atLeast => exact compare_sound _ each
  | list => exact .list each
  | cons =>
    refine expectTwo_sound each fun head tail first second => ?_
    split
    · exact .list fun w member => (List.mem_cons.mp member).elim (· ▸ first) (second.items w)
    · exact .list (by simp [first, second])
  | car =>
    refine expectOne_sound each fun v data => ?_
    refine .bind (expectList_sound data) fun items each => ?_
    split
    · exact each _ (by simp)
    · exact .silent trivial rfl
  | cdr =>
    refine expectOne_sound each fun v data => ?_
    refine .bind (expectList_sound data) fun items each => ?_
    exact .list fun w member => each w (List.mem_of_mem_tail member)
  | length =>
    refine expectOne_sound each fun v _ => ?_
    split <;> exact .number _
  | append => exact .bind (concat_sound each) fun _ data => .list data
  | atom | null | numberp | symbolp | not => exact expectOne_sound each fun _ _ => .bool _
  | and | or => exact .bool _
  | print => exact .nil

end Primitive

end PocketLisp
