import PocketLisp.Eval
import PocketLisp.Proofs.Environment
import PocketLisp.Proofs.Run

set_option autoImplicit false

namespace PocketLisp

/-- What became of the environments of `start`: those that `own` picks grew by functions of their
own, and the others are as they were. -/
structure Store.Frame (start : Store) (own : Scope → Prop) (store : Store) : Prop where
  size : start.scopes.size ≤ store.scopes.size
  kept : ∀ scope < start.scopes.size, ¬ own scope →
    store.environment scope = start.environment scope
  grown : ∀ scope < start.scopes.size, own scope →
    (start.environment scope).Extends scope (store.environment scope)

-- Where evaluations may run: in a scope picked by `own`, or in one made since `start`.
def Store.Open (start : Store) (own : Scope → Prop) (scope : Scope) : Prop :=
  own scope ∨ start.scopes.size ≤ scope

namespace Store.Frame

variable {start store : Store} {own : Scope → Prop}

theorem refl (start : Store) (own : Scope → Prop) : start.Frame own start where
  size := Nat.le_refl _
  kept := fun _ _ _ => rfl
  grown := fun scope _ _ => .refl scope _

theorem record (frame : start.Frame own store) (lines : List String) :
    start.Frame own (store.record lines) where
  size := frame.size
  kept := frame.kept
  grown := frame.grown

theorem enter (frame : start.Frame own store) (env : Environment) :
    start.Frame own (store.enter env).2 where
  size := by
    rw [size_enter]
    exact Nat.le_succ_of_le frame.size
  kept := by
    intro scope inside foreign
    rw [environment_enter_old store env (Nat.lt_of_lt_of_le inside frame.size)]
    exact frame.kept scope inside foreign
  grown := by
    intro scope inside owned
    rw [environment_enter_old store env (Nat.lt_of_lt_of_le inside frame.size)]
    exact frame.grown scope inside owned

theorem define (frame : start.Frame own store) {scope : Scope} (opened : start.Open own scope)
    (s : Symbol) (tag : Nat) (name : String) (params : List Symbol) (body : List Value) :
    start.Frame own (store.define scope s (.function tag name params body scope)) where
  size := by
    rw [size_define]
    exact frame.size
  kept := by
    intro other inside foreign
    -- The scope is picked by `own` or made since `start`, and the other one is neither.
    have differ : other ≠ scope := by
      rintro rfl
      rcases opened with owned | fresh
      · exact foreign owned
      · exact absurd inside (Nat.not_lt.mpr fresh)
    rw [environment_define_other store differ]
    exact frame.kept other inside foreign
  grown := by
    intro other inside owned
    by_cases same : other = scope
    · subst same
      rw [environment_define_self (Nat.lt_of_lt_of_le inside frame.size)]
      exact (frame.grown other inside owned).define s tag name params body
    · rw [environment_define_other store same]
      exact frame.grown other inside owned

end Store.Frame

def Framed {α : Type} (start : Store) (own : Scope → Prop) (m : Run α) : Prop :=
  Keeps (start.Frame own) (fun _ => True) (fun _ => True) m

namespace Eval

variable {start : Store} {own : Scope → Prop}

theorem reference_framed (scope : Scope) (s : Symbol) : Framed start own (reference scope s) := by
  refine .bind .get fun store _ => ?_
  refine .bind (.orFail (.always _)) fun v _ => ?_
  split
  · exact .fail trivial
  · exact .pure trivial

theorem define_framed {scope : Scope} (opened : start.Open own scope) (parts : List Value) :
    Framed start own (define scope parts) := by
  unfold define
  split
  · split
    · refine .bind (.modify fun store frame => ?_) fun _ _ => .pure trivial
      exact frame.define opened _ _ _ _ _
    · exact .fail trivial
  · exact .fail trivial
  · exact .fail trivial

theorem callPrimitive_framed (p : Primitive) (args : List Value) :
    Framed start own (callPrimitive p args) := by
  refine .bind .get fun store _ => ?_
  refine .bind (.orFail (.always _)) fun v _ => ?_
  exact .bind (.modify fun store frame => frame.record _) fun _ _ => .pure trivial

-- Each rule respects the frame if the evaluator that it is given does, in every open scope.
variable {eval : Evaluator}
  (framed : ∀ scope expr, start.Open own scope → Framed start own (eval scope expr))

include framed

theorem special_framed {scope : Scope} (opened : start.Open own scope) (parts : List Value)
    (form : SpecialForm) : Framed start own (special eval scope parts form) := by
  cases form with
  | quote =>
    simp only [special]
    split
    · exact .pure trivial
    · exact .fail trivial
  | conditional =>
    simp only [special]
    split
    · refine .bind (framed _ _ opened) fun v _ => ?_
      split
      · exact framed _ _ opened
      · exact .pure trivial
    · refine .bind (framed _ _ opened) fun v _ => ?_
      split
      · exact framed _ _ opened
      · exact framed _ _ opened
    · exact .fail trivial
  | definition => exact define_framed opened parts

theorem evalBody_framed {scope : Scope} (opened : start.Open own scope) (last : Value)
    (body : List Value) : Framed start own (evalBody eval scope last body) := by
  induction body generalizing last with
  | nil => exact .pure trivial
  | cons form rest ih => exact .bind (framed _ _ opened) fun v _ => ih v

theorem evalArgs_framed {scope : Scope} (opened : start.Open own scope) (args : List Value) :
    Framed start own (evalArgs eval scope args) := by
  induction args with
  | nil => exact .pure trivial
  | cons arg rest ih =>
    refine .bind (framed _ _ opened) fun v _ => ?_
    exact .bind ih fun vs _ => .pure trivial

theorem callFunction_framed (params : List Symbol) (body : List Value) (home : Scope)
    (args : List Value) : Framed start own (callFunction eval params body home args) := by
  refine .bind .get fun store frame => ?_
  refine .bind (.set (frame.enter _)) fun _ _ => ?_
  -- The new scope is the size of a store that has grown since `start`.
  exact evalBody_framed framed (.inr frame.size) .nil body

theorem apply_framed (room : Nat) (procedure : Value) (args : List Value) :
    Framed start own (apply room eval procedure args) := by
  unfold apply
  split
  · split
    · exact callPrimitive_framed _ _
    · exact .throw trivial
  · exact callFunction_framed framed _ _ _ _
  · exact .fail trivial

theorem evalHead_framed {scope : Scope} (opened : start.Open own scope) (head : Value) :
    Framed start own (evalHead eval scope head) := by
  unfold evalHead
  split
  · refine .bind .get fun store _ => ?_
    split
    · exact .pure trivial
    · exact .fail trivial
  · exact framed _ _ opened

theorem evalCall_framed (room : Nat) {scope : Scope} (opened : start.Open own scope) (head : Value)
    (parts : List Value) : Framed start own (evalCall room eval scope head parts) := by
  refine .bind (evalHead_framed framed opened head) fun procedure _ => ?_
  split
  · refine .bind (evalArgs_framed framed opened parts) fun args _ => ?_
    exact apply_framed framed room procedure args
  · exact .fail trivial

theorem step_framed (room : Nat) {scope : Scope} (opened : start.Open own scope) (expr : Value) :
    Framed start own (step room eval scope expr) := by
  unfold step
  split
  · exact .pure trivial
  · exact .pure trivial
  · exact .pure trivial
  · exact reference_framed scope _
  · exact .pure trivial
  · unfold evalForm
    split
    · exact special_framed framed opened _ _
    · exact evalCall_framed framed room opened _ _
  all_goals exact .fail trivial

end Eval

theorem eval_framed {start : Store} {own : Scope → Prop} (budget : Nat) :
    ∀ scope expr, start.Open own scope → Framed start own (eval budget scope expr) := by
  induction budget with
  | zero => exact fun _ _ _ => .throw trivial
  -- A step is given the evaluator of the budget before, which respects the frame already.
  | succ budget ih => exact fun _ expr opened => Eval.step_framed ih budget opened expr

theorem callFunction_grows (budget : Nat) (params : List Symbol) (body : List Value) (home : Scope)
    (args : List Value) (store : Store) :
    ((store.environment home).bindParams params args).Extends store.scopes.size
      (((Eval.callFunction (eval budget) params body home args).run store).2.environment
        store.scopes.size) := by
  -- The call runs the body in the scope that it enters, so the law of the body at that scope is the
  -- law of the call.
  let entered := (store.enter ((store.environment home).bindParams params args)).2
  have opened : entered.Open (· = store.scopes.size) store.scopes.size := .inl rfl
  have frame := (Eval.evalBody_framed (eval_framed budget) opened .nil body entered (.refl _ _)).1
  have grown := frame.grown store.scopes.size (by simp [entered]) rfl
  rw [Store.environment_enter_new] at grown
  exact grown

/-- Evaluating an expression changes no environment other than the one that it is evaluated in, and
that one only grows, by functions at home there. Applying a procedure changes no environment of the
store at all: whatever a call binds, unbinds or defines is in the copy made for it. -/
theorem evaluation_frame (budget : Nat) (store : Store) :
    (∀ scope expr, store.Frame (· = scope) ((eval budget scope expr).run store).2) ∧
    (∀ room procedure args,
      store.Frame (fun _ => False) ((Eval.apply room (eval budget) procedure args).run store).2) ∧
    ∀ room tag name params body home args,
      ((store.environment home).bindParams params args).Extends store.scopes.size
        (((Eval.apply room (eval budget) (.function tag name params body home) args).run
          store).2.environment store.scopes.size) := by
  refine ⟨?_, ?_, ?_⟩
  · intro scope expr
    have opened : store.Open (· = scope) scope := .inl rfl
    exact (eval_framed budget scope expr opened store (.refl _ _)).1
  · intro room procedure args
    exact (Eval.apply_framed (eval_framed budget) room procedure args store (.refl _ _)).1
  · intro room tag name params body home args
    exact callFunction_grows budget params body home args store

end PocketLisp
