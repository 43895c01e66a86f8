import PocketLisp.Eval
import PocketLisp.Proofs.Run

set_option autoImplicit false

namespace PocketLisp

theorem SpecialForm.ofSymbol?_eq_some {s : Symbol} {form : SpecialForm}
    (special : ofSymbol? s = some form) :
    (form = quote ∧ s = ⟨"quote"⟩) ∨ (form = conditional ∧ s = ⟨"if"⟩) ∨
      (form = definition ∧ s = ⟨"defun"⟩) := by
  unfold ofSymbol? at special
  split at special
  · next name => exact .inl ⟨(Option.some.inj special).symm, congrArg Symbol.mk name⟩
  · split at special
    · next name => exact .inr (.inl ⟨(Option.some.inj special).symm, congrArg Symbol.mk name⟩)
    · split at special
      · next name => exact .inr (.inr ⟨(Option.some.inj special).symm, congrArg Symbol.mk name⟩)
      · contradiction

namespace Eval

theorem params?_eq_some_iff {list : Value} {params : List Symbol} :
    params? list = some params ↔ list = .list (params.map .symbol) := by
  have items : ∀ {items params}, paramSymbols? items = some params ↔
      items = params.map Value.symbol := by
    intro items
    fun_induction paramSymbols? items with
    | case1 => simp [eq_comm]
    | case2 s rest ih =>
      intro params
      cases params with
      | nil => simp
      | cons p ps => simpa [ih] using and_comm
    | case3 item rest other =>
      intro params
      cases params with
      | nil => simp
      | cons p ps => simpa using fun same => (other p same).elim
  cases list with
  | list _ => simp [params?, items]
  | _ => simp [params?]

section Computed

variable {head : Value} (computed : head.isSymbol = false)

include computed

theorem specialForm?_computed : specialForm? head = none := by
  cases head with
  | symbol s => contradiction
  | _ => rfl

theorem evalHead_computed (eval : Evaluator) {scope : Scope} :
    evalHead eval scope head = eval scope head := by
  cases head with
  | symbol s => contradiction
  | _ => rfl

end Computed

section Running

variable {eval : Evaluator} (scope : Scope) (store : Store)

theorem run_reference (s : Symbol) :
    (reference scope s).run store =
      match (store.environment scope).get? s with
      | some v =>
        if v.isProcedure then (.error (.error (.callableUsedAsValue s)), store)
        else (.ok v, store)
      | none => (.error (.error (.unboundSymbol s)), store) := by
  rw [reference, run_bind_ok (run_get store), Environment.lookup]
  cases (store.environment scope).get? s with
  | none => rfl
  | some v => cases procedure : v.isProcedure <;> simp [orFail, procedure]

theorem run_evalHead_symbol (s : Symbol) :
    (evalHead eval scope (.symbol s)).run store =
      match (store.environment scope).get? s with
      | some v => (.ok v, store)
      | none => (.error (.error (.undefinedFunction s)), store) := by
  rw [evalHead, run_bind_ok (run_get store)]
  cases (store.environment scope).get? s <;> rfl

theorem run_callPrimitive (p : Primitive) (args : List Value) :
    (callPrimitive p args).run store =
      match p.call store.nextMark args with
      | .ok v => (.ok v, store.record (p.printed args))
      | .error e => (.error (.error e), store) := by
  rw [callPrimitive, run_bind_ok (run_get store)]
  cases p.call store.nextMark args <;> rfl

theorem run_apply_primitive (room : Nat) (p : Primitive) (args : List Value) :
    (apply room eval (.primitive p) args).run store =
      if p.reach args ≤ room then (callPrimitive p args).run store
      else (.error .tooDeep, store) := by
  rw [apply]
  split <;> rfl

theorem run_callFunction (params : List Symbol) (body : List Value) (home : Scope)
    (args : List Value) :
    (callFunction eval params body home args).run store =
      (evalBody eval store.scopes.size .nil body).run
        (store.enter ((store.environment home).bindParams params args)).2 := rfl

theorem run_define (s : Symbol) (params : List Symbol) (body : List Value) :
    (define scope (.symbol s :: .list (params.map .symbol) :: body)).run store =
      (.ok (.symbol s), store.define scope s (.function 0 s.name params body scope)) := by
  rw [define, params?_eq_some_iff.mpr rfl]
  rfl

end Running

theorem step_call {room : Nat} {eval : Evaluator} {scope : Scope} {head : Value}
    {parts : List Value} (call : specialForm? head = none) :
    step room eval scope (.list (head :: parts)) = evalCall room eval scope head parts := by
  rw [step, evalForm, call]

theorem step_special {room : Nat} {eval : Evaluator} {scope : Scope} {head : Value}
    {parts : List Value} {form : SpecialForm} (special : specialForm? head = some form) :
    step room eval scope (.list (head :: parts)) = Eval.special eval scope parts form := by
  rw [step, evalForm, special]

end Eval

end PocketLisp
