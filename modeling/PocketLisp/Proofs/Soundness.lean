import PocketLisp.Eval
import PocketLisp.Proofs.Data

set_option autoImplicit false

namespace PocketLisp

def Value.Bindable (named : Symbol → Prop) : Value → Prop
  | .primitive _ => True
  | .function _ _ _ body _ => ∀ form ∈ body, form.Data named
  | v => v.Data named

def Environment.Sound (named : Symbol → Prop) (env : Environment) : Prop :=
  ∀ s v, env.get? s = some v → v.Bindable named

def Shown (named : Symbol → Prop) (line : String) : Prop :=
  ∃ args : List Value, (∀ v ∈ args, v.Data named) ∧ line = " ".intercalate (Value.printAll args)

structure Store.Sound (named : Symbol → Prop) (store : Store) : Prop where
  environments : ∀ scope, (store.environment scope).Sound named
  printed : ∀ line ∈ store.printed.toList, Shown named line

def Fault.Raised (named : Symbol → Prop) : Fault → Prop
  | .error e => e.Raised named
  | .tooDeep => True

section Bindable

variable {named : Symbol → Prop} {v : Value}

theorem Value.Data.bindable (data : v.Data named) : v.Bindable named := by
  cases data with
  | nil => exact .nil
  | bool b => exact .bool b
  | number x => exact .number x
  | symbol admitted => exact .symbol admitted
  | list each => exact .list each

theorem Value.Data.not_procedure (data : v.Data named) : v.isProcedure = false := by
  cases data <;> rfl

theorem Value.Bindable.data (bindable : v.Bindable named) (plain : v.isProcedure = false) :
    v.Data named := by
  cases v with
  | primitive p => exact absurd plain (by simp [Value.isProcedure])
  | function tag name params body home => exact absurd plain (by simp [Value.isProcedure])
  | _ => exact bindable

end Bindable

namespace Environment.Sound

variable {named : Symbol → Prop} {env : Environment}

theorem empty : Environment.empty.Sound named :=
  every_empty

theorem define (sound : env.Sound named) {v : Value} (bindable : v.Bindable named) (s : Symbol) :
    (env.define s v).Sound named :=
  Every.define sound bindable

theorem undefine (sound : env.Sound named) (s : Symbol) : (env.undefine s).Sound named :=
  Every.undefine sound s

theorem bindParams (sound : env.Sound named) (params : List Symbol) {args : List Value}
    (each : ∀ v ∈ args, v.Data named) : (env.bindParams params args).Sound named :=
  bindParams_induction (fun _ s _ sound data => sound.define data.bindable s)
    (fun _ s sound => sound.undefine s) sound params each

theorem initial : Environment.initial.Sound named :=
  every_initial (fun _ => trivial) (.bool true) .nil

end Environment.Sound

namespace Store.Sound

variable {named : Symbol → Prop} {store : Store}

theorem ofGlobals {globals : Environment} (sound : globals.Sound named) (mark : Nat) :
    (Store.ofGlobals globals mark).Sound named where
  environments := each_ofGlobals sound .empty mark
  printed := by simp [Store.ofGlobals]

theorem define (sound : store.Sound named) (scope : Scope) (s : Symbol) {v : Value}
    (bindable : v.Bindable named) : (store.define scope s v).Sound named where
  environments := each_define sound.environments (fun _ sound => sound.define bindable s) scope
  printed := sound.printed

theorem enter (sound : store.Sound named) {env : Environment} (copied : env.Sound named) :
    (store.enter env).2.Sound named where
  environments := each_enter sound.environments copied
  printed := sound.printed

theorem record (sound : store.Sound named) {lines : List String}
    (shown : ∀ line ∈ lines, Shown named line) : (store.record lines).Sound named where
  environments := sound.environments
  printed := by
    intro line member
    simp only [Store.record, Array.toList_appendList, List.mem_append] at member
    exact member.elim (sound.printed line) (shown line)

end Store.Sound

namespace Eval

variable {named : Symbol → Prop}

def Computes (named : Symbol → Prop) (m : Run Value) : Prop :=
  Keeps (Store.Sound named) (Value.Data named) (Fault.Raised named) m

theorem lookup_sound {env : Environment} (sound : env.Sound named) (s : Symbol) :
    Ends (Value.Bindable named) (LispError.Raised named) (env.lookup s) := by
  unfold Environment.lookup
  split
  · next v bound => exact sound s v bound
  · exact .silent trivial rfl

theorem reference_computes (scope : Scope) (s : Symbol) : Computes named (reference scope s) := by
  refine .bind .get fun store sound => ?_
  refine .bind (.orFail (lookup_sound (sound.environments scope) s)) fun v bindable => ?_
  split
  · exact .fail (.silent trivial rfl)
  · next plain =>
    -- What may be bound and is no procedure is data.
    exact .pure (bindable.data (Bool.eq_false_iff.mpr plain))

theorem define_computes (scope : Scope) {parts : List Value} (each : ∀ v ∈ parts, v.Data named) :
    Computes named (define scope parts) := by
  unfold define
  split
  · next s params body =>
    have name : (Value.symbol s).Data named := each _ (by simp)
    split
    · refine .bind (.modify fun store sound => ?_) fun _ _ => .pure name
      exact sound.define scope s fun form member => each form (by simp [member])
    · exact .fail (.silent trivial rfl)
  · exact .fail (.showing trivial rfl (each _ (by simp)))
  · exact .fail (.silent trivial rfl)

theorem printed_shown (p : Primitive) {args : List Value} (each : ∀ v ∈ args, v.Data named) :
    ∀ line ∈ p.printed args, Shown named line := by
  intro line member
  unfold Primitive.printed at member
  split at member
  · exact ⟨args, each, List.mem_singleton.mp member⟩
  · exact absurd member (by simp)

theorem callPrimitive_computes (p : Primitive) {args : List Value}
    (each : ∀ v ∈ args, v.Data named) : Computes named (callPrimitive p args) := by
  refine .bind .get fun store _ => ?_
  refine .bind (.orFail (p.call_sound store.nextMark each)) fun v data => ?_
  exact .bind (.modify fun store sound => sound.record (printed_shown p each)) fun _ _ => .pure data

-- Each rule computes with data if the evaluator that it is given does.
variable {eval : Evaluator}
  (computes : ∀ scope expr, expr.Data named → Computes named (eval scope expr))

include computes

theorem special_computes (scope : Scope) {parts : List Value} (each : ∀ v ∈ parts, v.Data named)
    (form : SpecialForm) : Computes named (special eval scope parts form) := by
  cases form with
  | quote =>
    simp only [special]
    split
    · exact .pure (each _ (by simp))
    · exact .fail (.silent trivial rfl)
  | conditional =>
    simp only [special]
    split
    · refine .bind (computes _ _ (each _ (by simp))) fun v _ => ?_
      split
      · exact computes _ _ (each _ (by simp))
      · exact .pure .nil
    · refine .bind (computes _ _ (each _ (by simp))) fun v _ => ?_
      split
      · exact computes _ _ (each _ (by simp))
      · exact computes _ _ (each _ (by simp))
    · exact .fail (.silent trivial rfl)
  | definition => exact define_computes scope each

theorem evalBody_computes (scope : Scope) {last : Value} (data : last.Data named)
    {body : List Value} (each : ∀ form ∈ body, form.Data named) :
    Computes named (evalBody eval scope last body) := by
  induction body generalizing last with
  | nil => exact .pure data
  | cons form rest ih =>
    refine .bind (computes _ _ (each form (by simp))) fun v data => ?_
    exact ih data fun later member => each later (by simp [member])

theorem evalArgs_computes (scope : Scope) {args : List Value} (each : ∀ v ∈ args, v.Data named) :
    Keeps (Store.Sound named) (fun vs => ∀ v ∈ vs, v.Data named) (Fault.Raised named)
      (evalArgs eval scope args) := by
  induction args with
  | nil => exact .pure (by simp)
  | cons arg rest ih =>
    refine .bind (computes _ _ (each arg (by simp))) fun v data => ?_
    refine .bind (ih fun later member => each later (by simp [member])) fun vs others => ?_
    exact .pure fun w member => (List.mem_cons.mp member).elim (· ▸ data) (others w)

theorem callFunction_computes (params : List Symbol) {body : List Value} (home : Scope)
    {args : List Value} (forms : ∀ form ∈ body, form.Data named) (each : ∀ v ∈ args, v.Data named) :
    Computes named (callFunction eval params body home args) := by
  refine .bind .get fun store sound => ?_
  have copied := (sound.environments home).bindParams params each
  refine .bind (.set (sound.enter copied)) fun _ _ => ?_
  exact evalBody_computes computes _ .nil forms

theorem apply_computes (room : Nat) {procedure : Value} {args : List Value}
    (bindable : procedure.Bindable named) (applicable : procedure.isProcedure = true)
    (each : ∀ v ∈ args, v.Data named) : Computes named (apply room eval procedure args) := by
  cases procedure with
  | primitive p =>
    simp only [apply]
    split
    · exact callPrimitive_computes p each
    · exact .throw trivial
  | function tag name params body home =>
    exact callFunction_computes computes params home bindable each
  | _ => exact absurd applicable (by simp [Value.isProcedure])

theorem evalHead_computes (scope : Scope) {head : Value} (data : head.Data named) :
    Keeps (Store.Sound named) (Value.Bindable named) (Fault.Raised named)
      (evalHead eval scope head) := by
  unfold evalHead
  split
  · next s =>
    refine .bind .get fun store sound => ?_
    split
    · next v bound => exact .pure (sound.environments scope s v bound)
    · exact .fail (.silent trivial rfl)
  · exact (computes scope head data).weaken fun _ => Value.Data.bindable

theorem evalCall_computes (room : Nat) (scope : Scope) {head : Value} {parts : List Value}
    (data : head.Data named) (each : ∀ v ∈ parts, v.Data named) :
    Computes named (evalCall room eval scope head parts) := by
  refine .bind (evalHead_computes computes scope data) fun procedure bindable => ?_
  split
  · next applicable =>
    refine .bind (evalArgs_computes computes scope each) fun args values => ?_
    exact apply_computes computes room bindable applicable values
  · exact .fail (.showing trivial rfl data)

theorem step_computes (room : Nat) (scope : Scope) {expr : Value} (data : expr.Data named) :
    Computes named (step room eval scope expr) := by
  cases data with
  | nil => exact .pure .nil
  | bool b => exact .pure (.bool b)
  | number x => exact .pure (.number x)
  | symbol admitted => exact reference_computes scope _
  | @list items each =>
    cases items with
    | nil => exact .pure .nil
    | cons head parts =>
      have others : ∀ v ∈ parts, v.Data named := fun v member => each v (by simp [member])
      simp only [step, evalForm]
      split
      · exact special_computes computes scope others _
      · exact evalCall_computes computes room scope (each head (by simp)) others

end Eval

theorem eval_computes {named : Symbol → Prop} (budget : Nat) :
    ∀ scope expr, expr.Data named → Eval.Computes named (eval budget scope expr) := by
  induction budget with
  | zero => exact fun _ _ _ => .throw trivial
  -- A step is given the evaluator of the budget before.
  | succ budget ih => exact fun scope _ data => Eval.step_computes ih budget scope data

end PocketLisp
