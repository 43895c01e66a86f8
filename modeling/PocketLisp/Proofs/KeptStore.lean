import PocketLisp.Session
import PocketLisp.Proofs.Globals
import PocketLisp.Proofs.Grammar
import PocketLisp.Proofs.Relocation
import PocketLisp.Proofs.Rules

set_option autoImplicit false

namespace PocketLisp

open Relocation (answer)

variable {r : Relocation} {lines : List String}

/-- The scopes and marks of the first store are in the second one, moved, and what the first has
printed comes after `lines` there. The second store may have scopes besides. -/
structure Store.Moved (r : Relocation) (lines : List String) (a b : Store) : Prop where
  inhabited : 0 < a.scopes.size
  size : b.scopes.size = a.scopes.size + r.scopes
  environments : ∀ scope, b.environment (r.scope scope) = r.environment (a.environment scope)
  printed : b.printed.toList = lines ++ a.printed.toList
  mark : b.nextMark = a.nextMark + r.marks

namespace Store.Moved

variable {a b : Store}

theorem scope_size (moved : Moved r lines a b) : r.scope a.scopes.size = b.scopes.size := by
  obtain ⟨others, size⟩ := Nat.exists_eq_add_of_lt moved.inhabited
  rw [moved.size, size, Nat.zero_add, Relocation.scope]
  exact Nat.add_right_comm others r.scopes 1

theorem scope_lt_size (moved : Moved r lines a b) (scope : Scope) :
    r.scope scope < b.scopes.size ↔ scope < a.scopes.size := by
  have inhabited := moved.inhabited
  rw [moved.size]
  cases scope with
  | zero => simp [Relocation.scope, inhabited]
  | succ scope =>
    rw [Relocation.scope, Nat.add_right_comm]
    exact Nat.add_lt_add_iff_right

theorem define (moved : Moved r lines a b) (scope : Scope) (s : Symbol) (v : Value) :
    Moved r lines (a.define scope s v) (b.define (r.scope scope) s (r.value v)) where
  inhabited := by rw [size_define]; exact moved.inhabited
  size := by rw [size_define, size_define, moved.size]
  environments := by
    intro other
    simp only [environment_define, r.scope_injective, moved.scope_lt_size, moved.environments]
    split
    · rw [r.environment_define]
    · rfl
  printed := moved.printed
  mark := moved.mark

theorem enter (moved : Moved r lines a b) (env : Environment) :
    Moved r lines (a.enter env).2 (b.enter (r.environment env)).2 where
  inhabited := by rw [size_enter]; exact Nat.succ_pos _
  size := by rw [size_enter, size_enter, moved.size, Nat.add_right_comm]
  environments := by
    intro scope
    simp only [environment_enter, ← moved.scope_size, r.scope_injective, moved.environments]
    split <;> rfl
  printed := moved.printed
  mark := moved.mark

theorem record (moved : Moved r lines a b) (printed : List String) :
    Moved r lines (a.record printed) (b.record printed) where
  inhabited := moved.inhabited
  size := moved.size
  environments := moved.environments
  printed := by simp [Store.record, moved.printed]
  mark := by simp only [Store.record, moved.mark, Nat.add_right_comm]

end Store.Moved

section Runs

variable {α β γ δ : Type}

def Moves (r : Relocation) (lines : List String) (value : α → β) (m : Run α) (other : Run β) :
    Prop :=
  ∀ a b, Store.Moved r lines a b →
    (other.run b).1 = answer r.fault value (m.run a).1 ∧
      Store.Moved r lines (m.run a).2 (other.run b).2

namespace Moves

variable {value : α → β} {result : γ → δ}

theorem pure (v : α) : Moves r lines value (pure v) (pure (value v)) :=
  fun _ _ moved => ⟨rfl, moved⟩

theorem throw (fault : Fault) :
    Moves r lines value (throw fault : Run α) (throw (r.fault fault) : Run β) :=
  fun _ _ moved => ⟨rfl, moved⟩

theorem fail (e : LispError) :
    Moves r lines value (PocketLisp.fail e : Run α) (PocketLisp.fail (r.error e) : Run β) :=
  throw (.error e)

theorem bind {m : Run α} {other : Run β} {next : α → Run γ} {later : β → Run δ}
    (first : Moves r lines value m other)
    (rest : ∀ v, Moves r lines result (next v) (later (value v))) :
    Moves r lines result (m >>= next) (other >>= later) := by
  intro a b moved
  obtain ⟨same, after⟩ := first a b moved
  rw [run_bind, run_bind]
  rcases left : m.run a with ⟨outcome, a'⟩
  rcases right : other.run b with ⟨outcome', b'⟩
  rw [left, right] at same after
  obtain rfl : outcome' = _ := same
  cases outcome with
  | ok v => exact rest v a' b' after
  | error fault => exact ⟨rfl, after⟩

theorem modify {update change : Store → Store}
    (step : ∀ a b, Store.Moved r lines a b → Store.Moved r lines (update a) (change b)) :
    Moves r lines id (modify update : Run PUnit) (modify change : Run PUnit) :=
  fun a b moved => ⟨rfl, step a b moved⟩

end Moves

end Runs

namespace Eval

theorem specialForm?_value (head : Value) : specialForm? (r.value head) = specialForm? head := by
  cases head <;> rfl

theorem params?_value (list : Value) : params? (r.value list) = params? list := by
  cases list with
  | list items =>
    simp only [Relocation.value, r.values_eq_map, params?]
    induction items with
    | nil => rfl
    | cons item rest ih =>
      cases item <;> simp only [List.map_cons, Relocation.value, paramSymbols?, ih]
  | _ => rfl

theorem reference_moves (scope : Scope) (s : Symbol) :
    Moves r lines r.value (reference scope s) (reference (r.scope scope) s) := by
  intro a b moved
  rw [run_reference, run_reference, moved.environments, r.get?_environment]
  cases (a.environment scope).get? s with
  | none => exact ⟨rfl, moved⟩
  | some v =>
    simp only [Option.map_some, r.isProcedure_value]
    split
    · exact ⟨rfl, moved⟩
    · exact ⟨rfl, moved⟩

theorem define_moves (scope : Scope) (parts : List Value) :
    Moves r lines r.value (define scope parts) (define (r.scope scope) (parts.map r.value)) := by
  match parts with
  | [] => exact .fail _
  | [name] => cases name <;> exact .fail _
  | name :: list :: body =>
    cases name with
    | symbol s =>
      simp only [List.map_cons, Relocation.value, define, params?_value]
      split
      · next params _ =>
        refine .bind (.modify fun a b moved => ?_) fun _ => .pure (Value.symbol s)
        have function := moved.define scope s (.function 0 s.name params body scope)
        rwa [Relocation.value, r.values_eq_map] at function
      · exact .fail _
    | _ => exact .fail _

theorem callPrimitive_moves (p : Primitive) (args : List Value) :
    Moves r lines r.value (callPrimitive p args) (callPrimitive p (args.map r.value)) := by
  intro a b moved
  rw [run_callPrimitive, run_callPrimitive, moved.mark, Relocation.call_values,
    Relocation.printed_values]
  cases p.call a.nextMark args with
  | ok v => exact ⟨rfl, moved.record _⟩
  | error e => exact ⟨rfl, moved⟩

section Rules

variable {eval : Evaluator}
  (moves : ∀ scope expr, Moves r lines r.value (eval scope expr)
    (eval (r.scope scope) (r.value expr)))

include moves

theorem special_moves (scope : Scope) (parts : List Value) (form : SpecialForm) :
    Moves r lines r.value (special eval scope parts form)
      (special eval (r.scope scope) (parts.map r.value) form) := by
  cases form with
  | quote =>
    match parts with
    | [datum] => exact .pure datum
    | [] | _ :: _ :: _ => exact .fail _
  | conditional =>
    match parts with
    | [condition, yes] =>
      refine .bind (moves scope condition) fun v => ?_
      rw [r.isTrue_value]
      split
      · exact moves scope yes
      · exact .pure Value.nil
    | [condition, yes, no] =>
      refine .bind (moves scope condition) fun v => ?_
      rw [r.isTrue_value]
      split
      · exact moves scope yes
      · exact moves scope no
    | [] | [_] | _ :: _ :: _ :: _ :: _ => exact .fail _
  | definition => exact define_moves scope parts

theorem evalBody_moves (scope : Scope) (last : Value) (body : List Value) :
    Moves r lines r.value (evalBody eval scope last body)
      (evalBody eval (r.scope scope) (r.value last) (body.map r.value)) := by
  induction body generalizing last with
  | nil => exact .pure last
  | cons form rest ih => exact .bind (moves scope form) ih

theorem evalArgs_moves (scope : Scope) (args : List Value) :
    Moves r lines (List.map r.value) (evalArgs eval scope args)
      (evalArgs eval (r.scope scope) (args.map r.value)) := by
  induction args with
  | nil => exact .pure []
  | cons arg rest ih =>
    refine .bind (moves scope arg) fun v => ?_
    exact .bind ih fun vs => .pure (v :: vs)

theorem callFunction_moves (params : List Symbol) (body : List Value) (home : Scope)
    (args : List Value) :
    Moves r lines r.value (callFunction eval params body home args)
      (callFunction eval params (body.map r.value) (r.scope home) (args.map r.value)) := by
  intro a b moved
  -- Each call enters the next scope of its store, and these correspond.
  rw [run_callFunction, run_callFunction, moved.environments, ← r.environment_bindParams,
    ← moved.scope_size]
  exact evalBody_moves moves _ .nil body _ _ (moved.enter _)

theorem apply_moves (room : Nat) (procedure : Value) (args : List Value) :
    Moves r lines r.value (apply room eval procedure args)
      (apply room eval (r.value procedure) (args.map r.value)) := by
  cases procedure with
  | primitive p =>
    simp only [Relocation.value, apply, r.reach_values]
    split
    · exact callPrimitive_moves p args
    · exact .throw .tooDeep
  | function tag name params body home =>
    rw [Relocation.value, r.values_eq_map]
    exact callFunction_moves moves params body home args
  | _ => exact .fail _

theorem evalHead_moves (scope : Scope) (head : Value) :
    Moves r lines r.value (evalHead eval scope head)
      (evalHead eval (r.scope scope) (r.value head)) := by
  cases head with
  | symbol s =>
    intro a b moved
    rw [Relocation.value, run_evalHead_symbol, run_evalHead_symbol, moved.environments,
      r.get?_environment]
    cases (a.environment scope).get? s with
    | none => exact ⟨rfl, moved⟩
    | some v => exact ⟨rfl, moved⟩
  | _ => exact moves scope _

theorem evalCall_moves (room : Nat) (scope : Scope) (head : Value) (parts : List Value) :
    Moves r lines r.value (evalCall room eval scope head parts)
      (evalCall room eval (r.scope scope) (r.value head) (parts.map r.value)) := by
  refine .bind (evalHead_moves moves scope head) fun procedure => ?_
  rw [r.isProcedure_value]
  split
  · exact .bind (evalArgs_moves moves scope parts) fun args =>
      apply_moves moves room procedure args
  · exact .fail _

theorem step_moves (room : Nat) (scope : Scope) (expr : Value) :
    Moves r lines r.value (step room eval scope expr)
      (step room eval (r.scope scope) (r.value expr)) := by
  match expr with
  | .nil | .bool _ | .number _ => exact .pure _
  | .symbol s => exact reference_moves scope s
  | .list [] => exact .pure Value.nil
  | .list (head :: parts) =>
    simp only [Relocation.value, r.values_eq_map, List.map_cons, step, evalForm, specialForm?_value]
    split
    · exact special_moves moves scope parts _
    · exact evalCall_moves moves room scope head parts
  | .text _ | .primitive _ | .function .. => exact .fail _

end Rules

end Eval

theorem eval_moves (budget : Nat) (scope : Scope) (expr : Value) :
    Moves r lines r.value (eval budget scope expr)
      (eval budget (r.scope scope) (r.value expr)) := by
  induction budget generalizing scope expr with
  | zero => exact .throw .tooDeep
  | succ budget ih => exact Eval.step_moves ih budget scope expr

section Read

theorem Reader.readWord_fixed (r : Relocation) (text : String) :
    r.value (readWord text) = readWord text := by
  unfold readWord
  split
  · next x literal =>
    obtain ⟨⟨negative, decimal⟩, -, number⟩ := Option.map_eq_some_iff.mp literal
    have rounded : decimal.toNumber negative = x := number
    rw [← rounded, Relocation.value, Decimal.toNumber_eq, r.number_ofRank]
  · rfl

mutual

theorem Reader.Derives.fixed (r : Relocation) {tokens : List Token} {v : Value} :
    Derives tokens v → r.value v = v
  | .word text => readWord_fixed r text
  | .list inner => by rw [Relocation.value, inner.fixed r]
  | .quote quoted => by simp [Relocation.value, quoted.fixed r]

theorem Reader.DerivesAll.fixed (r : Relocation) {tokens : List Token} {vs : List Value} :
    DerivesAll tokens vs → r.values vs = vs
  | .nil => rfl
  | .cons one more => by rw [Relocation.values, one.fixed r, more.fixed r]

end

theorem Value.Written.fixed {v : Value} (written : v.Written) (r : Relocation) : r.value v = v := by
  obtain ⟨depth, source, program, expr, read, first, part⟩ := written
  have program_fixed := (Reader.readAll_eq_ok.mp read).1.fixed r
  induction part with
  | whole => exact (r.values_eq_self_iff program).mp program_fixed expr first
  | item _ member ih =>
    rw [Relocation.value, Value.list.injEq] at ih
    exact (r.values_eq_self_iff _).mp ih _ member

end Read

def Fault.report : Fault → Option (ErrorKind × String)
  | .error e => some (e.kind, e.message)
  | .tooDeep => none

theorem Fault.report_moved (r : Relocation) (fault : Fault) :
    (r.fault fault).report = fault.report := by
  cases fault with
  | error e => simp only [Relocation.fault, report, r.kind_error, r.message_error]
  | tooDeep => rfl

namespace Store

-- A program in a store that is kept. What earlier programs printed is forgotten first, but not
-- the scopes of their calls nor the marks they were given.
def evalValue (depth : Nat) (store : Store) (code : String) : Except Fault Value × Store :=
  let store := { store with printed := #[] }
  match Reader.read depth code with
  | .ok program => (Eval.evalBody (eval depth) 0 .nil program).run store
  | .error fault => (.error fault, store)

def evaluate (depth : Nat) (store : Store) (code : String) :
    Except Fault Session.Answer × Store :=
  let (outcome, store) := store.evalValue depth code
  (outcome >>= (Session.answer? depth · store.printed.toList), store)

structure Serves (store : Store) (session : Session) : Prop where
  globals : store.environment 0 = session.globals
  inhabited : 0 < store.scopes.size
  printed : store.printed.toList = session.printed

end Store

theorem Session.answer?_moved (r : Relocation) (depth : Nat) (v : Value) (printed : List String) :
    answer? depth (r.value v) printed = answer? depth v printed := by
  rw [answer?, answer?, Session.answer, Session.answer, r.depth_value, r.print_value]

theorem Session.Standard.fixed {session : Session} (standard : session.Standard) (r : Relocation) :
    r.environment session.globals = session.globals := by
  refine r.environment_eq_self standard.nodup fun s v bound => ?_
  cases standard.bindings s v bound with
  | primitive p => rfl
  | t => rfl
  | nil => rfl
  | function written =>
    have body := (r.values_eq_self_iff _).mpr fun form member => (written form member).fixed r
    rw [Relocation.value, body, Relocation.scope]

namespace Store.Serves

variable {depth : Nat} {store : Store} {session : Session}

def relocation (store : Store) : Relocation :=
  ⟨store.scopes.size - 1, store.nextMark⟩

theorem moved (serves : store.Serves session) (standard : session.Standard) :
    Moved (relocation store) session.printed (ofGlobals session.globals 0) store where
  inhabited := Nat.one_pos
  size := by
    have inhabited := serves.inhabited
    simp only [ofGlobals, relocation, List.size_toArray, List.length_singleton]
    omega
  environments := by
    intro scope
    rw [environment_ofGlobals]
    cases scope with
    | zero => rw [Relocation.scope, serves.globals, if_pos rfl, standard.fixed]
    | succ scope =>
      have inhabited := serves.inhabited
      rw [if_neg (Nat.succ_ne_zero scope)]
      refine environment_outside ?_
      simp only [Relocation.scope, relocation]
      omega
  printed := by simp [ofGlobals, serves.printed]
  mark := by simp [ofGlobals, relocation]

theorem runExpr (serves : store.Serves session) (standard : session.Standard) (depth : Nat)
    {expr : Value} (written : expr.Written) :
    ∃ r : Relocation, ((eval depth 0 expr).run store).1 =
        answer r.fault r.value (session.runExpr depth expr).1 ∧
      ((eval depth 0 expr).run store).2.Serves (session.runExpr depth expr).2 := by
  have runs := eval_moves depth 0 expr _ _ (serves.moved standard)
  -- What was read from a text has no marks and no functions, and stays as it is.
  rw [Relocation.scope, written.fixed] at runs
  obtain ⟨same, after⟩ := runs
  have globals := after.environments 0
  rw [Relocation.scope] at globals
  refine ⟨relocation store, same, ?_, ?_, ?_⟩
  · exact globals.trans ((standard.runExpr depth written).fixed _)
  · rw [after.size]
    exact Nat.add_pos_left after.inhabited _
  · exact after.printed

theorem runProgram (serves : store.Serves session) (standard : session.Standard) (depth : Nat)
    (last : Value) (r : Relocation) {program : List Value}
    (written : ∀ expr ∈ program, expr.Written) :
    ∃ r' : Relocation,
      ((Eval.evalBody (eval depth) 0 (r.value last) program).run store).1 =
        answer r'.fault r'.value (session.runProgram depth last program).1 ∧
      ((Eval.evalBody (eval depth) 0 (r.value last) program).run store).2.Serves
        (session.runProgram depth last program).2 := by
  -- A session starts every expression in a new store, so each is moved by a distance of its own.
  induction program generalizing store session last r with
  | nil => exact ⟨r, rfl, serves⟩
  | cons expr rest ih =>
    have first := written expr (by simp)
    obtain ⟨next, same, after⟩ := serves.runExpr standard depth first
    have standard' := standard.runExpr depth first
    simp only [Eval.evalBody, run_bind, Session.runProgram]
    rcases kept : (eval depth 0 expr).run store with ⟨outcome, store'⟩
    rcases ran : session.runExpr depth expr with ⟨fault | v, session'⟩
    all_goals
      rw [kept, ran] at same after
      rw [ran] at standard'
      obtain rfl : outcome = _ := same
    · exact ⟨next, rfl, after⟩
    · exact ih after standard' v next fun later member => written later (by simp [member])

theorem evaluate (serves : store.Serves session) (standard : session.Standard) (depth : Nat)
    (code : String) :
    (store.evaluate depth code).1.mapError Fault.report =
        (session.evaluate depth code).1.mapError Fault.report ∧
      (store.evaluate depth code).2.Serves (session.evaluate depth code).2 := by
  have cleared : Serves { store with printed := #[] } { session with printed := [] } :=
    ⟨serves.globals, serves.inhabited, rfl⟩
  simp only [Store.evaluate, Store.evalValue, Session.evaluate, Session.evalValue]
  cases read : Reader.read depth code with
  | error fault => exact ⟨rfl, cleared⟩
  | ok program =>
    have written : ∀ expr ∈ program, expr.Written :=
      fun expr member => ⟨depth, code, program, expr, read, member, .whole⟩
    have standard' : Session.Standard { session with printed := [] } :=
      ⟨standard.bindings, standard.initial, standard.listed, standard.nodup⟩
    obtain ⟨r, same, after⟩ := cleared.runProgram standard' depth .nil ⟨0, 0⟩ written
    rw [Relocation.value] at same after
    refine ⟨?_, after⟩
    rw [same, after.printed]
    cases (Session.runProgram depth { session with printed := [] } .nil program).1 with
    | ok v => exact congrArg (Except.mapError Fault.report) (Session.answer?_moved r depth v _)
    | error fault => exact congrArg Except.error (Fault.report_moved r fault)

end Store.Serves

end PocketLisp
