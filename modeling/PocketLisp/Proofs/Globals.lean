import PocketLisp.Proofs.Coupling
import PocketLisp.Proofs.DataOnly
import PocketLisp.Proofs.Frame

set_option autoImplicit false

namespace PocketLisp

inductive Value.Part (whole : Value) : Value → Prop
  | whole : Part whole whole
  | item {items : List Value} {v : Value} (part : Part whole (.list items)) (member : v ∈ items) :
      Part whole v

def Value.Written (v : Value) : Prop :=
  ∃ depth source program expr, Reader.read depth source = .ok program ∧ expr ∈ program ∧
    expr.Part v

theorem Value.Written.items (items : List Value) (written : (Value.list items).Written) :
    ∀ v ∈ items, v.Written := by
  obtain ⟨depth, source, program, expr, read, first, part⟩ := written
  exact fun v member => ⟨depth, source, program, expr, read, first, part.item member⟩

theorem Value.Written.data (v : Value) (written : v.Written) : v.IsData := by
  obtain ⟨depth, source, program, expr, read, first, part⟩ := written
  have reads : Ends (fun exprs : List Value => ∀ v ∈ exprs, v.IsData) _ _ :=
    Reader.read_reads trivial depth source fun _ _ _ => trivial
  rw [read] at reads
  induction part with
  | whole => exact reads expr first
  | item _ member ih => exact ih.items _ member

def Eval.Fragment.written : Eval.Fragment :=
  .ofData Value.Written Value.Written.data Value.Written.items

structure Environment.Lawful (env : Environment) : Prop where
  nodup : env.names.Nodup
  holds : env.Every fun _ => Eval.Holds Value.Written

namespace Environment.Lawful

variable {env : Environment}

theorem define (lawful : env.Lawful) (s : Symbol) {v : Value}
    (holds : Eval.Holds Value.Written v) : (env.define s v).Lawful :=
  ⟨nodup_define lawful.nodup s v, lawful.holds.define holds⟩

theorem undefine (lawful : env.Lawful) (s : Symbol) : (env.undefine s).Lawful :=
  ⟨nodup_undefine lawful.nodup s, lawful.holds.undefine s⟩

theorem bindParams (lawful : env.Lawful) (params : List Symbol) {args : List Value}
    (each : ∀ v ∈ args, v.IsData) : (env.bindParams params args).Lawful :=
  bindParams_induction (fun _ s _ lawful data => lawful.define s (.data data))
    (fun _ s lawful => lawful.undefine s) lawful params each

theorem initial : Environment.initial.Lawful where
  nodup := by decide
  holds := every_initial (fun _ => trivial) (.data (.bool true)) (.data .nil)

end Environment.Lawful

theorem Store.lawful_invariant : Eval.Invariant Eval.Fragment.written
    (fun store => ∀ scope, (store.environment scope).Lawful) where
  bound := fun lawful bound => (lawful _).holds _ _ bound
  define := by
    intro store scope head s list params body lawful admitted _ _
    have written : Eval.Holds Value.Written (.function 0 s.name params body scope) :=
      fun form member => Value.Written.items _ admitted form (by simp [member])
    exact each_define lawful (fun _ lawful => lawful.define s written) scope
  enter := by
    intro store _ _ params _ home _ lawful _ each
    exact each_enter lawful ((lawful home).bindParams params each)
  body := fun _ bound => bound
  record := fun lawful _ => lawful

namespace Session

variable {session : Session}

theorem lawful_ofGlobals {globals : Environment} (lawful : globals.Lawful) (scope : Scope) :
    ((Store.ofGlobals globals 0).environment scope).Lawful :=
  Store.each_ofGlobals lawful ⟨List.nodup_nil, Environment.every_empty⟩ 0 scope

theorem runExpr_lawful (lawful : session.globals.Lawful) (depth : Nat) {expr : Value}
    (written : expr.Written) :
    (session.runExpr depth expr).2.globals.Lawful := by
  have admitted : Eval.Fragment.written.expr 0 expr := written
  exact Store.lawful_invariant.eval depth admitted (lawful_ofGlobals lawful) 0

theorem runExpr_extends (session : Session) (depth : Nat) (expr : Value) :
    session.globals.Extends 0 (session.runExpr depth expr).2.globals := by
  have opened : (Store.ofGlobals session.globals 0).Open (· = 0) 0 := .inl rfl
  have frame := (eval_framed depth 0 expr opened _ (.refl _ _)).1
  exact frame.grown 0 (by simp [Store.ofGlobals]) rfl

theorem runProgram_extends (session : Session) (depth : Nat) (last : Value)
    (program : List Value) :
    session.globals.Extends 0 (session.runProgram depth last program).2.globals := by
  induction program generalizing session last with
  | nil => exact .refl 0 _
  | cons expr rest ih =>
    have first := session.runExpr_extends depth expr
    simp only [runProgram]
    rcases ran : session.runExpr depth expr with ⟨_ | v, next⟩ <;> rw [ran] at first
    · exact first
    · exact first.trans (ih next v)

theorem runProgram_lawful (lawful : session.globals.Lawful) (depth : Nat) (last : Value)
    {program : List Value} (written : ∀ expr ∈ program, expr.Written) :
    (session.runProgram depth last program).2.globals.Lawful := by
  induction program generalizing session last with
  | nil => exact lawful
  | cons expr rest ih =>
    have first := runExpr_lawful lawful depth (written expr (by simp))
    simp only [runProgram]
    rcases ran : session.runExpr depth expr with ⟨_ | v, next⟩ <;> rw [ran] at first
    · exact first
    · exact ih first v fun later member => written later (by simp [member])

theorem evalValue_extends (session : Session) (depth : Nat) (code : String) :
    session.globals.Extends 0 (session.evalValue depth code).2.globals := by
  unfold evalValue
  cases Reader.read depth code with
  | error fault => exact .refl 0 _
  | ok program => exact runProgram_extends { session with printed := [] } depth .nil program

theorem evalValue_lawful (lawful : session.globals.Lawful) (depth : Nat) (code : String) :
    (session.evalValue depth code).2.globals.Lawful := by
  unfold evalValue
  cases read : Reader.read depth code with
  | error fault => exact lawful
  | ok program =>
    have cleared : Environment.Lawful (Session.globals { session with printed := [] }) := lawful
    refine runProgram_lawful cleared depth .nil fun expr member => ?_
    exact ⟨depth, code, program, expr, read, member, .whole⟩

/-- What a symbol is bound to in a session. Parameters of a function are symbols by their type. -/
inductive Binds : Symbol → Value → Prop
  | primitive (p : Primitive) : Binds ⟨p.name⟩ (.primitive p)
  | t : Binds ⟨"t"⟩ (.bool true)
  | nil : Binds ⟨"nil"⟩ .nil
  | function {s : Symbol} {tag : Nat} {name : String} {params : List Symbol} {body : List Value}
      (written : ∀ form ∈ body, form.Written) : Binds s (.function tag name params body 0)

structure Standard (session : Session) : Prop where
  bindings : ∀ s v, session.globals.get? s = some v → Binds s v
  initial : ∀ s ∈ Environment.initial.names, session.globals.contains s = true
  listed : ∀ s, s ∈ session.globals.names ↔ session.globals.contains s = true
  nodup : session.globals.names.Nodup

theorem Standard.lawful (standard : session.Standard) : session.globals.Lawful where
  nodup := standard.nodup
  holds := by
    intro s v bound
    cases standard.bindings s v bound with
    | primitive p => trivial
    | t => exact .data (.bool true)
    | nil => exact .data .nil
    | function written => exact written

theorem standard_initial : Session.initial.Standard where
  bindings := Environment.every_initial .primitive .t .nil
  initial := fun s member => (Environment.mem_names_iff _ s).mp member
  listed := Environment.mem_names_iff _
  nodup := Environment.Lawful.initial.nodup

theorem Standard.grown (standard : session.Standard) {next : Session}
    (grown : session.globals.Extends 0 next.globals) (lawful : next.globals.Lawful) :
    next.Standard where
  bindings := by
    intro s v bound
    -- A binding is as it was, or it is a new function, at home in the global scope.
    by_cases same : next.globals.get? s = session.globals.get? s
    · exact standard.bindings s v (same ▸ bound)
    · obtain ⟨tag, name, params, body, defined⟩ := grown.values s same
      obtain rfl : v = .function tag name params body 0 := Option.some.inj (bound ▸ defined)
      exact .function (lawful.holds s _ bound)
  initial := by
    intro s member
    have before := (standard.listed s).mpr (standard.initial s member)
    exact (Environment.mem_names_iff _ s).mp (grown.names.subset before)
  listed := Environment.mem_names_iff _
  nodup := lawful.nodup

theorem Standard.runExpr (standard : session.Standard) (depth : Nat) {expr : Value}
    (written : expr.Written) :
    (session.runExpr depth expr).2.Standard :=
  standard.grown (session.runExpr_extends depth expr)
    (runExpr_lawful standard.lawful depth written)

theorem Standard.evalValue (standard : session.Standard) (depth : Nat) (code : String) :
    (session.evalValue depth code).2.Standard :=
  standard.grown (session.evalValue_extends depth code)
    (evalValue_lawful standard.lawful depth code)

theorem Reachable.standard (reached : session.Reachable) : session.Standard := by
  induction reached with
  | initial => exact standard_initial
  | evalValue _ depth code ih | evaluate _ depth code ih => exact ih.evalValue depth code

end Session

/-- In every session, symbols are bound as at first or to functions of the global environment, the
initial names stay bound, and running a program only adds names after those that are there. -/
theorem reachable_globals {session : Session} (reached : session.Reachable) :
    session.Standard ∧ Environment.initial.names.length = 25 ∧
      ∀ depth code, session.globals.names <+: (session.evalValue depth code).2.globals.names ∧
        session.globals.names <+: (session.evaluate depth code).2.globals.names := by
  refine ⟨reached.standard, by decide, fun depth code => ?_⟩
  have grown := (session.evalValue_extends depth code).names
  exact ⟨grown, grown⟩

theorem reachable_globals_nested :
    let session := ((Session.initial.evalValue 100
      "(defun f (x) (defun g (y) x) (g x)) (defun car (l) (f l))").2.evaluate 100
      "(f 1) (defun h () (car)) (h) (g 2)").2
    session.Reachable ∧ session.Standard ∧ Environment.initial.names.length = 25 ∧
      ∀ depth code, session.globals.names <+: (session.evalValue depth code).2.globals.names ∧
        session.globals.names <+: (session.evaluate depth code).2.globals.names := by
  intro session
  have reached : session.Reachable := .evaluate (.evalValue .initial _ _) _ _
  exact ⟨reached, reachable_globals reached⟩

end PocketLisp
