import PocketLisp.Session
import PocketLisp.Proofs.Coupling

set_option autoImplicit false

namespace PocketLisp

variable {visible : Symbol → Prop}

def Environment.AgreesOn (visible : Symbol → Prop) (a b : Environment) : Prop :=
  ∀ s, visible s → a.get? s = b.get? s

namespace Environment.AgreesOn

variable {a b : Environment}

theorem define (agrees : AgreesOn visible a b) (s : Symbol) (v : Value) :
    AgreesOn visible (a.define s v) (b.define s v) := by
  intro t seen
  rw [get?_define, get?_define, agrees t seen]

theorem undefine (agrees : AgreesOn visible a b) (s : Symbol) :
    AgreesOn visible (a.undefine s) (b.undefine s) := by
  intro t seen
  rw [get?_undefine, get?_undefine, agrees t seen]

theorem bindParams (agrees : AgreesOn visible a b) (params : List Symbol) (args : List Value) :
    AgreesOn visible (a.bindParams params args) (b.bindParams params args) := by
  induction params generalizing a b args with
  | nil => exact agrees
  | cons p ps ih =>
    cases args with
    | nil => exact ih (agrees.undefine p) []
    | cons v vs => exact ih (agrees.define p v) vs

end Environment.AgreesOn

structure Store.AgreesOn (visible : Symbol → Prop) (a b : Store) : Prop where
  size : a.scopes.size = b.scopes.size
  environments : ∀ scope, (a.environment scope).AgreesOn visible (b.environment scope)
  printed : a.printed = b.printed
  mark : a.nextMark = b.nextMark

namespace Store.AgreesOn

variable {a b : Store}

theorem define (agrees : AgreesOn visible a b) (scope : Scope) (s : Symbol) (v : Value) :
    AgreesOn visible (a.define scope s v) (b.define scope s v) where
  size := by rw [size_define, size_define, agrees.size]
  environments := by
    intro other
    rw [environment_define, environment_define, agrees.size]
    split
    · exact (agrees.environments scope).define s v
    · exact agrees.environments other
  printed := agrees.printed
  mark := agrees.mark

theorem enter (agrees : AgreesOn visible a b) {env copy : Environment}
    (copied : env.AgreesOn visible copy) : AgreesOn visible (a.enter env).2 (b.enter copy).2 where
  size := by rw [size_enter, size_enter, agrees.size]
  environments := by
    intro scope
    rw [environment_enter, environment_enter, agrees.size]
    split
    · exact copied
    · exact agrees.environments scope
  printed := agrees.printed
  mark := agrees.mark

theorem record (agrees : AgreesOn visible a b) (lines : List String) :
    AgreesOn visible (a.record lines) (b.record lines) where
  size := agrees.size
  environments := agrees.environments
  printed := by simp [Store.record, agrees.printed]
  mark := by simp [Store.record, agrees.mark]

theorem ofGlobals {globals others : Environment} (agrees : globals.AgreesOn visible others)
    (mark : Nat) : AgreesOn visible (Store.ofGlobals globals mark) (.ofGlobals others mark) where
  size := rfl
  environments := by
    intro scope
    rw [environment_ofGlobals, environment_ofGlobals]
    split
    · exact agrees
    · exact fun _ _ => rfl
  printed := rfl
  mark := rfl

end Store.AgreesOn

namespace Eval

/-- Evaluating the fragment in good environments looks up visible symbols only and keeps the
environments good. -/
structure View (fragment : Fragment) (visible : Symbol → Prop) (good : Environment → Prop) :
    Prop where
  symbol : ∀ {scope s}, fragment.expr scope (.symbol s) → visible s
  head : ∀ {scope s parts}, fragment.expr scope (.list (.symbol s :: parts)) →
    SpecialForm.ofSymbol? s = none → visible s
  empty : good .empty
  kept : Invariant fragment fun store => ∀ scope, good (store.environment scope)

theorem View.all : View Fragment.all (fun _ => True) (fun _ => True) where
  symbol := fun _ => trivial
  head := fun _ _ => trivial
  empty := trivial
  kept :=
    { bound := fun _ _ => trivial
      define := fun _ _ _ _ _ => trivial
      enter := fun _ _ _ _ => trivial
      body := fun _ _ _ _ => trivial
      record := fun _ _ _ => trivial }

variable {fragment : Fragment} {good : Environment → Prop}

theorem View.coupling (view : View fragment visible good) :
    Coupling fragment fun a b => a.AgreesOn visible b ∧ ∀ scope, good (a.environment scope) where
  size := fun related => related.1.size
  mark := fun related => related.1.mark
  symbol := fun related admitted => related.1.environments _ _ (view.symbol admitted)
  head := fun related admitted call => related.1.environments _ _ (view.head admitted call)
  bound := fun related => view.kept.bound related.2
  define := fun related admitted definition known =>
    ⟨related.1.define _ _ _, view.kept.define related.2 admitted definition known⟩
  enter := fun related bound each =>
    ⟨related.1.enter ((related.1.environments _).bindParams _ _),
      view.kept.enter related.2 bound each⟩
  body := fun related => view.kept.body related.2
  record := fun related each => ⟨related.1.record _, view.kept.record related.2 each⟩

end Eval

namespace Session

theorem runExpr_of_run {depth : Nat} {session : Session} {expr : Value}
    {outcome : Except Fault Value} {store : Store}
    (ran : (eval depth 0 expr).run (.ofGlobals session.globals 0) = (outcome, store)) :
    session.runExpr depth expr =
      (outcome, ⟨store.environment 0, session.printed ++ store.printed.toList⟩) := by
  rw [runExpr, ran]

def answers (depth : Nat) (session : Session) : List String → List (Except Fault Answer)
  | [] => []
  | code :: rest =>
    (session.evaluate depth code).1 :: (session.evaluate depth code).2.answers depth rest

-- Each program forgets what was printed before it.
theorem answers_cleared (depth : Nat) (session : Session) (codes : List String) :
    answers depth { session with printed := [] } codes = session.answers depth codes := by
  cases codes <;> rfl

structure Agree (visible : Symbol → Prop) (good : Environment → Prop) (a b : Session) : Prop where
  globals : a.globals.AgreesOn visible b.globals
  good : good a.globals
  printed : a.printed = b.printed

def Within (depth : Nat) (fragment : Eval.Fragment) (code : String) : Prop :=
  ∀ program, Reader.read depth code = .ok program →
    ∀ expr ∈ program, fragment.expr 0 expr

namespace Agree

variable {depth : Nat} {fragment : Eval.Fragment} {good : Environment → Prop} {a b : Session}
  (view : Eval.View fragment visible good)

include view

theorem runExpr (agree : Agree visible good a b) {expr : Value}
    (admitted : fragment.expr 0 expr) :
    (a.runExpr depth expr).1 = (b.runExpr depth expr).1 ∧
      Agree visible good (a.runExpr depth expr).2 (b.runExpr depth expr).2 := by
  obtain ⟨same, ⟨after, kept⟩, -⟩ := view.coupling.eval depth 0 expr admitted _ _
    ⟨.ofGlobals agree.globals 0, Store.each_ofGlobals agree.good view.empty 0⟩
  rcases left : (eval depth 0 expr).run (.ofGlobals a.globals 0) with ⟨outcome, store⟩
  rcases right : (eval depth 0 expr).run (.ofGlobals b.globals 0) with ⟨outcome', other⟩
  rw [left, right] at same after
  rw [left] at kept
  rw [runExpr_of_run left, runExpr_of_run right]
  exact ⟨same, after.environments 0, kept 0, by rw [agree.printed, after.printed]⟩

theorem runProgram (agree : Agree visible good a b) (last : Value) {program : List Value}
    (admitted : ∀ expr ∈ program, fragment.expr 0 expr) :
    (a.runProgram depth last program).1 = (b.runProgram depth last program).1 ∧
      Agree visible good (a.runProgram depth last program).2
        (b.runProgram depth last program).2 := by
  induction program generalizing a b last with
  | nil => exact ⟨rfl, agree⟩
  | cons expr rest ih =>
    obtain ⟨same, after⟩ := agree.runExpr view (admitted expr (by simp))
    simp only [Session.runProgram]
    rcases left : a.runExpr depth expr with ⟨outcome, a'⟩
    rcases right : b.runExpr depth expr with ⟨outcome', b'⟩
    rw [left, right] at same after
    obtain rfl : outcome = outcome' := same
    cases outcome with
    | ok v => exact ih after v fun later member => admitted later (by simp [member])
    | error fault => exact ⟨rfl, after⟩

theorem evalValue (agree : Agree visible good a b) {code : String}
    (within : Within depth fragment code) :
    (a.evalValue depth code).1 = (b.evalValue depth code).1 ∧
      Agree visible good (a.evalValue depth code).2 (b.evalValue depth code).2 := by
  have cleared : Agree visible good { a with printed := [] } { b with printed := [] } :=
    ⟨agree.globals, agree.good, rfl⟩
  unfold Session.evalValue
  cases read : Reader.read depth code with
  | ok program => exact cleared.runProgram view .nil (within program read)
  | error fault => exact ⟨rfl, cleared⟩

theorem evaluate (agree : Agree visible good a b) {code : String}
    (within : Within depth fragment code) :
    (a.evaluate depth code).1 = (b.evaluate depth code).1 ∧
      Agree visible good (a.evaluate depth code).2 (b.evaluate depth code).2 := by
  obtain ⟨same, after⟩ := agree.evalValue view within
  simp only [Session.evaluate]
  exact ⟨by rw [same, after.printed], after⟩

theorem answers (agree : Agree visible good a b) {codes : List String}
    (within : ∀ code ∈ codes, Within depth fragment code) :
    a.answers depth codes = b.answers depth codes := by
  induction codes generalizing a b with
  | nil => rfl
  | cons code rest ih =>
    obtain ⟨same, after⟩ := agree.evaluate view (within code (by simp))
    have later := ih after fun other member => within other (by simp [member])
    rw [Session.answers, Session.answers, same, later]

end Agree

end Session

end PocketLisp
