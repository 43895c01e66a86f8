import PocketLisp.Proofs.KeptStore

set_option autoImplicit false

namespace PocketLisp

def DefinitionFree (code : String) : Prop :=
  ∀ token ∈ Token.scan code, Symbol.ofText token.text ≠ ⟨"defun"⟩

instance (code : String) : Decidable (DefinitionFree code) :=
  inferInstanceAs (Decidable (∀ token ∈ Token.scan code, Symbol.ofText token.text ≠ ⟨"defun"⟩))

namespace Eval

-- In the global scope only expressions without the symbol `defun` are evaluated.
def Fragment.definitionFree : Fragment where
  expr := fun scope v => scope = 0 → v.Data (· ≠ ⟨"defun"⟩)
  bound := fun _ => True
  value := fun _ => True
  data := fun _ _ => trivial
  quoted := fun _ _ => trivial
  parts := fun admitted _ v member global =>
    (admitted global).items v (List.mem_cons_of_mem _ member)
  head := fun admitted _ global => (admitted global).items _ List.mem_cons_self
  call := Fragment.all.call
  plain := fun _ _ => trivial
  applied := fun _ => trivial

theorem specialForm?_ne_definition {head : Value} (data : head.Data (· ≠ ⟨"defun"⟩)) :
    specialForm? head ≠ some .definition := by
  intro definition
  cases data with
  | symbol other =>
    rcases SpecialForm.ofSymbol?_eq_some definition with ⟨form, -⟩ | ⟨form, -⟩ | ⟨-, name⟩
    · contradiction
    · contradiction
    · exact other name
  | _ => contradiction

end Eval

theorem Store.globals_invariant (globals : Environment) :
    Eval.Invariant Eval.Fragment.definitionFree
      (fun store => store.environment 0 = globals ∧ 0 < store.scopes.size) where
  bound := fun _ _ => trivial
  define := by
    intro store scope head s list params body kept admitted definition _
    have local_scope : 0 ≠ scope := by
      rintro rfl
      exact Eval.specialForm?_ne_definition ((admitted rfl).items head (by simp)) definition
    rw [environment_define_other store local_scope, size_define]
    exact kept
  enter := by
    intro store _ _ params _ home args kept _ _
    rw [environment_enter_old store _ kept.2, size_enter]
    exact ⟨kept.1, Nat.succ_pos _⟩
  -- The body of a call is evaluated in a scope of its own.
  body := fun kept _ _ _ global => absurd global (Nat.ne_of_gt kept.2)
  record := fun kept _ => kept

namespace Session

variable {session : Session}

theorem runExpr_globals (depth : Nat) (session : Session) {expr : Value}
    (free : expr.Data (· ≠ ⟨"defun"⟩)) :
    (session.runExpr depth expr).2.globals = session.globals := by
  have admitted : Eval.Fragment.definitionFree.expr 0 expr := fun _ => free
  have start : (Store.ofGlobals session.globals 0).environment 0 = session.globals ∧
      0 < (Store.ofGlobals session.globals 0).scopes.size := ⟨rfl, Nat.one_pos⟩
  exact ((Store.globals_invariant session.globals).eval depth admitted start).1

theorem runProgram_globals (depth : Nat) (session : Session) (last : Value)
    {program : List Value} (free : ∀ expr ∈ program, expr.Data (· ≠ ⟨"defun"⟩)) :
    (session.runProgram depth last program).2.globals = session.globals := by
  induction program generalizing session last with
  | nil => rfl
  | cons expr rest ih =>
    have first := session.runExpr_globals depth (free expr (by simp))
    simp only [runProgram]
    rcases ran : session.runExpr depth expr with ⟨_ | v, next⟩ <;> rw [ran] at first
    · exact first
    · exact (ih next v fun later member => free later (by simp [member])).trans first

theorem evaluate_globals (depth : Nat) (session : Session) {code : String}
    (free : DefinitionFree code) :
    (session.evaluate depth code).2.globals = session.globals := by
  have admits : Reader.Admits (· ≠ ⟨"defun"⟩) (Token.scan code) :=
    fun text member _ => free (.word text) member
  have reads := Reader.read_reads (by decide) depth code admits
  simp only [evaluate, evalValue]
  cases read : Reader.read depth code with
  | error fault => rfl
  | ok program =>
    rw [read] at reads
    exact runProgram_globals depth { session with printed := [] } .nil reads

-- What was printed before is forgotten, so the global environment is all that counts.
theorem evaluate_of_globals {session other : Session} (same : session.globals = other.globals)
    (depth : Nat) (code : String) : session.evaluate depth code = other.evaluate depth code := by
  rcases session with ⟨globals, printed⟩
  rcases other with ⟨globals', printed'⟩
  obtain rfl : globals = globals' := same
  rfl

def evaluateAll (depth : Nat) (session : Session) : List String → Session
  | [] => session
  | code :: rest => (session.evaluate depth code).2.evaluateAll depth rest

theorem evaluateAll_globals (depth : Nat) (session : Session) {codes : List String}
    (free : ∀ code ∈ codes, DefinitionFree code) :
    (session.evaluateAll depth codes).globals = session.globals := by
  induction codes generalizing session with
  | nil => rfl
  | cons code rest ih =>
    have first := session.evaluate_globals depth (free code (by simp))
    exact (ih _ fun later member => free later (by simp [member])).trans first

theorem Standard.evaluateAll (standard : session.Standard) (depth : Nat) (codes : List String) :
    (session.evaluateAll depth codes).Standard := by
  induction codes generalizing session with
  | nil => exact standard
  | cons code rest ih => exact ih (standard.evalValue depth code)

end Session

namespace Store

def evaluateAll (depth : Nat) (store : Store) : List String → Store
  | [] => store
  | code :: rest => (store.evaluate depth code).2.evaluateAll depth rest

theorem Serves.evaluateAll {store : Store} {session : Session} (serves : store.Serves session)
    (standard : session.Standard) (depth : Nat) (codes : List String) :
    (store.evaluateAll depth codes).Serves (session.evaluateAll depth codes) := by
  induction codes generalizing store session with
  | nil => exact serves
  | cons code rest ih =>
    exact ih (serves.evaluate standard depth code).2 (standard.evalValue depth code)

end Store

/-- Code without definitions leaves the global environment as it was, and evaluated again, after
other such code, it has the same outcome. So it is too where the session's store is kept and the
evaluations leave scopes, printed lines and marks behind. -/
theorem Session.evaluate_repeats {session : Session} (reached : session.Reachable) (depth : Nat)
    {code : String} (free : DefinitionFree code) {others : List String}
    (others_free : ∀ other ∈ others, DefinitionFree other) :
    (session.evaluate depth code).2.globals = session.globals ∧
    (((session.evaluate depth code).2.evaluateAll depth others).evaluate depth code).1 =
      (session.evaluate depth code).1 ∧
    ∀ store : Store, store.Serves session →
      let later := (store.evaluate depth code).2.evaluateAll depth others
      later.environment 0 = session.globals ∧
        (later.evaluate depth code).1.mapError Fault.report =
          (session.evaluate depth code).1.mapError Fault.report := by
  have all_free : ∀ other ∈ code :: others, DefinitionFree other :=
    List.forall_mem_cons.mpr ⟨free, others_free⟩
  have unchanged : (session.evaluateAll depth (code :: others)).globals = session.globals :=
    session.evaluateAll_globals depth all_free
  refine ⟨session.evaluate_globals depth free, ?_, fun store serves => ?_⟩
  · exact congrArg Prod.fst (evaluate_of_globals unchanged depth code)
  · have later := serves.evaluateAll reached.standard depth (code :: others)
    have again := (later.evaluate (reached.standard.evaluateAll depth _) depth code).1
    rw [evaluate_of_globals unchanged depth code] at again
    exact ⟨later.globals.trans unchanged, again⟩

theorem Session.evaluate_repeats_printing :
    let source := "(defun f (x) (defun g (y) (print x y)) (g (+ x 1)))"
    let session := (Session.initial.evaluate 100 source).2
    let store := ((Store.ofGlobals .initial 0).evaluate 100 source).2
    let others := ["(f 2)", "(f 'a)"]
    let later := (store.evaluate 100 "(f 1)").2.evaluateAll 100 others
    session.Reachable ∧ DefinitionFree "(f 1)" ∧
      (∀ other ∈ others, DefinitionFree other) ∧ store.Serves session ∧
      (session.evaluate 100 "(f 1)").2.globals = session.globals ∧
      (((session.evaluate 100 "(f 1)").2.evaluateAll 100 others).evaluate 100 "(f 1)").1 =
        (session.evaluate 100 "(f 1)").1 ∧
      later.environment 0 = session.globals ∧
      (later.evaluate 100 "(f 1)").1.mapError Fault.report =
        (session.evaluate 100 "(f 1)").1.mapError Fault.report := by
  intro source session store others later
  have reached : session.Reachable := .evaluate .initial 100 source
  have free : DefinitionFree "(f 1)" := by decide
  have others_free : ∀ other ∈ others, DefinitionFree other := by decide
  have opened : (Store.ofGlobals .initial 0).Serves .initial := ⟨rfl, Nat.one_pos, rfl⟩
  have serves : store.Serves session := (opened.evaluate standard_initial 100 source).2
  obtain ⟨unchanged, again, kept⟩ := evaluate_repeats reached 100 free others_free
  exact ⟨reached, free, others_free, serves, unchanged, again, kept store serves⟩

end PocketLisp
