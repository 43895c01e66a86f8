import PocketLisp.Proofs.DataOnly
import PocketLisp.Proofs.Joining
import PocketLisp.Proofs.ReadingLimit

set_option autoImplicit false

namespace PocketLisp

namespace Reader

inductive Stops : Fault → Prop
  | unmatched : Stops (.error .unmatchedParenthesis)
  | unexpected : Stops (.error .unexpectedParenthesis)
  | dangling : Stops (.error .danglingQuote)
  | tooDeep : Stops .tooDeep

section Stopping

variable {f : List Token → Except Fault (Value × List Token)}
  (stops : ∀ tokens, tokens ≠ [] → Ends (fun _ => True) Stops (f tokens))

include stops

theorem readItems_stops (bound tokens : List Token) :
    Ends (fun _ => True) Stops (readItems f bound tokens) := by
  fun_induction readItems f bound tokens with
  | case1 => exact .unmatched
  | case2 => exact .unmatched
  | case3 => trivial
  | case4 _ bound tokens some _ ih =>
    refine .bind (stops tokens some) fun read _ => ?_
    exact .bind (ih read.2) fun _ _ => trivial

theorem readQuoted_stops (tokens : List Token) :
    Ends (fun _ => True) Stops (readQuoted f tokens) := by
  unfold readQuoted
  split
  · exact .dangling
  · exact .dangling
  · next some _ => exact .bind (stops tokens some) fun _ _ => trivial

theorem readMany_stops (bound tokens : List Token) :
    Ends (fun _ => True) Stops (readMany f bound tokens) := by
  fun_induction readMany f bound tokens with
  | case1 => trivial
  | case2 => exact .tooDeep
  | case3 _ bound tokens some ih =>
    refine .bind (stops tokens some) fun read _ => ?_
    exact .bind (ih read.2) fun _ _ => trivial

end Stopping

theorem readOne_stops (depth : Nat) :
    ∀ tokens, tokens ≠ [] → Ends (fun _ => True) Stops (readOne depth tokens) := by
  induction depth with
  | zero =>
    intro tokens some
    obtain ⟨token, rest, rfl⟩ := List.exists_cons_of_ne_nil some
    exact .tooDeep
  | succ depth ih =>
    intro tokens some
    obtain ⟨token, rest, rfl⟩ := List.exists_cons_of_ne_nil some
    cases token with
    | lparen => exact .bind (readItems_stops ih _ rest) fun _ _ => trivial
    | rparen => exact .unexpected
    | quote => exact readQuoted_stops ih rest
    | word text => trivial

theorem read_stops (depth : Nat) (source : String) :
    Ends (fun _ => True) Stops (read depth source) :=
  readMany_stops (readOne_stops depth) _ _

-- The reader with another answer where it is asked for an expression and no token is left.
def readOneElse (atEnd : Except Fault (Value × List Token)) :
    (depth : Nat) → List Token → Except Fault (Value × List Token)
  | _, [] => atEnd
  | 0, _ => .error .tooDeep
  | depth + 1, token :: rest =>
    match token with
    | .lparen => do
      let (items, rest) ← readItems (readOneElse atEnd depth) (token :: rest) rest
      return (.list items, rest)
    | .rparen => .error (.error .unexpectedParenthesis)
    | .quote => readQuoted (readOneElse atEnd depth) rest
    | .word text => .ok (readWord text, rest)

theorem readOneElse_agrees (atEnd : Except Fault (Value × List Token)) (depth : Nat) :
    ∀ tokens, tokens ≠ [] →
      Agrees (fun _ => False) (readOneElse atEnd depth tokens) (readOne depth tokens) := by
  induction depth with
  | zero =>
    intro tokens some
    obtain ⟨token, rest, rfl⟩ := List.exists_cons_of_ne_nil some
    exact .inl rfl
  | succ depth ih =>
    intro tokens some
    obtain ⟨token, rest, rfl⟩ := List.exists_cons_of_ne_nil some
    cases token with
    | lparen => exact .bind (readItems_agrees ih _ rest) fun _ => .inl rfl
    | quote => exact readQuoted_agrees ih rest
    | rparen | word => exact .inl rfl

end Reader

namespace Eval

def NamesSymbols (parts : List Value) (s : Symbol) (params : List Symbol)
    (body : List Value) : Prop :=
  parts = .symbol s :: .list (params.map .symbol) :: body

-- A definition binds a symbol, or it fails and binds nothing.
inductive DefinitionRuns (scope : Scope) (store : Store) (parts : List Value) :
    Except Fault Value × Store → Prop
  | binds {s : Symbol} {params : List Symbol} {body : List Value}
      (named : NamesSymbols parts s params body) {procedure : Value}
      (made : procedure = .function 0 s.name params body scope)
      (checked : (store.environment scope).bind (.symbol s) procedure =
        .ok ((store.environment scope).define s procedure)) :
      DefinitionRuns scope store parts (.ok (.symbol s), store.define scope s procedure)
  | refuses {e : LispError} (unnamed : ∀ s params body, ¬ NamesSymbols parts s params body)
      (malformed : e.kind = .malformedForm) :
      DefinitionRuns scope store parts (.error (.error e), store)

theorem define_runs (scope : Scope) (parts : List Value) (store : Store) :
    DefinitionRuns scope store parts ((define scope parts).run store) := by
  unfold define
  split
  · next s list body =>
    cases listed : params? list with
    | some params =>
      obtain rfl := params?_eq_some_iff.mp listed
      exact .binds rfl rfl rfl
    | none =>
      refine .refuses (fun t params forms named => ?_) rfl
      obtain ⟨-, rfl, -⟩ : _ ∧ list = .list (params.map .symbol) ∧ _ := by
        simpa [NamesSymbols] using named
      rw [params?_eq_some_iff.mpr rfl] at listed
      contradiction
  · next name list body other =>
    refine .refuses (fun s params forms named => ?_) rfl
    exact other s (List.cons.inj named).1
  · next short named =>
    refine .refuses (fun s params forms parts => ?_) rfl
    exact named _ _ _ parts

end Eval

namespace ErrorKind

def ofSource : List ErrorKind :=
  [unmatchedParenthesis, unexpectedParenthesis, danglingQuote, unboundSymbol, callableUsedAsValue,
   notAFunction, malformedForm, arity, wrongType, divisionByZero, emptyList]

end ErrorKind

/-- Errors about what source text cannot bring about: an expression that is missing after the last
token, a value without a rule, the application of what is no procedure, and a name that is not a
symbol. -/
def LispError.Foreign : LispError → Prop
  | .unexpectedEnd | .uninterpretable _ | .inapplicable _ | .unboundName _ | .cannotBind _ => True
  | _ => False

inductive Fault.Native : Fault → Prop
  | tooDeep : Native .tooDeep
  | error {e : LispError} (kind : e.kind ∈ ErrorKind.ofSource) (own : ¬ e.Foreign) :
      Native (.error e)

theorem Reader.Stops.native {fault : Fault} (stops : Stops fault) : fault.Native := by
  cases stops with
  | tooDeep => exact .tooDeep
  | _ => exact .error (by decide) id

theorem Fault.Raised.native {named : Symbol → Prop} {fault : Fault} (raised : fault.Raised named) :
    fault.Native := by
  cases fault with
  | tooDeep => exact .tooDeep
  | error e =>
    have run := raised.at_run
    cases e with
    | unexpectedEnd | unmatchedParenthesis | unexpectedParenthesis | danglingQuote => exact run.elim
    | unboundName | inapplicable | uninterpretable | cannotBind => exact run.elim
    | _ => exact .error (by simp [LispError.kind, ErrorKind.ofSource]) id

namespace Session

variable {depth : Nat} {session : Session}

theorem evaluate_eq_error {code : String} {fault : Fault}
    (failed : (session.evalValue depth code).1 = .error fault) :
    (session.evaluate depth code).1 = .error fault := by
  change (session.evalValue depth code).1 >>= _ = _
  rw [failed]
  rfl

theorem answer?_native (depth : Nat) (v : Value) (printed : List String) :
    Ends (fun _ => True) Fault.Native (answer? depth v printed) := by
  unfold answer?
  split
  · trivial
  · exact .tooDeep

theorem Sound.evaluate_native {named : Symbol → Prop} (sound : session.Sound named)
    (quote : named ⟨"quote"⟩) (depth : Nat) {code : String}
    (admits : Reader.Admits named (Token.scan code)) :
    Ends (fun _ => True) Fault.Native (session.evaluate depth code).1 := by
  have stops := Reader.read_stops depth code
  have reads := Reader.read_reads quote depth code admits
  have value : Ends (fun _ => True) Fault.Native (session.evalValue depth code).1 := by
    unfold Session.evalValue
    cases read : Reader.read depth code with
    | error fault =>
      rw [read] at stops
      exact stops.native
    | ok program =>
      rw [read] at reads
      have ran := sound.cleared.runProgram depth .nil reads
      exact ran.2.weaken (fun _ _ => trivial) fun _ => Fault.Raised.native
  exact .bind value fun v _ => answer?_native depth v _

theorem admits_any (code : String) : Reader.Admits (fun _ => True) (Token.scan code) :=
  fun _ _ _ => trivial

/-- What happens when `code` is run in a session stays within the rules of the language. -/
structure Covered (depth : Nat) (session : Session) (code : String) : Prop where
  outcome : (∃ answer, (session.evaluate depth code).1 = .ok answer) ∨
    (session.evaluate depth code).1 = .error .tooDeep ∨
    ∃ e, (session.evaluate depth code).1 = .error (.error e) ∧
      e.kind ∈ ErrorKind.ofSource ∧ ¬ e.Foreign
  -- It would make no difference if the reader did something else without a token.
  read : ∀ atEnd, Reader.readMany (Reader.readOneElse atEnd depth) (Token.scan code)
    (Token.scan code) = Reader.read depth code
  evaluated : ∀ budget scope expr store,
    session.Performs depth code (.eval budget scope expr store) →
      expr.isProcedure = false ∧ ∀ content, expr ≠ .text content

theorem Reachable.covered (reached : session.Reachable) (depth : Nat) (code : String) :
    session.Covered depth code where
  outcome := by
    have ends := reached.sound.evaluate_native trivial depth (admits_any code)
    cases ended : (session.evaluate depth code).1 with
    | ok answer => exact .inl ⟨answer, rfl⟩
    | error fault =>
      rw [ended] at ends
      cases ends with
      | tooDeep => exact .inr (.inl rfl)
      | error kind own => exact .inr (.inr ⟨_, rfl, kind, own⟩)
  read := fun atEnd => (Reader.readMany_agrees (Reader.readOneElse_agrees atEnd _) _ _).eq
  evaluated := by
    intro budget scope expr store performed
    have data := (reached.sound.performs trivial (admits_any code) performed).1
    refine ⟨data.not_procedure, ?_⟩
    rintro content rfl
    cases data

theorem eval_definition_runs (budget : Nat) (scope : Scope) {head : Value} (parts : List Value)
    (store : Store) (definition : Eval.specialForm? head = some .definition) :
    Eval.DefinitionRuns scope store parts
      ((eval (budget + 1) scope (.list (head :: parts))).run store) := by
  rw [eval, Eval.step_special definition]
  exact Eval.define_runs scope parts store

-- The nesting limit is kept out of the way: left to itself the kernel would count down from it.
theorem initial_evaluate_error {need : Nat} {code : String} (expr : Value) {fault : Fault}
    (read : ∀ more, Reader.read (more + need) code = .ok [expr])
    (ran : ∀ more, ((eval (more + need) 0 expr).run (.ofGlobals .initial 0)).1 = .error fault)
    (enough : need ≤ depth) : (Session.initial.evaluate depth code).1 = .error fault := by
  obtain ⟨more, rfl⟩ := Nat.exists_eq_add_of_le' enough
  have failed : ((eval (more + need) 0 expr).run (.ofGlobals Session.initial.globals 0)).1 =
      .error fault := ran more
  rw [evaluate_of_read (read more)]
  simp only [failed]
  rfl

theorem initial_evaluate_unreadable {need : Nat} {code : String} {fault : Fault}
    (unreadable : ∀ more, Reader.read (more + need) code = .error fault) (enough : need ≤ depth) :
    (Session.initial.evaluate depth code).1 = .error fault := by
  obtain ⟨more, rfl⟩ := Nat.exists_eq_add_of_le' enough
  exact evaluate_eq_error
    (congrArg Prod.fst (evalValue_of_unreadable (unreadable more) Session.initial))

theorem ofSource_occurs {kind : ErrorKind} (listed : kind ∈ ErrorKind.ofSource) :
    ∃ code e, e.kind = kind ∧ ∀ depth, 3 ≤ depth →
      (Session.initial.evaluate depth code).1 = .error (.error e) := by
  simp only [ErrorKind.ofSource, List.mem_cons, List.not_mem_nil, or_false] at listed
  rcases listed with rfl | rfl | rfl | rfl | rfl | rfl | rfl | rfl | rfl | rfl | rfl
  · exact ⟨"(", .unmatchedParenthesis, rfl, fun _ => initial_evaluate_unreadable fun _ => rfl⟩
  · exact ⟨")", .unexpectedParenthesis, rfl, fun _ => initial_evaluate_unreadable fun _ => rfl⟩
  · exact ⟨"'", .danglingQuote, rfl, fun _ => initial_evaluate_unreadable fun _ => rfl⟩
  · exact ⟨"x", .unboundSymbol ⟨"x"⟩, rfl, fun _ =>
      initial_evaluate_error (.symbol ⟨"x"⟩) (fun _ => rfl) fun _ => rfl⟩
  · exact ⟨"car", .callableUsedAsValue ⟨"car"⟩, rfl, fun _ =>
      initial_evaluate_error (.symbol ⟨"car"⟩) (fun _ => rfl) fun _ => rfl⟩
  · exact ⟨"(x)", .undefinedFunction ⟨"x"⟩, rfl, fun _ =>
      initial_evaluate_error (.list [.symbol ⟨"x"⟩]) (fun _ => rfl) fun _ => rfl⟩
  · exact ⟨"(if)", .ifShape, rfl, fun _ =>
      initial_evaluate_error (.list [.symbol ⟨"if"⟩]) (fun _ => rfl) fun _ => rfl⟩
  · exact ⟨"(car)", .arity .car 1 0, rfl, fun _ =>
      initial_evaluate_error (.list [.symbol ⟨"car"⟩]) (fun _ => rfl) fun _ => rfl⟩
  · exact ⟨"(car nil)", .notAList .car .nil, rfl, fun _ =>
      initial_evaluate_error (.list [.symbol ⟨"car"⟩, .symbol ⟨"nil"⟩]) (fun _ => rfl)
        fun _ => rfl⟩
  · exact ⟨"(/ (length nil) (length nil))", .divisionByZero, rfl, fun _ =>
      initial_evaluate_error (.list [.symbol ⟨"/"⟩, .list [.symbol ⟨"length"⟩, .symbol ⟨"nil"⟩],
        .list [.symbol ⟨"length"⟩, .symbol ⟨"nil"⟩]]) (fun _ => rfl) fun _ => rfl⟩
  · exact ⟨"(car (list))", .emptyList, rfl, fun _ =>
      initial_evaluate_error (.list [.symbol ⟨"car"⟩, .list [.symbol ⟨"list"⟩]]) (fun _ => rfl)
        fun _ => rfl⟩

end Session

/-- Whatever the session, a program succeeds, nests too deep, or fails with an error of one of
eleven kinds. There are no further kinds because everything that is read, evaluated, applied and
bound on the way has the shape that is asked for, and no fewer because each of them does occur. -/
theorem reachable_covered :
    (∀ session : Session, session.Reachable → ∀ depth code, session.Covered depth code) ∧
    (∀ budget scope head parts store, Eval.specialForm? head = some .definition →
      Eval.DefinitionRuns scope store parts
        ((eval (budget + 1) scope (.list (head :: parts))).run store)) ∧
    ∀ kind ∈ ErrorKind.ofSource, ∃ code e, e.kind = kind ∧ ∀ depth, 3 ≤ depth →
      (Session.initial.evaluate depth code).1 = .error (.error e) := by
  refine ⟨fun _ reached depth code => reached.covered depth code, ?_, ?_⟩
  · exact fun budget scope _ parts store => Session.eval_definition_runs budget scope parts store
  · exact fun _ listed => Session.ofSource_occurs listed

-- The session has a function of two parameters of one name, left by a program that failed.
theorem reachable_covered_failed :
    let session := (Session.initial.evaluate 100 "(defun f (x x) (defun g () x) (g)) (f)").2
    session.Reachable ∧ session.Covered 100 "(f 'y (defun f (f) (f f))) ((f 1) 2)" ∧
      .divisionByZero ∈ ErrorKind.ofSource ∧
      ∃ code e, LispError.kind e = .divisionByZero ∧ ∀ depth, 3 ≤ depth →
        (Session.initial.evaluate depth code).1 = .error (.error e) := by
  intro session
  have reached : session.Reachable := .evaluate .initial _ _
  have listed : .divisionByZero ∈ ErrorKind.ofSource := by decide
  exact ⟨reached, reachable_covered.1 session reached _ _, listed, reachable_covered.2.2 _ listed⟩

end PocketLisp
