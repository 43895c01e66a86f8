import PocketLisp.Session
import PocketLisp.Proofs.Job
import PocketLisp.Proofs.Rules
import PocketLisp.Proofs.Soundness

set_option autoImplicit false

namespace PocketLisp

def Fault.Shows (shown : Value → Prop) : Fault → Prop
  | .error e => ∀ v ∈ e.operands, shown v
  | .tooDeep => True

theorem Fault.Raised.shows {named : Symbol → Prop} {fault : Fault} (raised : fault.Raised named) :
    fault.Shows (Value.Data named) := by
  cases fault with
  | error e => exact raised.operands
  | tooDeep => trivial

namespace Reader

variable {named : Symbol → Prop}

def Admits (named : Symbol → Prop) (tokens : List Token) : Prop :=
  ∀ text, .word text ∈ tokens → Literal.number? text = none → named (.ofText text)

def Reads (named : Symbol → Prop) : Except Fault (Value × List Token) → Prop :=
  Ends (fun read => read.1.Data named ∧ Admits named read.2) (Fault.Shows (Value.Data named))

theorem Admits.tail {token : Token} {tokens : List Token}
    (admits : Admits named (token :: tokens)) : Admits named tokens :=
  fun text member => admits text (by simp [member])

theorem silent {e : LispError} (silent : e.operands = []) :
    Fault.Shows (Value.Data named) (.error e) := by
  intro v member
  simp [silent] at member

theorem readWord_data {text : String}
    (admits : Literal.number? text = none → named (.ofText text)) : (readWord text).Data named := by
  unfold readWord
  split
  · exact .number _
  · next missing => exact .symbol (admits missing)

variable {readOne : List Token → Except Fault (Value × List Token)}

theorem readItems_reads (reads : ∀ tokens, Admits named tokens → Reads named (readOne tokens))
    (bound : List Token) {tokens : List Token} (admits : Admits named tokens) :
    Ends (fun read => (∀ v ∈ read.1, v.Data named) ∧ Admits named read.2)
      (Fault.Shows (Value.Data named)) (readItems readOne bound tokens) := by
  fun_induction readItems readOne bound tokens with
  | case1 => exact silent rfl
  | case2 => exact silent rfl
  | case3 => exact ⟨by simp, admits.tail⟩
  | case4 _ bound tokens _ _ ih =>
    refine .bind (reads _ admits) fun read first => ?_
    refine .bind (ih read.2 first.2) fun more others => ?_
    exact ⟨fun v member => (List.mem_cons.mp member).elim (· ▸ first.1) (others.1 v), others.2⟩

theorem readQuoted_reads (reads : ∀ tokens, Admits named tokens → Reads named (readOne tokens))
    (quote : named ⟨"quote"⟩) {tokens : List Token} (admits : Admits named tokens) :
    Reads named (readQuoted readOne tokens) := by
  unfold readQuoted
  split
  · exact silent rfl
  · exact silent rfl
  · refine .bind (reads _ admits) fun read first => ⟨.list fun v member => ?_, first.2⟩
    simp only [List.mem_cons, List.not_mem_nil, or_false] at member
    rcases member with rfl | rfl
    · exact .symbol quote
    · exact first.1

theorem readOne_reads (quote : named ⟨"quote"⟩) (depth : Nat) :
    ∀ tokens, Admits named tokens → Reads named (Reader.readOne depth tokens) := by
  induction depth with
  | zero =>
    intro tokens _
    cases tokens with
    | nil => exact silent rfl
    | cons token rest => trivial
  | succ depth ih =>
    intro tokens admits
    cases tokens with
    | nil => exact silent rfl
    | cons token rest =>
      cases token with
      | lparen =>
        refine .bind (readItems_reads ih _ admits.tail) fun read items => ?_
        exact ⟨.list items.1, items.2⟩
      | rparen => exact silent rfl
      | quote => exact readQuoted_reads ih quote admits.tail
      | word text => exact ⟨readWord_data (admits text (by simp)), admits.tail⟩

theorem readMany_reads (reads : ∀ tokens, Admits named tokens → Reads named (readOne tokens))
    (bound : List Token) {tokens : List Token} (admits : Admits named tokens) :
    Ends (fun exprs => ∀ v ∈ exprs, v.Data named) (Fault.Shows (Value.Data named))
      (readMany readOne bound tokens) := by
  fun_induction readMany readOne bound tokens with
  | case1 => exact fun _ member => absurd member (by simp)
  | case2 => trivial
  | case3 _ bound tokens _ ih =>
    refine .bind (reads _ admits) fun read first => ?_
    refine .bind (ih read.2 first.2) fun exprs others => ?_
    exact fun v member => (List.mem_cons.mp member).elim (· ▸ first.1) (others v)

theorem read_reads (quote : named ⟨"quote"⟩) (depth : Nat) (source : String)
    (admits : Admits named (Token.scan source)) :
    Ends (fun exprs => ∀ v ∈ exprs, v.Data named) (Fault.Shows (Value.Data named))
      (read depth source) :=
  readMany_reads (readOne_reads quote depth) _ admits

end Reader

namespace Job

variable {named : Symbol → Prop}

def Sound (named : Symbol → Prop) : Job → Prop
  | eval _ _ expr store => expr.Data named ∧ store.Sound named
  | apply _ procedure args store =>
    procedure.Bindable named ∧ procedure.isProcedure = true ∧ (∀ v ∈ args, v.Data named) ∧
      store.Sound named

theorem Sound.run {job : Job} (sound : job.Sound named) :
    job.run.2.Sound named ∧ Ends (Value.Data named) (Fault.Raised named) job.run.1 := by
  cases job with
  | eval budget scope expr store => exact eval_computes budget scope expr sound.1 store sound.2
  | apply budget procedure args store =>
    obtain ⟨bindable, applicable, each, kept⟩ := sound
    exact Eval.apply_computes (eval_computes budget) budget bindable applicable each store kept

theorem Sound.call {budget : Nat} {scope : Scope} {store resolved before : Store}
    {head procedure : Value} {parts some vs : List Value}
    (sound : (eval (budget + 1) scope (.list (head :: parts)) store).Sound named)
    (ran : (Eval.evalHead (PocketLisp.eval budget) scope head).run store =
      (.ok procedure, resolved))
    (among : ∀ v ∈ some, v ∈ parts)
    (evaluated : (Eval.evalArgs (PocketLisp.eval budget) scope some).run resolved =
      (.ok vs, before)) :
    procedure.Bindable named ∧ (∀ v ∈ vs, v.Data named) ∧ before.Sound named := by
  have headed :=
    (Eval.evalHead_computes (eval_computes _) _ (sound.1.items _ (by simp))).ok sound.2 ran
  have args := (Eval.evalArgs_computes (eval_computes _) _
    fun v member => sound.1.items v (by simp [among v member])).ok headed.1 evaluated
  exact ⟨headed.2, args.2, args.1⟩

theorem Sound.spawns {job next : Job} (sound : job.Sound named) (spawned : job.Spawns next) :
    next.Sound named := by
  -- What a job spawns starts from where the earlier ones stopped, and these kept the store sound.
  cases spawned with
  | condition => exact ⟨sound.1.items _ (by simp), sound.2⟩
  | yes _ _ ran _ | no _ ran _ =>
    have condition := (eval_computes _ _ _ (sound.1.items _ (by simp))).ok sound.2 ran
    exact ⟨sound.1.items _ (by simp), condition.1⟩
  | head _ => exact ⟨sound.1.items _ (by simp), sound.2⟩
  | argument call ran applicable evaluated =>
    have called := sound.call ran (fun v member => by simp [member]) evaluated
    exact ⟨sound.1.items _ (by simp), called.2.2⟩
  | application call ran applicable evaluated =>
    have called := sound.call ran (fun _ => id) evaluated
    exact ⟨called.1, applicable, called.2⟩
  | @form _ _ _ params home _ _ _ _ _ _ _ evaluated =>
    obtain ⟨forms, -, each, kept⟩ := sound
    have entered := kept.enter ((kept.environments home).bindParams params each)
    have body := (Eval.evalBody_computes (eval_computes _) _ .nil
      fun v member => forms v (by simp [member])).ok entered evaluated
    exact ⟨forms _ (by simp), body.1⟩

theorem Sound.includes {job part : Job} (sound : job.Sound named) (included : job.Includes part) :
    part.Sound named := by
  induction included with
  | refl => exact sound
  | tail _ spawned ih => exact ih.spawns spawned

section ComputedHead

variable {budget : Nat} {scope : Scope} {head : Value} {parts : List Value} {store : Store}

theorem Sound.head_not_procedure (computed : head.isSymbol = false)
    (sound : (eval (budget + 1) scope (.list (head :: parts)) store).Sound named)
    {v : Value} {after : Store}
    (ran : (Eval.evalHead (PocketLisp.eval budget) scope head).run store = (.ok v, after)) :
    v.isProcedure = false := by
  rw [Eval.evalHead_computed computed] at ran
  exact ((eval_computes _ _ _ (sound.1.items _ (by simp))).ok sound.2 ran).2.not_procedure

theorem Sound.computed_head_run (computed : head.isSymbol = false)
    (sound : (eval (budget + 1) scope (.list (head :: parts)) store).Sound named) :
    (eval (budget + 1) scope (.list (head :: parts)) store).run =
      match (PocketLisp.eval budget scope head).run store with
      | (.ok _, after) => (.error (.error (.notAFunction head)), after)
      | (.error fault, after) => (.error fault, after) := by
  change (Eval.evalForm budget (PocketLisp.eval budget) scope head parts).run store = _
  rw [Eval.evalForm, Eval.specialForm?_computed computed]
  -- The value of a computed head is data, so the call stops before its arguments.
  change (Eval.evalHead (PocketLisp.eval budget) scope head >>= _).run store = _
  rw [run_bind, ← Eval.evalHead_computed computed (PocketLisp.eval budget)]
  rcases ran : (Eval.evalHead (PocketLisp.eval budget) scope head).run store with ⟨_ | v, after⟩
  · rfl
  · simp [sound.head_not_procedure computed ran]

theorem Sound.computed_head_spawns (computed : head.isSymbol = false)
    (sound : (eval (budget + 1) scope (.list (head :: parts)) store).Sound named) {next : Job}
    (spawned : (eval (budget + 1) scope (.list (head :: parts)) store).Spawns next) :
    next = eval budget scope head store := by
  cases spawned with
  | condition conditional | yes conditional | no conditional =>
    rw [Eval.specialForm?_computed computed] at conditional
    exact absurd conditional (by simp)
  | head => rfl
  | argument _ ran applicable | application _ ran applicable =>
    rw [sound.head_not_procedure computed ran] at applicable
    exact absurd applicable (by simp)

end ComputedHead

end Job

namespace Session

/-- The sessions that programs can lead to, whether they succeed or fail. -/
inductive Reachable : Session → Prop
  | initial : Reachable .initial
  | evalValue {session : Session} (reached : Reachable session) (depth : Nat) (code : String) :
      Reachable (session.evalValue depth code).2
  | evaluate {session : Session} (reached : Reachable session) (depth : Nat) (code : String) :
      Reachable (session.evaluate depth code).2

-- The evaluations of the expressions of a program, up to the first that fails.
inductive Launches (depth : Nat) : Session → List Value → Job → Prop
  | first {session : Session} {expr : Value} {rest : List Value} :
      Launches depth session (expr :: rest)
        (.eval depth 0 expr (.ofGlobals session.globals 0))
  | later {session next : Session} {expr v : Value} {rest : List Value} {job : Job}
      (ran : session.runExpr depth expr = (.ok v, next)) (launched : Launches depth next rest job) :
      Launches depth session (expr :: rest) job

def Performs (depth : Nat) (session : Session) (code : String) (job : Job) : Prop :=
  ∃ program top, Reader.read depth code = .ok program ∧
    Launches depth { session with printed := [] } program top ∧ top.Includes job

structure Sound (named : Symbol → Prop) (session : Session) : Prop where
  globals : session.globals.Sound named
  printed : ∀ line ∈ session.printed, Shown named line

section Running

variable {named : Symbol → Prop} {depth : Nat} {session : Session}

theorem Sound.initial : Session.initial.Sound named :=
  ⟨.initial, by simp [Session.initial]⟩

theorem Sound.cleared (sound : session.Sound named) :
    Sound named { session with printed := [] } :=
  ⟨sound.globals, by simp⟩

theorem Sound.runExpr (sound : session.Sound named) (depth : Nat) {expr : Value}
    (data : expr.Data named) :
    (session.runExpr depth expr).2.Sound named ∧
      Ends (Value.Data named) (Fault.Raised named) (session.runExpr depth expr).1 := by
  have ran := eval_computes depth 0 expr data _ (Store.Sound.ofGlobals sound.globals 0)
  refine ⟨⟨ran.1.environments 0, fun line member => ?_⟩, ran.2⟩
  exact (List.mem_append.mp member).elim (sound.printed line) (ran.1.printed line)

theorem Sound.runProgram (sound : session.Sound named) (depth : Nat) {last : Value}
    (data : last.Data named) {program : List Value} (each : ∀ expr ∈ program, expr.Data named) :
    (session.runProgram depth last program).2.Sound named ∧
      Ends (Value.Data named) (Fault.Raised named) (session.runProgram depth last program).1 := by
  induction program generalizing session last with
  | nil => exact ⟨sound, data⟩
  | cons expr rest ih =>
    have ran := sound.runExpr depth (each expr (by simp))
    simp only [Session.runProgram]
    rcases outcome : session.runExpr depth expr with ⟨_ | v, next⟩ <;> rw [outcome] at ran
    · exact ran
    · exact ih ran.1 ran.2 fun later member => each later (by simp [member])

theorem Launches.sound {program : List Value} {job : Job}
    (launched : Launches depth session program job) (sound : session.Sound named)
    (each : ∀ expr ∈ program, expr.Data named) : job.Sound named := by
  induction launched with
  | first => exact ⟨each _ (by simp), .ofGlobals sound.globals 0⟩
  | @later _ next expr _ _ _ ran _ ih =>
    have after := (sound.runExpr depth (each expr (by simp))).1
    rw [ran] at after
    exact ih after fun later member => each later (by simp [member])

theorem Sound.evalValue (sound : session.Sound named) (quote : named ⟨"quote"⟩) (depth : Nat)
    (code : String) (admits : Reader.Admits named (Token.scan code)) :
    (session.evalValue depth code).2.Sound named ∧
      Ends (Value.Data named) (Fault.Shows (Value.Data named))
        (session.evalValue depth code).1 := by
  have reads := Reader.read_reads quote depth code admits
  unfold Session.evalValue
  cases read : Reader.read depth code with
  | error fault =>
    rw [read] at reads
    exact ⟨sound.cleared, reads⟩
  | ok program =>
    rw [read] at reads
    have ran := sound.cleared.runProgram depth .nil reads
    exact ⟨ran.1, ran.2.weaken (fun _ => id) fun _ => Fault.Raised.shows⟩

theorem Sound.performs (sound : session.Sound named) (quote : named ⟨"quote"⟩) {code : String}
    (admits : Reader.Admits named (Token.scan code)) {job : Job}
    (performed : session.Performs depth code job) : job.Sound named := by
  obtain ⟨program, top, read, launched, included⟩ := performed
  have reads := Reader.read_reads quote depth code admits
  rw [read] at reads
  exact (launched.sound sound.cleared reads).includes included

end Running

end Session

abbrev Value.IsData : Value → Prop :=
  Value.Data fun _ => True

theorem Session.Sound.evalValue_data {session : Session} (sound : session.Sound fun _ => True)
    (depth : Nat) (code : String) :
    ((session.evalValue depth code).2.Sound fun _ => True) ∧
      Ends Value.IsData (Fault.Shows Value.IsData) (session.evalValue depth code).1 :=
  sound.evalValue trivial depth code fun _ _ _ => trivial

theorem Session.Reachable.sound {session : Session} (reached : session.Reachable) :
    session.Sound fun _ => True := by
  induction reached with
  | initial => exact .initial
  | evalValue _ depth code ih | evaluate _ depth code ih => exact (ih.evalValue_data depth code).1

structure Job.DataOnly (job : Job) : Prop where
  value : ∀ v, job.run.1 = .ok v → v.IsData
  args : ∀ budget procedure args store, job = .apply budget procedure args store →
    procedure.isProcedure = true ∧ ∀ v ∈ args, v.IsData
  bindings : ∀ scope s v, (job.run.2.environment scope).get? s = some v →
    v.isProcedure = true ∨ v.IsData
  errors : ∀ e, job.run.1 = .error (.error e) → ∀ v ∈ e.operands, v.IsData
  -- A call whose head is not a symbol performs nothing but the evaluation of its head, and
  -- fails even when that succeeds.
  computed_head : ∀ budget scope head parts store,
    job = .eval budget scope (.list (head :: parts)) store → head.isSymbol = false →
      (∀ v, job.run.1 ≠ .ok v) ∧
      ∀ left, budget = left + 1 →
        (∀ next, job.Spawns next → next = .eval left scope head store) ∧
        ∀ v after, (PocketLisp.eval left scope head).run store = (.ok v, after) →
          job.run = (.error (.error (.notAFunction head)), after)

theorem bound_data {named : Symbol → Prop} {env : Environment} (sound : env.Sound named)
    {s : Symbol} {v : Value} (bound : env.get? s = some v) :
    v.isProcedure = true ∨ v.Data named := by
  cases kind : v.isProcedure with
  | true => exact .inl rfl
  | false => exact .inr ((sound s v bound).data kind)

theorem Job.Sound.dataOnly {job : Job} (sound : job.Sound fun _ => True) : job.DataOnly where
  value := by
    intro v ended
    have ends := sound.run.2
    rwa [ended] at ends
  args := by
    rintro budget procedure args store rfl
    exact ⟨sound.2.1, sound.2.2.1⟩
  bindings := fun scope _ _ bound => bound_data (sound.run.1.environments scope) bound
  errors := by
    intro e ended
    have ends := sound.run.2
    rw [ended] at ends
    exact ends.operands
  computed_head := by
    rintro budget scope head parts store rfl computed
    cases budget with
    | zero =>
      refine ⟨fun v ended => ?_, fun left positive => ?_⟩
      · exact nomatch ended
      · exact nomatch positive
    | succ left =>
      have ran := sound.computed_head_run computed
      refine ⟨?_, ?_⟩
      · intro v ended
        rw [ran] at ended
        split at ended <;> exact nomatch ended
      · intro _ same
        obtain rfl := Nat.succ.inj same
        refine ⟨fun next spawned => sound.computed_head_spawns computed spawned, ?_⟩
        intro v after evaluated
        rw [ran, evaluated]

/-- Running `code` in the session makes no function a value, in whatever is done on the way, in the
result, in an error, in the lines printed, and in what symbols are bound to afterwards. -/
structure Session.DataOnly (depth : Nat) (session : Session) (code : String) : Prop where
  jobs : ∀ job, session.Performs depth code job → job.DataOnly
  result : ∀ v, (session.evalValue depth code).1 = .ok v → v.IsData
  errors : ∀ e, (session.evalValue depth code).1 = .error (.error e) → ∀ v ∈ e.operands, v.IsData
  printed : ∀ line ∈ (session.evalValue depth code).2.printed,
    ∃ args : List Value, (∀ v ∈ args, v.IsData) ∧ line = " ".intercalate (Value.printAll args)
  bindings : ∀ s v, (session.evalValue depth code).2.globals.get? s = some v →
    v.isProcedure = true ∨ v.IsData

theorem reachable_dataOnly {session : Session} (reached : session.Reachable) (depth : Nat)
    (code : String) : session.DataOnly depth code := by
  have ⟨sound, ends⟩ := reached.sound.evalValue_data depth code
  refine ⟨?_, ?_, ?_, sound.printed, fun _ _ bound => bound_data sound.globals bound⟩
  · rintro job ⟨program, top, read, launched, included⟩
    have reads : Ends (fun exprs : List Value => ∀ v ∈ exprs, v.IsData) _ _ :=
      Reader.read_reads trivial depth code fun _ _ _ => trivial
    rw [read] at reads
    exact ((launched.sound reached.sound.cleared reads).includes included).dataOnly
  · intro v ended
    rwa [ended] at ends
  · intro e ended
    rw [ended] at ends
    exact ends

-- After `(defun f (x) (list x 'car))`, the program `((f 1) 2)` has a computed head.
theorem reachable_dataOnly_computed_head :
    (Session.initial.evalValue 100 "(defun f (x) (list x 'car))").2.Reachable ∧
      (Session.initial.evalValue 100 "(defun f (x) (list x 'car))").2.DataOnly 100 "((f 1) 2)" :=
  ⟨.evalValue .initial _ _, reachable_dataOnly (.evalValue .initial _ _) _ _⟩

end PocketLisp
