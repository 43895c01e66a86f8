import PocketLisp.Proofs.Coupling
import PocketLisp.Proofs.DataOnly
import PocketLisp.Proofs.Joining

set_option autoImplicit false

namespace PocketLisp

variable {α β : Type}

def Appends (m : Run α) : Prop :=
  ∀ store, store.printed.toList <+: (m.run store).2.printed.toList

def Traces (prints : String → Prop) (m : Run α) (store : Store) : Prop :=
  ∀ line ∈ (m.run store).2.printed.toList, line ∈ store.printed.toList ∨ prints line

section Rules

theorem Appends.pure (a : α) : Appends (pure a : Run α) :=
  fun _ => List.prefix_rfl

theorem Appends.fail (e : LispError) : Appends (PocketLisp.fail e : Run α) :=
  fun _ => List.prefix_rfl

theorem Appends.bind {m : Run α} {next : α → Run β} (first : Appends m)
    (rest : ∀ a, Appends (next a)) : Appends (m >>= next) := by
  intro store
  have before := first store
  rw [run_bind]
  rcases ran : m.run store with ⟨fault | a, middle⟩ <;> rw [ran] at before
  · exact before
  · exact before.trans (rest a middle)

/-- A computation ended so, and the whole goes on from there: it fails as that did, or does more
with the value. What is printed later comes after what was printed. -/
def Continues (ended : Except Fault α × Store) (whole : Except Fault β × Store) : Prop :=
  ∃ rest : α → Run β, (∀ a, Appends (rest a)) ∧
    whole = match ended with
      | (.ok a, after) => (rest a).run after
      | (.error fault, after) => (.error fault, after)

namespace Continues

theorem refl (ended : Except Fault α × Store) : Continues ended ended := by
  refine ⟨Pure.pure, .pure, ?_⟩
  rcases ended with ⟨fault | a, after⟩ <;> rfl

theorem bind {m : Run α} {next : α → Run β} {store : Store} (rest : ∀ a, Appends (next a)) :
    Continues (m.run store) ((m >>= next).run store) :=
  ⟨next, rest, run_bind ..⟩

theorem trans {γ : Type} {ended : Except Fault α × Store} {middle : Except Fault β × Store}
    {whole : Except Fault γ × Store} (first : Continues ended middle)
    (second : Continues middle whole) : Continues ended whole := by
  obtain ⟨rest, appends, rfl⟩ := first
  obtain ⟨more, later, rfl⟩ := second
  refine ⟨fun a => rest a >>= more, fun a => (appends a).bind later, ?_⟩
  rcases ended with ⟨fault | a, after⟩
  · rfl
  · exact (run_bind ..).symm

variable {ended : Except Fault α × Store} {whole : Except Fault β × Store}

theorem printed (continues : Continues ended whole) :
    ended.2.printed.toList <+: whole.2.printed.toList := by
  obtain ⟨rest, appends, rfl⟩ := continues
  rcases ended with ⟨fault | a, after⟩
  · exact List.prefix_rfl
  · exact appends a after

theorem failed (continues : Continues ended whole) {fault : Fault}
    (failed : ended.1 = .error fault) : whole.1 = .error fault := by
  obtain ⟨rest, -, rfl⟩ := continues
  rcases ended with ⟨_ | a, after⟩
  · exact congrArg Except.error (Except.error.inj failed)
  · cases failed

end Continues

theorem Coupled.appends {m : Run α} {value : α → Prop}
    (coupled : ∀ lines, Coupled (fun a b => a = b ∧ lines <+: a.printed.toList) value m) :
    Appends m :=
  fun store => (coupled _ store store ⟨rfl, List.prefix_rfl⟩).2.1.2

variable {prints : String → Prop} {store : Store}

theorem Traces.silent {m : Run α} (silent : (m.run store).2.printed = store.printed) :
    Traces prints m store := by
  intro line member
  rw [silent] at member
  exact .inl member

theorem Traces.bind {m : Run α} {next : α → Run β} (first : Traces prints m store)
    (rest : ∀ a after, m.run store = (.ok a, after) → Traces prints (next a) after) :
    Traces prints (m >>= next) store := by
  intro line member
  rw [run_bind] at member
  rcases ran : m.run store with ⟨fault | a, after⟩ <;> rw [ran] at member
  · exact first line (by rwa [ran])
  · rcases rest a after ran line member with before | printed
    · exact first line (by rwa [ran])
    · exact .inr printed

end Rules

namespace Eval

section Appending

theorem printed_invariant (lines : List String) :
    Invariant .all (fun store => lines <+: store.printed.toList) where
  bound := fun _ _ => trivial
  define := fun kept _ _ _ => kept
  enter := fun kept _ _ => kept
  body := fun _ _ _ _ => trivial
  record := by
    intro store p args kept _
    simpa [Store.record] using kept.trans (List.prefix_append _ _)

variable (budget : Nat) (scope : Scope)

theorem eval_appends (expr : Value) : Appends (PocketLisp.eval budget scope expr) :=
  Coupled.appends fun lines => (printed_invariant lines).coupling.eval budget scope expr trivial

theorem evalArgs_appends (parts : List Value) :
    Appends (evalArgs (PocketLisp.eval budget) scope parts) :=
  Coupled.appends fun lines => evalArgs_coupled ((printed_invariant lines).coupling.eval budget)
    fun _ _ => trivial

theorem evalBody_appends (last : Value) (body : List Value) :
    Appends (evalBody (PocketLisp.eval budget) scope last body) :=
  Coupled.appends fun lines => evalBody_coupled ((printed_invariant lines).coupling.eval budget)
    trivial fun _ _ => trivial

theorem apply_appends (procedure : Value) (args : List Value) :
    Appends (apply budget (PocketLisp.eval budget) procedure args) :=
  Coupled.appends fun lines => apply_coupled (printed_invariant lines).coupling
    ((printed_invariant lines).coupling.eval budget) budget trivial fun _ _ => trivial

variable {budget scope}

theorem evalArgs_continues {earlier later vs : List Value} {arg : Value} {store before : Store}
    (evaluated : (evalArgs (PocketLisp.eval budget) scope earlier).run store = (.ok vs, before)) :
    Continues ((PocketLisp.eval budget scope arg).run before)
      ((evalArgs (PocketLisp.eval budget) scope (earlier ++ arg :: later)).run store) := by
  induction earlier generalizing store vs with
  | nil =>
    cases evaluated
    refine .bind fun v => ?_
    exact (evalArgs_appends budget scope later).bind fun _ => .pure _
  | cons first earlier ih =>
    obtain ⟨v, middle, ran, evaluated⟩ := run_bind_eq_ok evaluated
    obtain ⟨vs, after, evaluated, done⟩ := run_bind_eq_ok evaluated
    cases done
    rw [List.cons_append, evalArgs, run_bind_ok ran]
    exact (ih evaluated).trans (.bind fun vs => .pure (v :: vs))

theorem evalBody_continues {earlier later : List Value} {last v form : Value}
    {store before : Store}
    (evaluated : (evalBody (PocketLisp.eval budget) scope last earlier).run store =
      (.ok v, before)) :
    Continues ((PocketLisp.eval budget scope form).run before)
      ((evalBody (PocketLisp.eval budget) scope last (earlier ++ form :: later)).run store) := by
  induction earlier generalizing store last with
  | nil =>
    cases evaluated
    exact .bind fun w => evalBody_appends budget scope w later
  | cons first earlier ih =>
    obtain ⟨w, middle, ran, evaluated⟩ := run_bind_eq_ok evaluated
    rw [List.cons_append, evalBody, run_bind_ok ran]
    exact ih evaluated

end Appending

end Eval

namespace Job

-- A conditional has one branch or two.
theorem branches {rest : List Value} (shape : rest.length ≤ 1) :
    rest = [] ∨ ∃ other, rest = [other] :=
  (Nat.le_one_iff_eq_zero_or_eq_one.mp shape).imp List.eq_nil_of_length_eq_zero
    List.length_eq_one_iff.mp

open Eval in
theorem Spawns.continues {job next : Job} (spawned : job.Spawns next) :
    Continues next.run job.run := by
  cases spawned with
  | @condition budget scope store head condition yes rest conditional shape =>
    rw [run, run, PocketLisp.eval, step_special conditional]
    obtain rfl | ⟨other, rfl⟩ := branches shape
    · refine .bind fun v => ?_
      split
      · exact eval_appends budget scope yes
      · exact .pure _
    · refine .bind fun v => ?_
      split
      · exact eval_appends budget scope yes
      · exact eval_appends budget scope other
  | @yes budget scope store after head condition yes v rest conditional shape ran holds =>
    rw [run, run, PocketLisp.eval, step_special conditional]
    obtain rfl | ⟨other, rfl⟩ := branches shape
    all_goals
      rw [special, run_bind_ok ran, if_pos holds]
      exact .refl _
  | no conditional ran fails =>
    rw [run, run, PocketLisp.eval, step_special conditional, special, run_bind_ok ran,
      if_neg (by simp [fails])]
    exact .refl _
  | head computed =>
    rw [run, run, PocketLisp.eval, step_call (specialForm?_computed computed), evalCall,
      evalHead_computed computed]
    refine .bind fun procedure => ?_
    split
    · exact .bind (evalArgs_appends _ _ _) fun args => apply_appends _ _ args
    · exact .fail _
  | argument call ran applicable evaluated =>
    rw [run, run, PocketLisp.eval, step_call call, evalCall, run_bind_ok ran, if_pos applicable]
    exact (evalArgs_continues evaluated).trans (.bind fun args => apply_appends _ _ args)
  | application call ran applicable evaluated =>
    rw [run, run, PocketLisp.eval, step_call call, evalCall, run_bind_ok ran, if_pos applicable,
      run_bind_ok evaluated]
    exact .refl _
  | form evaluated => exact evalBody_continues evaluated

theorem Includes.continues {job part : Job} (included : job.Includes part) :
    Continues part.run job.run := by
  induction included with
  | refl => exact .refl _
  | tail _ spawned ih => exact spawned.continues.trans ih

def budget : Job → Nat
  | eval budget _ _ _ | apply budget _ _ _ => budget

theorem Includes.budget_le {job part : Job} (included : job.Includes part) :
    part.budget ≤ job.budget := by
  induction included with
  | refl => exact Nat.le_refl _
  | tail _ spawned ih =>
    refine Nat.le_trans ?_ ih
    cases spawned with
    | form => exact Nat.le_refl _
    | _ => exact Nat.le_succ _

def Prints (job : Job) (line : String) : Prop :=
  ∃ budget args store, job.Includes (.apply budget (.primitive .print) args store) ∧
    line = " ".intercalate (Value.printAll args)

theorem Spawns.traces {job next : Job} {m : Run α} {store : Store} (spawned : job.Spawns next)
    (traces : Traces next.Prints m store) : Traces job.Prints m store := by
  intro line member
  refine (traces line member).imp_right ?_
  rintro ⟨budget, args, start, included, same⟩
  exact ⟨budget, args, start, .head spawned included, same⟩

end Job

section Tracing

open Eval Job

variable {budget : Nat} {prints : String → Prop}

theorem evalArgs_traces {scope : Scope} {parts : List Value} {store : Store}
    (each : ∀ earlier arg later vs before, parts = earlier ++ arg :: later →
      (evalArgs (eval budget) scope earlier).run store = (.ok vs, before) →
      Traces prints (eval budget scope arg) before) :
    Traces prints (evalArgs (eval budget) scope parts) store := by
  induction parts generalizing store with
  | nil => exact .silent rfl
  | cons arg rest ih =>
    refine .bind (each [] arg rest [] store rfl rfl) fun v after ran => ?_
    refine .bind (ih ?_) fun _ _ _ => .silent rfl
    intro earlier next later vs before split evaluated
    refine each (arg :: earlier) next later (v :: vs) before (by rw [split]; rfl) ?_
    exact (run_bind_ok ran).trans (run_bind_ok evaluated)

theorem evalBody_traces {scope : Scope} {body : List Value} {last : Value} {store : Store}
    (each : ∀ earlier form later v before, body = earlier ++ form :: later →
      (evalBody (eval budget) scope last earlier).run store = (.ok v, before) →
      Traces prints (eval budget scope form) before) :
    Traces prints (evalBody (eval budget) scope last body) store := by
  induction body generalizing last store with
  | nil => exact .silent rfl
  | cons form rest ih =>
    refine .bind (each [] form rest last store rfl rfl) fun v after ran => ih ?_
    intro earlier next later w before split evaluated
    refine each (form :: earlier) next later w before (by rw [split]; rfl) ?_
    exact (run_bind_ok ran).trans evaluated

theorem callPrimitive_traces (p : Primitive) (args : List Value) (store : Store) :
    Traces (Job.apply budget (.primitive p) args store).Prints (callPrimitive p args) store := by
  intro line member
  rw [run_callPrimitive] at member
  cases called : p.call store.nextMark args with
  | error e =>
    rw [called] at member
    exact .inl member
  | ok v =>
    rw [called] at member
    simp only [Store.record, Array.toList_appendList, List.mem_append] at member
    refine member.imp_right fun shown => ?_
    cases p with
    | print => exact ⟨budget, args, store, .refl, List.mem_singleton.mp shown⟩
    | _ => cases shown

-- The jobs that a job spawns run with the budget that is left for them.
variable (traces : ∀ scope expr store,
  Traces (Job.eval budget scope expr store).Prints (eval budget scope expr) store)

include traces

theorem apply_traces (procedure : Value) (args : List Value) (store : Store) :
    Traces (Job.apply budget procedure args store).Prints
      (apply budget (eval budget) procedure args) store := by
  cases procedure with
  | primitive p =>
    simp only [Eval.apply]
    split
    · exact callPrimitive_traces p args store
    · exact .silent rfl
  | function tag name params body home =>
    refine evalBody_traces fun earlier form later v before split evaluated => ?_
    subst split
    exact Spawns.traces (.form evaluated) (traces _ form before)
  | _ => exact .silent rfl

variable {scope : Scope} {head : Value} {parts : List Value} {store : Store}

theorem conditional_traces (conditional : specialForm? head = some .conditional) :
    Traces (Job.eval (budget + 1) scope (.list (head :: parts)) store).Prints
      (special (eval budget) scope parts .conditional) store := by
  simp only [special]
  split
  · next condition yes =>
    refine .bind ?_ fun v after ran => ?_
    · exact Spawns.traces (.condition conditional (by simp)) (traces _ _ _)
    cases holds : v.isTrue with
    | true => exact Spawns.traces (.yes conditional (by simp) ran holds) (traces _ _ _)
    | false => exact .silent rfl
  · next condition yes no =>
    refine .bind ?_ fun v after ran => ?_
    · exact Spawns.traces (.condition conditional (by simp)) (traces _ _ _)
    cases holds : v.isTrue with
    | true => exact Spawns.traces (.yes conditional (by simp) ran holds) (traces _ _ _)
    | false => exact Spawns.traces (.no conditional ran holds) (traces _ _ _)
  · exact .silent rfl

theorem evalHead_traces :
    Traces (Job.eval (budget + 1) scope (.list (head :: parts)) store).Prints
      (evalHead (eval budget) scope head) store := by
  cases kind : head.isSymbol with
  | false =>
    rw [evalHead_computed kind]
    exact Spawns.traces (.head kind) (traces _ _ _)
  | true =>
    cases head with
    | symbol s =>
      refine .silent ?_
      rw [run_evalHead_symbol]
      split <;> rfl
    | _ => cases kind

theorem evalCall_traces (call : specialForm? head = none) :
    Traces (Job.eval (budget + 1) scope (.list (head :: parts)) store).Prints
      (evalCall budget (eval budget) scope head parts) store := by
  refine .bind (evalHead_traces traces) fun procedure resolved ran => ?_
  cases applicable : procedure.isProcedure with
  | false => exact .silent rfl
  | true =>
    refine .bind (evalArgs_traces ?_) fun args before evaluated => ?_
    · intro earlier arg later vs before split evaluated
      subst split
      exact Spawns.traces (.argument call ran applicable evaluated) (traces _ _ _)
    · exact Spawns.traces (.application call ran applicable evaluated) (apply_traces traces _ _ _)

theorem form_traces :
    Traces (Job.eval (budget + 1) scope (.list (head :: parts)) store).Prints
      (evalForm budget (eval budget) scope head parts) store := by
  unfold evalForm
  cases kind : specialForm? head with
  | none => exact evalCall_traces traces kind
  | some form =>
    cases form with
    | quote =>
      simp only [special]
      split <;> exact .silent rfl
    | conditional => exact conditional_traces traces kind
    | definition =>
      refine .silent ?_
      simp only [special, define]
      split
      · split <;> rfl
      · rfl
      · rfl

end Tracing

theorem eval_traces (budget : Nat) : ∀ scope expr store,
    Traces (Job.eval budget scope expr store).Prints (eval budget scope expr) store := by
  induction budget with
  | zero => exact fun _ _ _ => .silent rfl
  | succ budget ih =>
    intro scope expr store
    match expr with
    | .list (head :: parts) => exact form_traces ih
    | .symbol s =>
      refine .silent ?_
      change ((Eval.reference scope s).run store).2.printed = _
      rw [Eval.run_reference]
      split
      · split <;> rfl
      · rfl
    | .list [] | .nil | .bool _ | .number _ | .text _ | .primitive _ | .function .. =>
      exact .silent rfl

namespace Session

variable {depth : Nat} {session : Session} {code : String}

theorem runExpr_printed (depth : Nat) (session : Session) (expr : Value) :
    (session.runExpr depth expr).2.printed = session.printed ++
      (Job.eval depth 0 expr (.ofGlobals session.globals 0)).run.2.printed.toList := rfl

theorem runProgram_appends (depth : Nat) (session : Session) (last : Value)
    (program : List Value) :
    session.printed <+: (session.runProgram depth last program).2.printed := by
  induction program generalizing session last with
  | nil => exact List.prefix_rfl
  | cons expr rest ih =>
    have first : session.printed <+: (session.runExpr depth expr).2.printed := by
      rw [runExpr_printed]
      exact List.prefix_append _ _
    rw [runProgram]
    rcases ran : session.runExpr depth expr with ⟨fault | v, next⟩ <;> rw [ran] at first
    · exact first
    · exact first.trans (ih next v)

theorem Launches.printed {program : List Value} {job : Job}
    (launched : Launches depth session program job) (last : Value) :
    job.run.2.printed.toList <:+: (session.runProgram depth last program).2.printed := by
  induction launched generalizing last with
  | @first session expr rest =>
    have own : (Job.eval depth 0 expr (.ofGlobals session.globals 0)).run.2.printed.toList
        <:+: (session.runExpr depth expr).2.printed := by
      rw [runExpr_printed]
      exact (List.suffix_append _ _).isInfix
    rw [runProgram]
    rcases ran : session.runExpr depth expr with ⟨fault | v, next⟩ <;> rw [ran] at own
    · exact own
    · exact own.trans (next.runProgram_appends depth v rest).isInfix
  | later ran _ ih =>
    rw [runProgram, ran]
    exact ih _

theorem runProgram_traces {last : Value} {program : List Value} {line : String}
    (member : line ∈ (session.runProgram depth last program).2.printed) :
    line ∈ session.printed ∨ ∃ top, Launches depth session program top ∧ top.Prints line := by
  induction program generalizing session last with
  | nil => exact .inl member
  | cons expr rest ih =>
    have first : ∀ printed ∈ (session.runExpr depth expr).2.printed, printed ∈ session.printed ∨
        ∃ top, Launches depth session (expr :: rest) top ∧ top.Prints printed := by
      intro printed shown
      rw [runExpr_printed, List.mem_append] at shown
      refine shown.imp_right fun own => ⟨_, .first, ?_⟩
      exact (eval_traces _ _ _ _ printed own).resolve_left (by simp [Store.ofGlobals])
    rw [runProgram] at member
    rcases ran : session.runExpr depth expr with ⟨fault | v, next⟩ <;> rw [ran] at first member
    · exact first line member
    · rcases ih member with before | ⟨top, launched, printed⟩
      · exact first line before
      · exact .inr ⟨top, .later ran launched, printed⟩

theorem Performs.printed {job : Job} (performed : session.Performs depth code job) :
    job.run.2.printed.toList <:+: (session.evaluate depth code).2.printed := by
  obtain ⟨program, top, read, launched, included⟩ := performed
  change _ <:+: (session.evalValue depth code).2.printed
  rw [evalValue_of_read read]
  exact included.continues.printed.isInfix.trans (launched.printed .nil)

-- A job that fails fails the program.
theorem Launches.failed {program : List Value} {job : Job}
    (launched : Launches depth session program job) {fault : Fault}
    (failed : job.run.1 = .error fault) (last : Value) :
    (session.runProgram depth last program).1 = .error fault := by
  induction launched generalizing last with
  | @first session expr rest =>
    have ran : (session.runExpr depth expr).1 = .error fault := failed
    rw [runProgram]
    rcases same : session.runExpr depth expr with ⟨_ | v, next⟩ <;> rw [same] at ran
    · exact ran
    · cases ran
  | later ran _ ih =>
    rw [runProgram, ran]
    exact ih failed _

theorem Performs.succeeds {job : Job} (performed : session.Performs depth code job) {v : Value}
    (succeeded : (session.evalValue depth code).1 = .ok v) : ∃ w, job.run.1 = .ok w := by
  obtain ⟨program, top, read, launched, included⟩ := performed
  rw [evalValue_of_read read] at succeeded
  cases ran : job.run.1 with
  | ok w => exact ⟨w, rfl⟩
  | error fault =>
    have failed := launched.failed (included.continues.failed ran) .nil
    rw [failed] at succeeded
    cases succeeded

theorem Launches.budget_eq {program : List Value} {job : Job}
    (launched : Launches depth session program job) : job.budget = depth := by
  induction launched with
  | first => rfl
  | later _ _ ih => exact ih

theorem Performs.budget_le {job : Job} (performed : session.Performs depth code job) :
    job.budget ≤ depth := by
  obtain ⟨program, top, -, launched, included⟩ := performed
  exact launched.budget_eq ▸ included.budget_le

theorem performs_of_printed {line : String}
    (member : line ∈ (session.evaluate depth code).2.printed) :
    ∃ budget args store,
      session.Performs depth code (.apply budget (.primitive .print) args store) ∧
        line = " ".intercalate (Value.printAll args) := by
  change line ∈ (session.evalValue depth code).2.printed at member
  cases read : Reader.read depth code with
  | error fault =>
    rw [evalValue_of_unreadable read] at member
    cases member
  | ok program =>
    rw [evalValue_of_read read] at member
    rcases runProgram_traces member with none | ⟨top, launched, budget, args, store, included, same⟩
    · cases none
    · exact ⟨budget, args, store, ⟨program, top, read, launched, included⟩, same⟩

end Session

end PocketLisp
