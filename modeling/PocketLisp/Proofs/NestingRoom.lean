import PocketLisp.Session
import PocketLisp.Proofs.ReadingLimit
import PocketLisp.Proofs.Run

set_option autoImplicit false

namespace PocketLisp

variable {α β : Type}

/-- The second computation has more room to nest in, which shows only where the first met the
limit. -/
def Outlasted (m other : Run α) : Prop :=
  ∀ store, (m.run store).1 = .error .tooDeep ∨ other.run store = m.run store

namespace Outlasted

theorem refl (m : Run α) : Outlasted m m :=
  fun _ => .inr rfl

theorem tooDeep (other : Run α) : Outlasted (throw .tooDeep) other :=
  fun _ => .inl rfl

theorem bind {m other : Run α} {next later : α → Run β} (first : Outlasted m other)
    (rest : ∀ a, Outlasted (next a) (later a)) : Outlasted (m >>= next) (other >>= later) := by
  intro store
  have ended := first store
  rw [run_bind, run_bind]
  rcases ran : m.run store with ⟨fault | a, after⟩ <;> rw [ran] at ended
  · rcases ended with limit | same
    · exact .inl (congrArg Except.error (Except.error.inj limit))
    · rw [same]
      exact .inr rfl
  · rcases ended with limit | same
    · cases limit
    · rw [same]
      exact rest a after

end Outlasted

namespace Eval

section Rules

variable {room more : Nat} (less : room ≤ more) {eval other : Evaluator}
  (outlasted : ∀ scope expr, Outlasted (eval scope expr) (other scope expr)) (scope : Scope)

include outlasted

theorem special_outlasted (parts : List Value) (form : SpecialForm) :
    Outlasted (special eval scope parts form) (special other scope parts form) := by
  cases form with
  | quote | definition => exact .refl _
  | conditional =>
    match parts with
    | [condition, yes] =>
      refine .bind (outlasted scope condition) fun v => ?_
      split
      · exact outlasted scope yes
      · exact .refl _
    | [condition, yes, no] =>
      refine .bind (outlasted scope condition) fun v => ?_
      split
      · exact outlasted scope yes
      · exact outlasted scope no
    | [] | [_] | _ :: _ :: _ :: _ :: _ => exact .refl _

theorem evalBody_outlasted (last : Value) (body : List Value) :
    Outlasted (evalBody eval scope last body) (evalBody other scope last body) := by
  induction body generalizing last with
  | nil => exact .refl _
  | cons form rest ih => exact .bind (outlasted scope form) ih

theorem evalArgs_outlasted (args : List Value) :
    Outlasted (evalArgs eval scope args) (evalArgs other scope args) := by
  induction args with
  | nil => exact .refl _
  | cons arg rest ih => exact .bind (outlasted scope arg) fun _ => .bind ih fun _ => .refl _

theorem evalHead_outlasted (head : Value) :
    Outlasted (evalHead eval scope head) (evalHead other scope head) := by
  cases head with
  | symbol s => exact .refl _
  | _ => exact outlasted scope _

include less

omit scope in
theorem apply_outlasted (procedure : Value) (args : List Value) :
    Outlasted (apply room eval procedure args) (apply more other procedure args) := by
  cases procedure with
  | primitive p =>
    simp only [apply]
    split
    · next fits =>
      rw [if_pos (Nat.le_trans fits less)]
      exact .refl _
    · exact .tooDeep _
  | function tag name params body home =>
    refine .bind (.refl get) fun store => .bind (.refl _) fun _ => ?_
    exact evalBody_outlasted outlasted _ _ body
  | _ => exact .refl _

theorem step_outlasted (expr : Value) :
    Outlasted (step room eval scope expr) (step more other scope expr) := by
  match expr with
  | .list (head :: parts) =>
    simp only [step, evalForm]
    split
    · exact special_outlasted outlasted scope parts _
    · refine .bind (evalHead_outlasted outlasted scope head) fun procedure => ?_
      split
      · refine .bind (evalArgs_outlasted outlasted scope parts) fun args => ?_
        exact apply_outlasted less outlasted procedure args
      · exact .refl _
  | .nil | .bool _ | .number _ | .symbol _ | .list [] | .text _ | .primitive _ | .function .. =>
    exact .refl _

end Rules

end Eval

theorem eval_outlasted {budget more : Nat} (less : budget ≤ more) :
    ∀ scope expr, Outlasted (eval budget scope expr) (eval more scope expr) := by
  induction budget generalizing more with
  | zero => exact fun _ _ => .tooDeep _
  | succ budget ih =>
    obtain ⟨more, rfl⟩ := Nat.exists_eq_add_of_le' (Nat.le_of_add_left_le less)
    have left := Nat.le_of_succ_le_succ less
    exact fun scope expr => Eval.step_outlasted left (ih left) scope expr

namespace Session

variable {depth more : Nat} (less : depth ≤ more) (session : Session)

include less

theorem runExpr_deeper (expr : Value) : (session.runExpr depth expr).1 = .error .tooDeep ∨
    session.runExpr more expr = session.runExpr depth expr := by
  refine (eval_outlasted less 0 expr (.ofGlobals session.globals 0)).imp_right fun same => ?_
  simp only [runExpr, same]

theorem runProgram_deeper (last : Value) (program : List Value) :
    (session.runProgram depth last program).1 = .error .tooDeep ∨
      session.runProgram more last program = session.runProgram depth last program := by
  induction program generalizing session last with
  | nil => exact .inr rfl
  | cons expr rest ih =>
    have first := session.runExpr_deeper less expr
    rw [runProgram, runProgram]
    rcases ran : session.runExpr depth expr with ⟨fault | v, next⟩ <;> rw [ran] at first
    · rcases first with limit | same
      · exact .inl limit
      · rw [same]
        exact .inr rfl
    · rcases first with limit | same
      · cases limit
      · rw [same]
        exact ih next v

theorem evalValue_deeper (code : String) : (session.evalValue depth code).1 = .error .tooDeep ∨
    session.evalValue more code = session.evalValue depth code := by
  unfold evalValue
  rcases Reader.readAll_agrees less (Token.scan code) with same | ⟨_, rfl, limit⟩
  · rw [Reader.read, Reader.read, ← same]
    cases Reader.readAll depth (Token.scan code) with
    | ok program => exact runProgram_deeper less _ .nil program
    | error fault => exact .inr rfl
  · rw [Reader.read, limit]
    exact .inl rfl

theorem evaluate_deeper (code : String)
    (within : (session.evaluate depth code).1 ≠ .error .tooDeep) :
    session.evaluate more code = session.evaluate depth code := by
  rcases session.evalValue_deeper less code with limit | same
  · exact absurd (congrArg (· >>= _) limit) within
  · simp only [evaluate] at within ⊢
    rw [same]
    cases ended : (session.evalValue depth code).1 with
    | error fault => rfl
    | ok v =>
      rw [ended] at within
      have fits : v.depth ≤ depth := by
        by_contra deep
        exact within (if_neg deep)
      have answered : answer? more v (session.evalValue depth code).2.printed =
          answer? depth v (session.evalValue depth code).2.printed := by
        rw [answer?, answer?, if_pos fits, if_pos (Nat.le_trans fits less)]
      exact congrArg (·, _) answered

end Session

end PocketLisp
