import PocketLisp.Proofs.Environment
import PocketLisp.Proofs.Rules

set_option autoImplicit false

namespace PocketLisp

namespace Environment

def assign (env : Environment) (s : Symbol) : Option Value → Environment
  | some v => env.define s v
  | none => env.undefine s

/-- `inner` is what a call sees of a function at home in `outer`. -/
structure Binds (outer : Environment) (params : List Symbol) (args : List Value)
    (inner : Environment) : Prop where
  outside : ∀ s, s ∉ params → inner.get? s = outer.get? s
  last : ∀ i s, params[i]? = some s → s ∉ params.drop (i + 1) → inner.get? s = args[i]?

@[simp] theorem get?_assign (env : Environment) (s t : Symbol) (given : Option Value) :
    (env.assign s given).get? t = if t = s then given else env.get? t := by
  cases given with
  | none => exact get?_undefine env s t
  | some v => exact get?_define env s t v

theorem bindParams_cons (env : Environment) (p : Symbol) (ps : List Symbol) (args : List Value) :
    env.bindParams (p :: ps) args = (env.assign p args.head?).bindParams ps args.tail := by
  cases args <;> rfl

theorem bindParams_append (env : Environment) (ps qs : List Symbol) (args : List Value) :
    env.bindParams (ps ++ qs) args =
      (env.bindParams ps args).bindParams qs (args.drop ps.length) := by
  induction ps generalizing env args with
  | nil => rfl
  | cons p ps ih =>
    rw [List.cons_append, bindParams_cons, bindParams_cons, ih, List.length_cons, List.drop_tail]

theorem bindParams_take (env : Environment) (params : List Symbol) (args : List Value) :
    env.bindParams params (args.take params.length) = env.bindParams params args := by
  induction params generalizing env args with
  | nil => rfl
  | cons p ps ih =>
    rw [bindParams_cons, bindParams_cons, ← ih _ args.tail, List.length_cons]
    cases args <;> simp

theorem get?_bindParams_outside (env : Environment) {params : List Symbol} (args : List Value)
    {s : Symbol} (outside : s ∉ params) : (env.bindParams params args).get? s = env.get? s := by
  induction params generalizing env args with
  | nil => rfl
  | cons p ps ih =>
    have other : s ≠ p := List.ne_of_not_mem_cons outside
    rw [bindParams_cons, ih _ _ (List.not_mem_of_not_mem_cons outside), get?_assign, if_neg other]

theorem get?_bindParams_last (env : Environment) (before : List Symbol) (s : Symbol)
    {after : List Symbol} (args : List Value) (last : s ∉ after) :
    (env.bindParams (before ++ s :: after) args).get? s = args[before.length]? := by
  rw [bindParams_append, bindParams_cons, get?_bindParams_outside _ _ last, get?_assign,
    if_pos rfl, List.head?_drop]

theorem bindParams_binds (outer : Environment) (params : List Symbol) (args : List Value) :
    outer.Binds params args (outer.bindParams params args) where
  outside := fun _ => get?_bindParams_outside outer args
  last := by
    intro i s found last
    obtain ⟨inside, rfl⟩ := List.getElem?_eq_some_iff.mp found
    have split : params = params.take i ++ params[i] :: params.drop (i + 1) := by simp
    have bound := get?_bindParams_last outer (params.take i) params[i] args last
    rwa [← split, List.length_take_of_le (Nat.le_of_lt inside)] at bound

end Environment

/-- A call runs in a new environment, where the parameters have their arguments and every other name
has what it has where the function is at home. Arguments beyond the parameters change nothing, and
all environments that there were stay as they are. -/
theorem Eval.callFunction_binds {store : Store} {home : Scope} {outer : Environment}
    (stored : store.scopes[home]? = some outer) (params : List Symbol) (args : List Value) :
    let inner := outer.bindParams params args
    ∃ (scope : Scope) (called : Store),
      (∀ eval body, (callFunction eval params body home args).run store =
        (evalBody eval scope .nil body).run called) ∧
      store.scopes[scope]? = none ∧ called.scopes[scope]? = some inner ∧
      outer.Binds params args inner ∧
      (∀ others : List Value, others.take params.length = args.take params.length →
        outer.bindParams params others = inner) ∧
      ∀ (old : Scope) (env : Environment), store.scopes[old]? = some env →
        called.scopes[old]? = some env := by
  intro inner
  have resolved : store.environment home = outer := by simp [Store.environment, stored]
  refine ⟨store.scopes.size, (store.enter inner).2, ?_, by simp, by simp [Store.enter],
    outer.bindParams_binds params args, ?_, ?_⟩
  · intro eval body
    rw [run_callFunction, resolved]
  · intro others same
    rw [← Environment.bindParams_take, same, Environment.bindParams_take]
  · intro old env before
    obtain ⟨inside, -⟩ := Array.getElem?_eq_some_iff.mp before
    simpa [Store.enter, Array.getElem?_push, Nat.ne_of_lt inside] using before

-- The parameter `x` occurs twice and has no argument for its second place, so that it is unbound
-- in the call, although the first place and the home of the function both give it a value.
theorem Eval.callFunction_binds_repeated :
    let x : Symbol := ⟨"x"⟩
    let y : Symbol := ⟨"y"⟩
    let outer : Environment := ⟨[(x, .nil), (⟨"z"⟩, .bool true)]⟩
    let inner := outer.bindParams [x, y, x] [.bool false, .nil]
    (Store.ofGlobals outer 0).scopes[0]? = some outer ∧
      inner.get? x = none ∧ inner.get? y = some .nil ∧ inner.get? ⟨"z"⟩ = some (.bool true) := by
  intro x y outer inner
  have stored : (Store.ofGlobals outer 0).scopes[0]? = some outer := rfl
  obtain ⟨_, _, -, -, -, binds, -⟩ :=
    Eval.callFunction_binds stored [x, y, x] [.bool false, .nil]
  exact ⟨stored, binds.last 2 x rfl (by simp), binds.last 1 y rfl (by decide),
    binds.outside ⟨"z"⟩ (by decide)⟩

end PocketLisp
