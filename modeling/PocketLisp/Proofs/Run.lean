import PocketLisp.Store

set_option autoImplicit false

namespace PocketLisp

variable {α β : Type}

section Running

@[simp] theorem run_pure (a : α) (store : Store) :
    (pure a : Run α).run store = (.ok a, store) := rfl

@[simp] theorem run_throw (fault : Fault) (store : Store) :
    (throw fault : Run α).run store = (.error fault, store) := rfl

@[simp] theorem run_fail (e : LispError) (store : Store) :
    (fail e : Run α).run store = (.error (.error e), store) := rfl

@[simp] theorem run_get (store : Store) : (get : Run Store).run store = (.ok store, store) := rfl

theorem run_bind (m : Run α) (next : α → Run β) (store : Store) :
    (m >>= next).run store =
      match m.run store with
      | (.ok a, store) => (next a).run store
      | (.error fault, store) => (.error fault, store) := by
  change (match m.run store with | (outcome, store) => ExceptT.bindCont next outcome store) = _
  rcases m.run store with ⟨_ | _, _⟩ <;> rfl

theorem run_bind_ok {m : Run α} {next : α → Run β} {store after : Store} {a : α}
    (ran : m.run store = (.ok a, after)) : (m >>= next).run store = (next a).run after := by
  rw [run_bind, ran]

theorem run_bind_eq_ok {m : Run α} {next : α → Run β} {store after : Store} {b : β}
    (ran : (m >>= next).run store = (.ok b, after)) :
    ∃ a middle, m.run store = (.ok a, middle) ∧ (next a).run middle = (.ok b, after) := by
  rw [run_bind] at ran
  rcases first : m.run store with ⟨fault | a, middle⟩ <;> rw [first] at ran
  · cases ran
  · exact ⟨a, middle, rfl, ran⟩

end Running

def Ends {ε : Type} (value : α → Prop) (error : ε → Prop) : Except ε α → Prop
  | .ok a => value a
  | .error e => error e

namespace Ends

variable {ε : Type} {value : α → Prop} {result : β → Prop} {error : ε → Prop}

theorem always (answer : Except ε α) : Ends (fun _ => True) (fun _ => True) answer := by
  cases answer <;> trivial

theorem bind {answer : Except ε α} {next : α → Except ε β} (first : Ends value error answer)
    (rest : ∀ a, value a → Ends result error (next a)) : Ends result error (answer >>= next) := by
  cases answer with
  | ok a => exact rest a first
  | error e => exact first

theorem weaken {answer : Except ε α} {wider : α → Prop} {milder : ε → Prop}
    (ends : Ends value error answer) (wide : ∀ a, value a → wider a)
    (mild : ∀ e, error e → milder e) : Ends wider milder answer := by
  cases answer with
  | ok a => exact wide a ends
  | error e => exact mild e ends

end Ends

def Keeps (inv : Store → Prop) (value : α → Prop) (fault : Fault → Prop) (m : Run α) : Prop :=
  ∀ store, inv store → inv (m.run store).2 ∧ Ends value fault (m.run store).1

namespace Keeps

variable {inv : Store → Prop} {value : α → Prop} {result : β → Prop} {fault : Fault → Prop}

theorem ok {m : Run α} (keeps : Keeps inv value fault m) {store after : Store} {a : α}
    (kept : inv store) (ran : m.run store = (.ok a, after)) : inv after ∧ value a := by
  have ends := keeps store kept
  rwa [ran] at ends

theorem pure {a : α} (holds : value a) : Keeps inv value fault (pure a) :=
  fun _ kept => ⟨kept, holds⟩

theorem throw {e : Fault} (holds : fault e) : Keeps inv value fault (throw e : Run α) :=
  fun _ kept => ⟨kept, holds⟩

theorem fail {e : LispError} (holds : fault (.error e)) :
    Keeps inv value fault (PocketLisp.fail e : Run α) :=
  throw holds

theorem bind {m : Run α} {next : α → Run β} (first : Keeps inv value fault m)
    (rest : ∀ a, value a → Keeps inv result fault (next a)) :
    Keeps inv result fault (m >>= next) := by
  intro store kept
  have ⟨after, ends⟩ := first store kept
  rw [run_bind]
  rcases ran : m.run store with ⟨outcome | a, store'⟩ <;> rw [ran] at after ends
  · exact ⟨after, ends⟩
  · exact rest a ends store' after

theorem weaken {wider : α → Prop} {m : Run α} (keeps : Keeps inv value fault m)
    (wide : ∀ a, value a → wider a) : Keeps inv wider fault m := by
  intro store kept
  have ⟨after, ends⟩ := keeps store kept
  exact ⟨after, ends.weaken wide fun _ => id⟩

theorem get : Keeps inv inv fault (MonadState.get : Run Store) :=
  fun _ kept => ⟨kept, kept⟩

theorem set {store : Store} (holds : inv store) :
    Keeps inv (fun _ => True) fault (MonadStateOf.set store : Run PUnit) :=
  fun _ _ => ⟨holds, trivial⟩

theorem modify {update : Store → Store} (step : ∀ store, inv store → inv (update store)) :
    Keeps inv (fun _ => True) fault (modify update : Run PUnit) :=
  fun store kept => ⟨step store kept, trivial⟩

theorem orFail {answer : Except LispError α}
    (ends : Ends value (fun e => fault (.error e)) answer) :
    Keeps inv value fault (PocketLisp.orFail answer) := by
  cases answer with
  | ok a => exact pure ends
  | error e => exact fail ends

end Keeps

namespace Store

theorem environment_outside {store : Store} {scope : Scope} (outside : store.scopes.size ≤ scope) :
    store.environment scope = .empty := by
  simp [environment, outside]

@[simp] theorem size_define (store : Store) (scope : Scope) (s : Symbol) (v : Value) :
    (store.define scope s v).scopes.size = store.scopes.size := by
  simp [define]

@[simp] theorem environment_define_self {store : Store} {scope : Scope}
    (inside : scope < store.scopes.size) (s : Symbol) (v : Value) :
    (store.define scope s v).environment scope = (store.environment scope).define s v := by
  simp [define, environment, inside, Array.getElem_modify]

theorem environment_define_outside {store : Store} {scope : Scope}
    (outside : ¬ scope < store.scopes.size) (s : Symbol) (v : Value) :
    (store.define scope s v).environment scope = store.environment scope := by
  simp [define, environment, outside]

@[simp] theorem environment_define_other (store : Store) {scope other : Scope}
    (differ : other ≠ scope) (s : Symbol) (v : Value) :
    (store.define scope s v).environment other = store.environment other := by
  simp [define, environment, Array.getElem?_modify, differ.symm]

@[simp] theorem size_enter (store : Store) (env : Environment) :
    (store.enter env).2.scopes.size = store.scopes.size + 1 := by
  simp [enter]

@[simp] theorem environment_enter_new (store : Store) (env : Environment) :
    (store.enter env).2.environment store.scopes.size = env := by
  simp [enter, environment]

theorem environment_enter_old (store : Store) (env : Environment) {scope : Scope}
    (inside : scope < store.scopes.size) :
    (store.enter env).2.environment scope = store.environment scope := by
  simp [enter, environment, Array.getElem?_push, Nat.ne_of_lt inside]

theorem environment_define (store : Store) (scope other : Scope) (s : Symbol) (v : Value) :
    (store.define scope s v).environment other =
      if other = scope ∧ scope < store.scopes.size then (store.environment scope).define s v
      else store.environment other := by
  by_cases same : other = scope
  · subst same
    by_cases inside : other < store.scopes.size
    · rw [environment_define_self inside, if_pos ⟨rfl, inside⟩]
    · rw [environment_define_outside inside, if_neg fun both => inside both.2]
  · rw [environment_define_other store same, if_neg fun both => same both.1]

theorem environment_enter (store : Store) (env : Environment) (scope : Scope) :
    (store.enter env).2.environment scope =
      if scope = store.scopes.size then env else store.environment scope := by
  rcases Nat.lt_trichotomy scope store.scopes.size with inside | rfl | outside
  · rw [environment_enter_old store env inside, if_neg (Nat.ne_of_lt inside)]
  · rw [environment_enter_new, if_pos rfl]
  · rw [if_neg (Nat.ne_of_gt outside), environment_outside (Nat.le_of_lt outside)]
    exact environment_outside (by rw [size_enter]; exact outside)

theorem environment_ofGlobals (globals : Environment) (mark : Nat) (scope : Scope) :
    (ofGlobals globals mark).environment scope = if scope = 0 then globals else .empty := by
  cases scope with
  | zero => rfl
  | succ scope => exact environment_outside (by simp [ofGlobals])

theorem each_ofGlobals {motive : Environment → Prop} {globals : Environment}
    (holds : motive globals) (empty : motive .empty) (mark : Nat) (scope : Scope) :
    motive ((ofGlobals globals mark).environment scope) := by
  rw [environment_ofGlobals]
  split
  · exact holds
  · exact empty

section Each

variable {motive : Environment → Prop} {store : Store}
  (each : ∀ scope, motive (store.environment scope))

include each

theorem each_define {s : Symbol} {v : Value} (step : ∀ env, motive env → motive (env.define s v))
    (scope other : Scope) : motive ((store.define scope s v).environment other) := by
  rw [environment_define]
  split
  · exact step _ (each scope)
  · exact each other

theorem each_enter {env : Environment} (copied : motive env) (scope : Scope) :
    motive ((store.enter env).2.environment scope) := by
  rw [environment_enter]
  split
  · exact copied
  · exact each scope

end Each

end Store

end PocketLisp
