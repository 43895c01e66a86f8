import PocketLisp.Proofs.Data
import PocketLisp.Proofs.Rules

set_option autoImplicit false

namespace PocketLisp

variable {α β : Type}

/-- Runs from related stores end alike, in a value as `value` says if they end in one, and leave
related stores. -/
def Coupled (stores : Store → Store → Prop) (value : α → Prop) (m : Run α) : Prop :=
  ∀ a b, stores a b → (m.run a).1 = (m.run b).1 ∧ stores (m.run a).2 (m.run b).2 ∧
    Ends value (fun _ => True) (m.run a).1

namespace Coupled

variable {stores : Store → Store → Prop} {value : α → Prop} {result : β → Prop}

theorem pure {v : α} (holds : value v) : Coupled stores value (pure v) :=
  fun _ _ related => ⟨rfl, related, holds⟩

theorem throw (fault : Fault) : Coupled stores value (throw fault : Run α) :=
  fun _ _ related => ⟨rfl, related, trivial⟩

theorem fail (e : LispError) : Coupled stores value (PocketLisp.fail e : Run α) :=
  throw (.error e)

theorem bind {m : Run α} {next : α → Run β} (first : Coupled stores value m)
    (rest : ∀ v, value v → Coupled stores result (next v)) :
    Coupled stores result (m >>= next) := by
  intro a b related
  obtain ⟨same, after, ends⟩ := first a b related
  rw [run_bind, run_bind]
  rcases left : m.run a with ⟨outcome, a'⟩
  rcases right : m.run b with ⟨outcome', b'⟩
  rw [left, right] at same after
  rw [left] at ends
  obtain rfl : outcome = outcome' := same
  cases outcome with
  | ok v => exact rest v ends a' b' after
  | error fault => exact ⟨rfl, after, trivial⟩

-- What is read of the store may be all that a computation depends on.
theorem read {γ : Type} {m : Run α} (observe : Store → γ) (next : γ → Run α)
    (reads : ∀ store, m.run store = (next (observe store)).run store)
    (same : ∀ a b, stores a b → observe a = observe b)
    (rest : ∀ a b, stores a b → Coupled stores value (next (observe a))) :
    Coupled stores value m := by
  intro a b related
  have ends := rest a b related a b related
  rw [reads a, reads b, ← same a b related]
  exact ends

theorem modify {update : Store → Store}
    (step : ∀ a b, stores a b → stores (update a) (update b)) :
    Coupled stores (fun _ => True) (modify update : Run PUnit) :=
  fun a b related => ⟨rfl, step a b related, trivial⟩

theorem orFail {answer : Except LispError α} (ends : Ends value (fun _ => True) answer) :
    Coupled stores value (PocketLisp.orFail answer) := by
  cases answer with
  | ok v => exact pure ends
  | error e => exact fail e

end Coupled

namespace Eval

/-- What may be evaluated in each scope, what symbols may be bound to, and what evaluation gives. -/
structure Fragment where
  expr : Scope → Value → Prop
  bound : Value → Prop
  value : Value → Prop
  data : ∀ v, v.Data (fun _ => True) → value v
  quoted : ∀ {scope head datum}, expr scope (.list [head, datum]) →
    specialForm? head = some .quote → value datum
  parts : ∀ {scope head parts}, expr scope (.list (head :: parts)) →
    specialForm? head = none ∨ specialForm? head = some .conditional → ∀ v ∈ parts, expr scope v
  head : ∀ {scope head parts}, expr scope (.list (head :: parts)) → head.isSymbol = false →
    expr scope head
  call : ∀ {p : Primitive} {mark args}, (∀ v ∈ args, value v) →
    Ends value (fun _ => True) (p.call mark args)
  plain : ∀ {v}, bound v → v.isProcedure = false → value v
  applied : ∀ {v}, value v → bound v

def Fragment.all : Fragment where
  expr := fun _ _ => True
  bound := fun _ => True
  value := fun _ => True
  data := fun _ _ => trivial
  quoted := fun _ _ => trivial
  parts := fun _ _ _ _ => trivial
  head := fun _ _ => trivial
  call := fun _ => .always _
  plain := fun _ _ => trivial
  applied := fun _ => trivial

def Holds (expr : Value → Prop) : Value → Prop
  | .primitive _ => True
  | .function _ _ _ body _ => ∀ form ∈ body, expr form
  | v => v.Data fun _ => True

theorem Holds.data {expr : Value → Prop} {v : Value} (data : v.Data fun _ => True) :
    Holds expr v := by
  cases data with
  | nil => exact .nil
  | bool b => exact .bool b
  | number x => exact .number x
  | symbol admitted => exact .symbol admitted
  | list each => exact .list each

theorem Holds.plain {expr : Value → Prop} {v : Value} (holds : Holds expr v)
    (plain : v.isProcedure = false) : v.Data fun _ => True := by
  cases v with
  | primitive p => exact absurd plain (by simp [Value.isProcedure])
  | function tag name params body home => exact absurd plain (by simp [Value.isProcedure])
  | _ => exact holds

theorem call_data {p : Primitive} {mark : Nat} {args : List Value}
    (each : ∀ v ∈ args, v.Data fun _ => True) :
    Ends (Value.Data fun _ => True) (fun _ => True) (p.call mark args) :=
  (Primitive.call_sound p mark each).weaken (fun _ => id) fun _ _ => trivial

def Fragment.ofForms (expr : Value → Prop) (data : ∀ v, expr v → v.Data fun _ => True)
    (parts : ∀ {head parts}, expr (.list (head :: parts)) →
      specialForm? head = none ∨ specialForm? head = some .conditional → ∀ v ∈ parts, expr v)
    (head : ∀ {head parts}, expr (.list (head :: parts)) → head.isSymbol = false → expr head) :
    Fragment where
  expr := fun _ => expr
  bound := Holds expr
  value := Value.Data fun _ => True
  data := fun _ => id
  quoted := fun admitted _ => (data _ admitted).items _ (by simp)
  parts := parts
  head := head
  call := call_data
  plain := Holds.plain
  applied := Holds.data

def Fragment.ofData (expr : Value → Prop) (data : ∀ v, expr v → v.Data fun _ => True)
    (items : ∀ items, expr (.list items) → ∀ v ∈ items, expr v) : Fragment :=
  .ofForms expr data (fun admitted _ v member => items _ admitted v (by simp [member]))
    (fun admitted _ => items _ admitted _ (by simp))

/-- A relation of stores that evaluating a fragment cannot tell apart and does not leave. -/
structure Coupling (fragment : Fragment) (stores : Store → Store → Prop) : Prop where
  size : ∀ {a b}, stores a b → a.scopes.size = b.scopes.size
  mark : ∀ {a b}, stores a b → a.nextMark = b.nextMark
  symbol : ∀ {a b scope s}, stores a b → fragment.expr scope (.symbol s) →
    (a.environment scope).get? s = (b.environment scope).get? s
  head : ∀ {a b scope s parts}, stores a b → fragment.expr scope (.list (.symbol s :: parts)) →
    SpecialForm.ofSymbol? s = none →
    (a.environment scope).get? s = (b.environment scope).get? s
  bound : ∀ {a b scope s v}, stores a b → (a.environment scope).get? s = some v → fragment.bound v
  define : ∀ {a b scope head s list params body}, stores a b →
    fragment.expr scope (.list (head :: .symbol s :: list :: body)) →
    specialForm? head = some .definition → params? list = some params →
    stores (a.define scope s (.function 0 s.name params body scope))
      (b.define scope s (.function 0 s.name params body scope))
  enter : ∀ {a b tag name params body home args}, stores a b →
    fragment.bound (.function tag name params body home) → (∀ v ∈ args, fragment.value v) →
    stores (a.enter ((a.environment home).bindParams params args)).2
      (b.enter ((b.environment home).bindParams params args)).2
  body : ∀ {a b tag name params body home}, stores a b →
    fragment.bound (.function tag name params body home) →
    ∀ form ∈ body, fragment.expr a.scopes.size form
  record : ∀ {a b p args}, stores a b → (∀ v ∈ args, fragment.value v) →
    stores (a.record (Primitive.printed p args)) (b.record (Primitive.printed p args))

variable {fragment : Fragment} {stores : Store → Store → Prop}

section Rules

variable (coupling : Coupling fragment stores)

include coupling

theorem reference_coupled {scope : Scope} {s : Symbol}
    (admitted : fragment.expr scope (.symbol s)) :
    Coupled stores fragment.value (reference scope s) := by
  refine .read (fun store => (store.environment scope).lookup s)
    (fun answer => do
      let v ← orFail answer
      if v.isProcedure then fail (.callableUsedAsValue s) else return v) (fun _ => rfl) ?_ ?_
  · intro a b related
    simp only [Environment.lookup, coupling.symbol related admitted]
  · intro a b related
    have found : Ends fragment.bound (fun _ => True) ((a.environment scope).lookup s) := by
      unfold Environment.lookup
      split
      · next v bound => exact coupling.bound related bound
      · trivial
    refine .bind (.orFail found) fun v bound => ?_
    split
    · exact .fail _
    · next plain => exact .pure (fragment.plain bound (Bool.eq_false_iff.mpr plain))

theorem define_coupled {scope : Scope} {head : Value} {parts : List Value}
    (admitted : fragment.expr scope (.list (head :: parts)))
    (definition : specialForm? head = some .definition) :
    Coupled stores fragment.value (define scope parts) := by
  unfold define
  split
  · next s list body =>
    split
    · next params known =>
      refine .bind (.modify fun a b related => ?_) fun _ _ =>
        .pure (fragment.data _ (.symbol trivial))
      exact coupling.define related admitted definition known
    · exact .fail _
  · exact .fail _
  · exact .fail _

theorem callPrimitive_coupled (p : Primitive) {args : List Value}
    (each : ∀ v ∈ args, fragment.value v) :
    Coupled stores fragment.value (callPrimitive p args) := by
  refine .read Store.nextMark
    (fun mark => do
      let v ← orFail (p.call mark args)
      modify (·.record (p.printed args))
      return v) (fun _ => rfl) ?_ ?_
  · exact fun _ _ related => coupling.mark related
  · intro a b _
    refine .bind (.orFail (fragment.call each)) fun v value => ?_
    exact .bind (.modify fun _ _ related => coupling.record related each) fun _ _ => .pure value

-- Each rule is coupled if the evaluator that it is given is, at the expressions of the fragment.
variable {eval : Evaluator}
  (coupled : ∀ scope expr, fragment.expr scope expr →
    Coupled stores fragment.value (eval scope expr))

include coupled

omit coupling in
theorem conditional_coupled {scope : Scope} {parts : List Value}
    (each : ∀ v ∈ parts, fragment.expr scope v) :
    Coupled stores fragment.value (special eval scope parts .conditional) := by
  simp only [special]
  split
  · refine .bind (coupled _ _ (each _ (by simp))) fun v _ => ?_
    split
    · exact coupled _ _ (each _ (by simp))
    · exact .pure (fragment.data _ .nil)
  · refine .bind (coupled _ _ (each _ (by simp))) fun v _ => ?_
    split
    · exact coupled _ _ (each _ (by simp))
    · exact coupled _ _ (each _ (by simp))
  · exact .fail _

theorem special_coupled {scope : Scope} {head : Value} {parts : List Value} {form : SpecialForm}
    (admitted : fragment.expr scope (.list (head :: parts)))
    (special : specialForm? head = some form) :
    Coupled stores fragment.value (Eval.special eval scope parts form) := by
  cases form with
  | quote =>
    simp only [Eval.special]
    split
    · exact .pure (fragment.quoted admitted special)
    · exact .fail _
  | conditional => exact conditional_coupled coupled (fragment.parts admitted (.inr special))
  | definition => exact define_coupled coupling admitted special

omit coupling in
theorem evalBody_coupled {scope : Scope} {last : Value} (value : fragment.value last)
    {body : List Value} (each : ∀ form ∈ body, fragment.expr scope form) :
    Coupled stores fragment.value (evalBody eval scope last body) := by
  induction body generalizing last with
  | nil => exact .pure value
  | cons form rest ih =>
    refine .bind (coupled _ _ (each form (by simp))) fun v value => ?_
    exact ih value fun later member => each later (by simp [member])

omit coupling in
theorem evalArgs_coupled {scope : Scope} {args : List Value}
    (each : ∀ arg ∈ args, fragment.expr scope arg) :
    Coupled stores (fun vs => ∀ v ∈ vs, fragment.value v) (evalArgs eval scope args) := by
  induction args with
  | nil => exact .pure (by simp)
  | cons arg rest ih =>
    refine .bind (coupled _ _ (each arg (by simp))) fun v value => ?_
    refine .bind (ih fun later member => each later (by simp [member])) fun vs values => ?_
    exact .pure fun w member => (List.mem_cons.mp member).elim (· ▸ value) (values w)

theorem callFunction_coupled {tag : Nat} {name : String} {params : List Symbol} {body : List Value}
    {home : Scope} {args : List Value}
    (bound : fragment.bound (.function tag name params body home))
    (each : ∀ v ∈ args, fragment.value v) :
    Coupled stores fragment.value (callFunction eval params body home args) := by
  intro a b related
  -- The scopes that the two calls enter have one number, as the stores are of one size.
  rw [run_callFunction, run_callFunction, ← coupling.size related]
  have nil := fragment.data _ .nil
  exact evalBody_coupled coupled nil (coupling.body related bound) _ _
    (coupling.enter related bound each)

theorem apply_coupled (room : Nat) {procedure : Value} {args : List Value}
    (bound : fragment.bound procedure) (each : ∀ v ∈ args, fragment.value v) :
    Coupled stores fragment.value (apply room eval procedure args) := by
  cases procedure with
  | primitive p =>
    simp only [apply]
    split
    · exact callPrimitive_coupled coupling p each
    · exact .throw _
  | function tag name params body home => exact callFunction_coupled coupling coupled bound each
  | _ => exact .fail _

theorem evalHead_coupled {scope : Scope} {head : Value} {parts : List Value}
    (admitted : fragment.expr scope (.list (head :: parts))) (call : specialForm? head = none) :
    Coupled stores fragment.bound (evalHead eval scope head) := by
  cases head with
  | symbol s =>
    intro a b related
    rw [run_evalHead_symbol, run_evalHead_symbol, ← coupling.head related admitted call]
    cases found : (a.environment scope).get? s with
    | some v => exact ⟨rfl, related, coupling.bound related found⟩
    | none => exact ⟨rfl, related, trivial⟩
  | _ =>
    intro a b related
    obtain ⟨same, after, ends⟩ := coupled scope _ (fragment.head admitted rfl) a b related
    exact ⟨same, after, ends.weaken (fun _ => fragment.applied) fun _ => id⟩

theorem evalCall_coupled (room : Nat) {scope : Scope} {head : Value} {parts : List Value}
    (admitted : fragment.expr scope (.list (head :: parts))) (call : specialForm? head = none) :
    Coupled stores fragment.value (evalCall room eval scope head parts) := by
  refine .bind (evalHead_coupled coupling coupled admitted call) fun procedure bound => ?_
  split
  · have each := fragment.parts admitted (.inl call)
    refine .bind (evalArgs_coupled coupled each) fun args values => ?_
    exact apply_coupled coupling coupled room bound values
  · exact .fail _

theorem step_coupled (room : Nat) {scope : Scope} {expr : Value}
    (admitted : fragment.expr scope expr) :
    Coupled stores fragment.value (step room eval scope expr) := by
  match expr with
  | .nil => exact .pure (fragment.data _ .nil)
  | .bool b => exact .pure (fragment.data _ (.bool b))
  | .number x => exact .pure (fragment.data _ (.number x))
  | .symbol s => exact reference_coupled coupling admitted
  | .list [] => exact .pure (fragment.data _ .nil)
  | .list (head :: parts) =>
    simp only [step, evalForm]
    split
    · next form special => exact special_coupled coupling coupled admitted special
    · next call => exact evalCall_coupled coupling coupled room admitted call
  | .text _ | .primitive _ | .function .. => exact .fail _

end Rules

theorem Coupling.eval (coupling : Coupling fragment stores) (budget : Nat) :
    ∀ scope expr, fragment.expr scope expr →
      Coupled stores fragment.value (PocketLisp.eval budget scope expr) := by
  induction budget with
  | zero => exact fun _ _ _ => .throw _
  | succ budget ih => exact fun _ _ admitted => step_coupled coupling ih budget admitted

structure Invariant (fragment : Fragment) (inv : Store → Prop) : Prop where
  bound : ∀ {store scope s v}, inv store → (store.environment scope).get? s = some v →
    fragment.bound v
  define : ∀ {store scope head s list params body}, inv store →
    fragment.expr scope (.list (head :: .symbol s :: list :: body)) →
    specialForm? head = some .definition → params? list = some params →
    inv (store.define scope s (.function 0 s.name params body scope))
  enter : ∀ {store tag name params body home args}, inv store →
    fragment.bound (.function tag name params body home) → (∀ v ∈ args, fragment.value v) →
    inv (store.enter ((store.environment home).bindParams params args)).2
  body : ∀ {store tag name params body home}, inv store →
    fragment.bound (.function tag name params body home) →
    ∀ form ∈ body, fragment.expr store.scopes.size form
  record : ∀ {store p args}, inv store → (∀ v ∈ args, fragment.value v) →
    inv (store.record (Primitive.printed p args))

theorem Invariant.coupling {inv : Store → Prop} (invariant : Invariant fragment inv) :
    Coupling fragment (fun a b => a = b ∧ inv a) where
  size := fun ⟨same, _⟩ => same ▸ rfl
  mark := fun ⟨same, _⟩ => same ▸ rfl
  symbol := fun ⟨same, _⟩ _ => same ▸ rfl
  head := fun ⟨same, _⟩ _ _ => same ▸ rfl
  bound := fun ⟨_, kept⟩ => invariant.bound kept
  define := fun ⟨same, kept⟩ admitted definition known =>
    ⟨same ▸ rfl, invariant.define kept admitted definition known⟩
  enter := fun ⟨same, kept⟩ bound each => ⟨same ▸ rfl, invariant.enter kept bound each⟩
  body := fun ⟨_, kept⟩ => invariant.body kept
  record := fun ⟨same, kept⟩ each => ⟨same ▸ rfl, invariant.record kept each⟩

theorem Invariant.eval {inv : Store → Prop} (invariant : Invariant fragment inv) (budget : Nat)
    {scope : Scope} {expr : Value} (admitted : fragment.expr scope expr) {store : Store}
    (kept : inv store) : inv ((PocketLisp.eval budget scope expr).run store).2 := by
  obtain ⟨-, ⟨-, after⟩, -⟩ :=
    invariant.coupling.eval budget scope expr admitted store store ⟨rfl, kept⟩
  exact after

end Eval

end PocketLisp
