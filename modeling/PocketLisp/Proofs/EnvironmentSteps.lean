import Mathlib.Data.List.Forall2
import PocketLisp.Proofs.EnvironmentHistory
import PocketLisp.Proofs.Run

set_option autoImplicit false

namespace PocketLisp.Environment

inductive Step where
  | define (name v : Value)
  | undefine (s : Symbol)
  | update (entries : List (Value × Value))
  -- Goes on with a copy of the environment in use.
  | copy
  -- Goes back to what the environment in use was copied from.
  | restore

-- The symbols that stand before any other value.
def leading : List Value → List Symbol
  | .symbol s :: rest => s :: leading rest
  | _ => []

def lastValue? (s : Symbol) (entries : List (Value × Value)) : Option Value :=
  (entries.filter fun entry => isKey s entry.1).getLast?.map (·.2)

-- The changes of an update, whose entries are those of a mapping: a symbol has its first place
-- and its last value.
def updates (entries : List (Value × Value)) : List Change :=
  (leading (entries.map (·.1))).eraseDups.filterMap fun s =>
    (lastValue? s entries).map (.define s)

def Step.changes : Step → List Change
  | .define (.symbol s) v => [.define s v]
  | .undefine s => [.undefine s]
  | .update entries => updates entries
  | _ => []

-- The name that a step cannot bind.
def Step.refused? : Step → Option Value
  | .define name _ => if name.isSymbol then none else some name
  | .update entries => (entries.map (·.1)).find? (!·.isSymbol)
  | _ => none

section Mapping

def without (s : Symbol) (entries : List (Value × Value)) : List (Value × Value) :=
  entries.filter fun entry => !isKey s entry.1

variable {s : Symbol} {name : Value}

theorem isKey_iff : isKey s name = true ↔ name = .symbol s := by
  cases name <;> simp [isKey]

theorem isKey_of_ne {t : Symbol} (differ : t ≠ s) : isKey s (.symbol t) = false :=
  beq_eq_false_iff_ne.mpr differ

theorem without_cons_self (s : Symbol) (v : Value) (rest : List (Value × Value)) :
    without s ((.symbol s, v) :: rest) = without s rest := by
  simp [without, isKey_iff.mpr]

theorem without_cons_other (other : isKey s name = false) (v : Value)
    (rest : List (Value × Value)) :
    without s ((name, v) :: rest) = (name, v) :: without s rest := by
  simp [without, other]

theorem length_without_le (s : Symbol) (entries : List (Value × Value)) :
    (without s entries).length ≤ entries.length :=
  List.length_filter_le _ _

theorem lastValue?_cons_self (s : Symbol) (v : Value) (rest : List (Value × Value)) :
    lastValue? s ((.symbol s, v) :: rest) = some ((lastValue? s rest).getD v) := by
  have first : isKey s (.symbol s) = true := isKey_iff.mpr rfl
  simp only [lastValue?, List.filter_cons, first, if_true, List.getLast?_cons]
  cases (rest.filter fun entry => isKey s entry.1).getLast? <;> rfl

theorem lastValue?_cons_other (other : isKey s name = false) (v : Value)
    (rest : List (Value × Value)) : lastValue? s ((name, v) :: rest) = lastValue? s rest := by
  simp [lastValue?, other]

theorem lastValue?_without {t : Symbol} (differ : t ≠ s) (entries : List (Value × Value)) :
    lastValue? t (without s entries) = lastValue? t entries := by
  have implied : ∀ entry ∈ entries, (isKey t entry.1 && !isKey s entry.1) = isKey t entry.1 := by
    intro entry _
    by_cases key : isKey t entry.1 = true
    · simp [isKey_iff.mp key, isKey_of_ne differ]
    · simp [key]
  rw [lastValue?, without, List.filter_filter, List.filter_congr implied, lastValue?]

theorem leading_without (s : Symbol) (entries : List (Value × Value)) :
    leading ((without s entries).map (·.1)) = (leading (entries.map (·.1))).filter (· != s) := by
  induction entries with
  | nil => rfl
  | cons entry rest ih =>
    obtain ⟨name, v⟩ := entry
    cases name with
    | symbol t =>
      by_cases same : t = s
      · subst same
        simp [without_cons_self, leading, ih]
      · simp [without_cons_other (isKey_of_ne same), leading, ih, same]
    | _ => rfl

theorem updates_cons (s : Symbol) (v : Value) (rest : List (Value × Value)) :
    updates ((.symbol s, v) :: rest) =
      .define s ((lastValue? s rest).getD v) :: updates (without s rest) := by
  have others : ∀ t ∈ ((leading (rest.map (·.1))).filter (· != s)).eraseDups,
      (lastValue? t ((.symbol s, v) :: rest)).map (Change.define t) =
        (lastValue? t (without s rest)).map (.define t) := by
    intro t member
    have differ : t ≠ s := by simpa using (List.mem_filter.mp (List.mem_eraseDups.mp member)).2
    rw [lastValue?_cons_other (isKey_of_ne (Ne.symm differ)), lastValue?_without differ]
  rw [updates, List.map_cons, leading, List.eraseDups_cons, List.filterMap_cons,
    lastValue?_cons_self, updates, leading_without]
  exact congrArg _ (List.filterMap_congr others)

-- Collapsing takes up the entries one after another.
def absorb (done : List (Value × Value)) (entry : Value × Value) : List (Value × Value) :=
  match entry.1 with
  | .symbol s => put (isKey s) entry.1 entry.2 done
  | _ => done ++ [entry]

theorem collapse_eq (entries : List (Value × Value)) : collapse entries = entries.foldl absorb [] :=
  rfl

theorem absorb_cons {entry : Value × Value} (other : ∀ s, entry.1 = .symbol s → name ≠ .symbol s)
    (v : Value) (done : List (Value × Value)) :
    absorb ((name, v) :: done) entry = (name, v) :: absorb done entry := by
  obtain ⟨key, w⟩ := entry
  cases key with
  | symbol s =>
    have passed : ¬ isKey s name = true := fun found => other s rfl (isKey_iff.mp found)
    simp [absorb, put, passed]
  | _ => rfl

theorem foldl_absorb_symbol (s : Symbol) (v : Value) (done entries : List (Value × Value)) :
    entries.foldl absorb ((.symbol s, v) :: done) =
      (.symbol s, (lastValue? s entries).getD v) :: (without s entries).foldl absorb done := by
  induction entries generalizing v done with
  | nil => rfl
  | cons entry rest ih =>
    obtain ⟨name, w⟩ := entry
    by_cases key : isKey s name = true
    · obtain rfl := isKey_iff.mp key
      have replaced : absorb ((.symbol s, v) :: done) (.symbol s, w) = (.symbol s, w) :: done := by
        simp [absorb, put, key]
      rw [List.foldl_cons, replaced, ih, lastValue?_cons_self, without_cons_self]
      rfl
    · have other : isKey s name = false := Bool.eq_false_iff.mpr key
      have passed : absorb ((.symbol s, v) :: done) (name, w) =
          (.symbol s, v) :: absorb done (name, w) :=
        absorb_cons (fun t found same => key (isKey_iff.mpr (found.trans same.symm))) v done
      rw [List.foldl_cons, passed, ih, lastValue?_cons_other other, without_cons_other other,
        List.foldl_cons]

theorem foldl_absorb_other (other : name.isSymbol = false) (v : Value)
    (done entries : List (Value × Value)) :
    entries.foldl absorb ((name, v) :: done) = (name, v) :: entries.foldl absorb done := by
  induction entries generalizing done with
  | nil => rfl
  | cons entry rest ih =>
    have passed : absorb ((name, v) :: done) entry = (name, v) :: absorb done entry := by
      refine absorb_cons (fun s _ same => ?_) v done
      rw [same] at other
      cases other
    rw [List.foldl_cons, passed, ih, List.foldl_cons]

theorem collapse_symbol (s : Symbol) (v : Value) (rest : List (Value × Value)) :
    collapse ((.symbol s, v) :: rest) =
      (.symbol s, (lastValue? s rest).getD v) :: collapse (without s rest) :=
  foldl_absorb_symbol s v [] rest

theorem collapse_other (other : name.isSymbol = false) (v : Value)
    (rest : List (Value × Value)) :
    collapse ((name, v) :: rest) = (name, v) :: collapse rest := by
  have first : absorb [] (name, v) = [(name, v)] := by
    cases name with
    | symbol s => cases other
    | _ => rfl
  rw [collapse_eq, List.foldl_cons, first, foldl_absorb_other other, collapse_eq]

theorem refused?_without (s : Symbol) (entries : List (Value × Value)) :
    (Step.update (without s entries)).refused? = (Step.update entries).refused? := by
  induction entries with
  | nil => rfl
  | cons entry rest ih =>
    obtain ⟨name, v⟩ := entry
    cases name with
    | symbol t =>
      by_cases same : t = s
      · subst same
        rw [without_cons_self]
        exact ih
      · rw [without_cons_other (isKey_of_ne same)]
        exact ih
    | _ => rfl

-- Each symbol is bound once, with the value of its last entry.
theorem update_eq (env : Environment) (entries : List (Value × Value)) :
    env.update entries =
      (env.applyAll (updates entries), (Step.update entries).refused?.map .cannotBind) := by
  induction many : entries.length using Nat.strongRecOn generalizing env entries with
  | ind n ih =>
    cases entries with
    | nil => rfl
    | cons entry rest =>
      obtain ⟨name, v⟩ := entry
      cases name with
      | symbol s =>
        have fewer : (without s rest).length < n := by
          rw [← many, List.length_cons]
          exact Nat.lt_succ_of_le (length_without_le s rest)
        have later := ih _ fewer (env.define s ((lastValue? s rest).getD v)) _ rfl
        rw [refused?_without] at later
        rw [update, collapse_symbol, updates_cons]
        exact later
      | _ =>
        rw [update, collapse_other rfl]
        rfl

end Mapping

structure Stack where
  store : Store
  current : Scope
  saved : List Scope

namespace Stack

def start (bindings : List (Symbol × Value)) : Stack :=
  ⟨.ofGlobals (Environment.empty.defineAll bindings) 0, 0, []⟩

def environment (stack : Stack) : Environment :=
  stack.store.environment stack.current

def put (stack : Stack) (env : Environment) : Stack :=
  { stack with store.scopes := stack.store.scopes.setIfInBounds stack.current env }

def step (stack : Stack) : Step → Stack × Option LispError
  | .define name v =>
    match stack.environment.bind name v with
    | .ok env => (stack.put env, none)
    | .error e => (stack, some e)
  | .undefine s => (stack.put (stack.environment.undefine s), none)
  | .update entries =>
    let (env, e) := stack.environment.update entries
    (stack.put env, e)
  | .copy =>
    let (scope, store) := stack.store.enter stack.environment
    (⟨store, scope, stack.current :: stack.saved⟩, none)
  | .restore =>
    match stack.saved with
    | [] => (stack, none)
    | scope :: saved => ({ stack with current := scope, saved := saved }, none)

def run (stack : Stack) (steps : List Step) : Stack :=
  steps.foldl (fun stack step => (stack.step step).1) stack

end Stack

structure Journal where
  current : List Change
  saved : List (List Change)

namespace Journal

def start (bindings : List (Symbol × Value)) : Journal :=
  ⟨bindings.map fun binding => .define binding.1 binding.2, []⟩

def step (journal : Journal) : Step → Journal
  | .copy => ⟨journal.current, journal.current :: journal.saved⟩
  | .restore =>
    match journal.saved with
    | [] => journal
    | changes :: saved => ⟨changes, saved⟩
  | step => ⟨journal.current ++ step.changes, journal.saved⟩

def run (journal : Journal) (steps : List Step) : Journal :=
  steps.foldl step journal

end Journal

-- How many copies lie between a saved environment and the one in use, after a step that does not
-- go back to the saved one.
def level? (copies : Nat) : Step → Option Nat
  | .copy => some (copies + 1)
  | .restore =>
    match copies with
    | 0 => none
    | copies + 1 => some copies
  | _ => some copies

namespace Stack

structure Follows (stack : Stack) (journal : Journal) : Prop where
  inside : ∀ scope ∈ stack.current :: stack.saved, scope < stack.store.scopes.size
  apart : (stack.current :: stack.saved).Nodup
  tells : List.Forall₂ (fun scope changes => Tells changes (stack.store.environment scope))
    (stack.current :: stack.saved) (journal.current :: journal.saved)

section Put

variable {stack : Stack} (env : Environment)

theorem size_put : (stack.put env).store.scopes.size = stack.store.scopes.size :=
  Array.size_setIfInBounds

theorem environment_put_self (inside : stack.current < stack.store.scopes.size) :
    (stack.put env).store.environment stack.current = env := by
  simp [put, Store.environment, inside]

theorem environment_put_other {scope : Scope} (other : scope ≠ stack.current) :
    (stack.put env).store.environment scope = stack.store.environment scope := by
  simp [put, Store.environment, Array.getElem?_setIfInBounds_ne (Ne.symm other)]

end Put

-- A step changes the environment in use alone.
theorem environment_step {stack : Stack} {scope : Scope} (inside : scope < stack.store.scopes.size)
    (other : scope ≠ stack.current) (step : Step) :
    (stack.step step).1.store.environment scope = stack.store.environment scope := by
  cases step with
  | define name v =>
    cases name with
    | symbol s => exact environment_put_other _ other
    | _ => rfl
  | undefine s => exact environment_put_other _ other
  | update entries => exact environment_put_other _ other
  | copy => exact Store.environment_enter_old _ _ inside
  | restore =>
    rw [Stack.step]
    split <;> rfl

theorem saved_step {stack : Stack} {held : Scope} {copies next : Nat}
    (below : stack.saved[copies]? = some held) {step : Step}
    (above : level? copies step = some next) : (stack.step step).1.saved[next]? = some held := by
  cases step with
  | define name v =>
    obtain rfl : copies = next := Option.some.inj above
    cases name <;> exact below
  | undefine | update =>
    obtain rfl : copies = next := Option.some.inj above
    exact below
  | copy =>
    obtain rfl : copies + 1 = next := Option.some.inj above
    exact below
  | restore =>
    cases copies with
    | zero => cases above
    | succ copies =>
      obtain rfl : copies = next := Option.some.inj above
      rw [Stack.step]
      cases saved : stack.saved with
      | nil => simp [saved] at below
      | cons scope rest => simpa [saved] using below

namespace Follows

variable {stack : Stack} {journal : Journal}

theorem current_inside (follows : stack.Follows journal) :
    stack.current < stack.store.scopes.size :=
  follows.inside _ List.mem_cons_self

theorem ne_current (follows : stack.Follows journal) {scope : Scope}
    (member : scope ∈ stack.saved) : scope ≠ stack.current := by
  rintro rfl
  exact (List.nodup_cons.mp follows.apart).1 member

theorem put (follows : stack.Follows journal) (more : List Change) :
    (stack.put (stack.environment.applyAll more)).Follows
      ⟨journal.current ++ more, journal.saved⟩ where
  inside := by
    rw [size_put]
    exact follows.inside
  apart := follows.apart
  tells := by
    obtain ⟨current, saved⟩ := List.forall₂_cons.mp follows.tells
    refine .cons ?_ ?_
    · show Tells _ ((stack.put _).store.environment stack.current)
      rw [environment_put_self _ follows.current_inside]
      exact current.applyAll more
    · have others : ∀ scope ∈ stack.saved, scope ≠ stack.current := fun _ => follows.ne_current
      refine ((List.forall₂_and_left _ _).mpr ⟨others, saved⟩).imp fun scope changes both => ?_
      rw [environment_put_other _ both.1]
      exact both.2

theorem copy (follows : stack.Follows journal) :
    (stack.step .copy).1.Follows (journal.step .copy) where
  inside := by
    intro scope member
    have size : (stack.step .copy).1.store.scopes.size = stack.store.scopes.size + 1 :=
      Store.size_enter _ _
    rw [size]
    rcases List.mem_cons.mp member with rfl | old
    · exact Nat.lt_succ_self _
    · exact Nat.lt_succ_of_lt (follows.inside scope old)
  apart := by
    refine List.nodup_cons.mpr ⟨fun old => ?_, follows.apart⟩
    exact Nat.lt_irrefl _ (follows.inside _ old)
  tells := by
    refine .cons ?_ ?_
    · show Tells _ ((stack.store.enter stack.environment).2.environment stack.store.scopes.size)
      rw [Store.environment_enter_new]
      exact (List.forall₂_cons.mp follows.tells).1
    · refine ((List.forall₂_and_left _ _).mpr ⟨follows.inside, follows.tells⟩).imp ?_
      rintro scope changes ⟨inside, tells⟩
      show Tells changes ((stack.store.enter stack.environment).2.environment scope)
      rwa [Store.environment_enter_old _ _ inside]

theorem restore (follows : stack.Follows journal) :
    (stack.step .restore).1.Follows (journal.step .restore) := by
  obtain ⟨store, current, saved⟩ := stack
  obtain ⟨changes, histories⟩ := journal
  cases follows.tells with
  | cons first later =>
    cases later with
    | nil => exact follows
    | cons second later =>
      exact {
        inside := fun scope member => follows.inside scope (List.mem_cons_of_mem _ member)
        apart := (List.nodup_cons.mp follows.apart).2
        tells := .cons second later }

theorem step (follows : stack.Follows journal) (step : Step) :
    (stack.step step).1.Follows (journal.step step) := by
  cases step with
  | define name v =>
    cases name with
    | symbol s => exact follows.put [.define s v]
    | _ =>
      have kept : Follows stack ⟨journal.current ++ [], journal.saved⟩ := by
        rwa [List.append_nil]
      exact kept
  | undefine s => exact follows.put [.undefine s]
  | update entries =>
    have effect : (stack.environment.update entries).1 =
        stack.environment.applyAll (updates entries) := by rw [update_eq]
    have updated := follows.put (updates entries)
    rw [← effect] at updated
    exact updated
  | copy => exact follows.copy
  | restore => exact follows.restore

theorem run (follows : stack.Follows journal) (steps : List Step) :
    (stack.run steps).Follows (journal.run steps) := by
  induction steps generalizing stack journal with
  | nil => exact follows
  | cons step rest ih => exact ih (follows.step step)

theorem start (bindings : List (Symbol × Value)) :
    (Stack.start bindings).Follows (Journal.start bindings) where
  inside := by
    intro scope member
    rw [List.mem_singleton.mp member]
    exact Nat.one_pos
  apart := List.nodup_singleton 0
  tells := by
    have made : Environment.empty.applyAll (Journal.start bindings).current =
        Environment.empty.defineAll bindings := List.foldl_map
    have tells := Tells.empty.applyAll (Journal.start bindings).current
    rw [made] at tells
    exact .cons tells .nil

-- The invariant is where the environment stands among the saved ones: while it does, it is not in
-- use.
theorem saved_run (follows : stack.Follows journal) {held : Scope} {copies final : Nat}
    (below : stack.saved[copies]? = some held) {steps : List Step}
    (above : steps.foldlM level? copies = some final) :
    (stack.run steps).store.environment held = stack.store.environment held ∧
      (stack.run steps).saved[final]? = some held := by
  induction steps generalizing stack journal copies with
  | nil =>
    obtain rfl : copies = final := Option.some.inj above
    exact ⟨rfl, below⟩
  | cons step rest ih =>
    rw [List.foldlM_cons] at above
    obtain ⟨next, first, later⟩ := Option.bind_eq_some_iff.mp above
    have member : held ∈ stack.saved := List.mem_of_getElem? below
    have inside := follows.inside held (List.mem_cons_of_mem _ member)
    have kept := environment_step inside (follows.ne_current member) step
    obtain ⟨unchanged, stands⟩ := ih (follows.step step) (saved_step below first) later
    exact ⟨unchanged.trans kept, stands⟩

end Follows

theorem step_refused {stack : Stack} (step : Step) :
    (stack.step step).2 = step.refused?.map .cannotBind := by
  cases step with
  | define name v => cases name <;> rfl
  | undefine s => rfl
  | update entries => exact congrArg Prod.snd (update_eq stack.environment entries)
  | copy => rfl
  | restore =>
    rw [Stack.step]
    split <;> rfl

/-- After any steps, the environment in use and those it was copied from answer as their histories
say. A step is refused for a name that is no symbol, and a definition that is refused does nothing.
Whatever is done on a copy leaves the environment it was copied from as it is, and in its place. -/
theorem answers_journal (bindings : List (Symbol × Value)) (steps : List Step) :
    let stack := (start bindings).run steps
    let journal := (Journal.start bindings).run steps
    Answers journal.current stack.environment ∧
      List.Forall₂ (fun scope changes => Answers changes (stack.store.environment scope))
        stack.saved journal.saved ∧
      (∀ step, (stack.step step).2 = step.refused?.map .cannotBind) ∧
      (∀ name v, name.isSymbol = false → (stack.step (.define name v)).1 = stack) ∧
      ∀ (inner : List Step) (copies : Nat), inner.foldlM level? 0 = some copies →
        let after := (stack.step .copy).1.run inner
        after.store.environment stack.current = stack.environment ∧
          after.saved[copies]? = some stack.current := by
  intro stack journal
  have follows : stack.Follows journal := (Follows.start bindings).run steps
  obtain ⟨current, saved⟩ := List.forall₂_cons.mp follows.tells
  refine ⟨current.answers, saved.imp fun _ _ tells => tells.answers, step_refused, ?_, ?_⟩
  · intro name v other
    cases name with
    | symbol s => cases other
    | _ => rfl
  · intro inner copies above
    have copied : (stack.step .copy).1.saved[0]? = some stack.current := rfl
    obtain ⟨unchanged, stands⟩ := follows.copy.saved_run copied above
    exact ⟨unchanged.trans (Store.environment_enter_old _ _ follows.current_inside), stands⟩

-- The update is refused for its second name, after it has given `y` the value of the third
-- entry.
theorem answers_journal_refused :
    let x : Symbol := ⟨"x"⟩
    let y : Symbol := ⟨"y"⟩
    let update : Step := .update [(.symbol y, .nil), (.nil, .nil), (.symbol y, .bool true)]
    let stack := (start [(x, .nil), (y, .nil)]).run [.undefine x, .define (.symbol x) .nil, update]
    let inner : List Step := [.undefine y, .copy, .restore]
    stack.environment.lookup y = .ok (.bool true) ∧
      (stack.step update).2 = some (.cannotBind .nil) ∧
      Value.nil.isSymbol = false ∧ (stack.step (.define .nil .nil)).1 = stack ∧
      inner.foldlM level? 0 = some 0 ∧
      ((stack.step .copy).1.run inner).store.environment stack.current = stack.environment := by
  intro x y update stack inner
  obtain ⟨answers, -, refused, nothing, kept⟩ := answers_journal [(x, .nil), (y, .nil)]
    [.undefine x, .define (.symbol x) .nil, update]
  have held : Holds ((Journal.start [(x, .nil), (y, .nil)]).run
      [.undefine x, .define (.symbol x) .nil, update]).current y (.bool true) :=
    ⟨[.define x .nil, .define y .nil, .undefine x, .define x .nil], [], rfl, by simp⟩
  exact ⟨(answers.bound y _ held).1, refused update, rfl, nothing .nil .nil rfl, rfl,
    (kept inner 0 rfl).1⟩

end Stack

end PocketLisp.Environment
