import Mathlib.Data.Set.Card
import PocketLisp.Proofs.Environment

set_option autoImplicit false

namespace PocketLisp.Environment

inductive Change where
  | define (s : Symbol) (v : Value)
  | undefine (s : Symbol)

namespace Change

def target : Change → Symbol
  | define s _ => s
  | undefine s => s

def apply (env : Environment) : Change → Environment
  | define s v => env.define s v
  | undefine s => env.undefine s

end Change

def applyAll (env : Environment) (changes : List Change) : Environment :=
  changes.foldl Change.apply env

-- The changes define `s` as `v`, and do not touch it after that.
def Holds (changes : List Change) (s : Symbol) (v : Value) : Prop :=
  ∃ before after, changes = before ++ .define s v :: after ∧ ∀ change ∈ after, change.target ≠ s

-- The change at `place` defines `s`, which was not bound then and has been bound ever since.
def Begins (changes : List Change) (s : Symbol) (place : Nat) : Prop :=
  ∃ before v after, changes = before ++ .define s v :: after ∧ before.length = place ∧
    (∀ w, ¬ Holds before s w) ∧ .undefine s ∉ after

structure Tells (changes : List Change) (env : Environment) : Prop where
  holds : ∀ s v, env.get? s = some v ↔ Holds changes s v
  nodup : env.names.Nodup
  begun : ∀ s ∈ env.names, ∃ place, Begins changes s place
  ordered : env.names.Pairwise fun s t => ∀ place later,
    Begins changes s place → Begins changes t later → place < later

/-- What an environment with this history answers when it is asked for a name, for its size and for
its names. -/
structure Answers (changes : List Change) (env : Environment) : Prop extends
    Tells changes env where
  bound : ∀ s v, Holds changes s v → env.lookup s = .ok v ∧ env.contains s = true ∧
    ∀ default, (env.get? s).getD default = v
  unbound : ∀ s, (∀ v, ¬ Holds changes s v) → env.lookup s = .error (.unboundSymbol s) ∧
    env.contains s = false ∧ ∀ default, (env.get? s).getD default = default
  size : env.size = {s | ∃ v, Holds changes s v}.ncard
  listed : ∀ s, s ∈ env.names ↔ ∃ v, Holds changes s v

section Concat

variable {changes : List Change} {change : Change} {s : Symbol}

theorem not_holds_nil (v : Value) : ¬ Holds [] s v := by
  rintro ⟨before, after, split, -⟩
  cases before <;> cases split

-- Where a history ends with `change`, a definition in it is that change or stands before it.
theorem split_concat {before after : List Change} {definition : Change}
    (split : changes ++ [change] = before ++ definition :: after) :
    (changes = before ∧ change = definition ∧ after = []) ∨
      ∃ front, changes = before ++ definition :: front ∧ after = front ++ [change] := by
  rcases List.eq_nil_or_concat after with rfl | ⟨front, last, rfl⟩
  · obtain ⟨rfl, same⟩ := List.append_inj' split rfl
    exact Or.inl ⟨rfl, List.singleton_inj.mp same, rfl⟩
  · rw [List.concat_eq_append, ← List.cons_append, ← List.append_assoc] at split
    obtain ⟨rfl, same⟩ := List.append_inj' split rfl
    obtain rfl := List.singleton_inj.mp same
    exact Or.inr ⟨front, rfl, List.concat_eq_append⟩

theorem holds_concat {v : Value} :
    Holds (changes ++ [change]) s v ↔
      change = .define s v ∨ change.target ≠ s ∧ Holds changes s v := by
  constructor
  · rintro ⟨before, after, split, untouched⟩
    rcases split_concat split with ⟨-, rfl, -⟩ | ⟨front, rfl, rfl⟩
    · exact Or.inl rfl
    · refine Or.inr ⟨untouched change (by simp), before, front, rfl, ?_⟩
      exact fun other member => untouched other (by simp [member])
  · rintro (rfl | ⟨other, before, after, rfl, untouched⟩)
    · exact ⟨changes, [], rfl, by simp⟩
    · refine ⟨before, after ++ [change], by simp, ?_⟩
      simpa [or_imp, forall_and] using ⟨untouched, other⟩

theorem begins_concat {place : Nat} :
    Begins (changes ++ [change]) s place ↔
      (Begins changes s place ∧ change ≠ .undefine s) ∨
        place = changes.length ∧ (∃ v, change = .define s v) ∧ ∀ w, ¬ Holds changes s w := by
  constructor
  · rintro ⟨before, v, after, split, rfl, unbound, kept⟩
    rcases split_concat split with ⟨rfl, rfl, -⟩ | ⟨front, rfl, rfl⟩
    · exact Or.inr ⟨rfl, ⟨v, rfl⟩, unbound⟩
    · rw [List.mem_append, List.mem_singleton, not_or] at kept
      exact Or.inl ⟨⟨before, v, front, rfl, rfl, unbound, kept.1⟩, Ne.symm kept.2⟩
  · rintro (⟨⟨before, v, after, rfl, rfl, unbound, kept⟩, other⟩ | ⟨rfl, ⟨v, rfl⟩, unbound⟩)
    · refine ⟨before, v, after ++ [change], by simp, rfl, unbound, ?_⟩
      simpa using ⟨kept, Ne.symm other⟩
    · exact ⟨changes, v, [], rfl, rfl, unbound, by simp⟩

theorem Begins.lt_length {place : Nat} (begins : Begins changes s place) :
    place < changes.length := by
  obtain ⟨before, v, after, rfl, rfl, -⟩ := begins
  simp

-- Later changes of the name can only give it other values.
theorem Begins.holds {place : Nat} (begins : Begins changes s place) : ∃ v, Holds changes s v := by
  induction changes using List.reverseRecOn with
  | nil => exact absurd begins.lt_length (Nat.not_lt_zero place)
  | append_singleton changes change ih =>
    rcases begins_concat.mp begins with ⟨earlier, kept⟩ | ⟨-, ⟨v, rfl⟩, -⟩
    · by_cases touched : change.target = s
      · subst touched
        cases change with
        | define t w => exact ⟨w, holds_concat.mpr (Or.inl rfl)⟩
        | undefine t => exact absurd rfl kept
      · obtain ⟨v, held⟩ := ih earlier
        exact ⟨v, holds_concat.mpr (Or.inr ⟨touched, held⟩)⟩
    · exact ⟨v, holds_concat.mpr (Or.inl rfl)⟩

end Concat

theorem begins_undefine {changes : List Change} {s t : Symbol} {place : Nat} :
    Begins (changes ++ [.undefine s]) t place ↔ Begins changes t place ∧ t ≠ s := by
  simp [begins_concat, eq_comm]

namespace Tells

variable {changes : List Change} {env : Environment}

theorem mem_names (tells : Tells changes env) {s : Symbol} :
    s ∈ env.names ↔ ∃ v, Holds changes s v := by
  rw [mem_names_iff, contains, Option.isSome_iff_exists]
  exact exists_congr (tells.holds s)

theorem empty : Tells [] Environment.empty where
  holds := fun s v => iff_of_false (by simp [Environment.empty, get?]) (not_holds_nil v)
  nodup := List.nodup_nil
  begun := by simp [Environment.empty, names]
  ordered := List.Pairwise.nil

-- A name that is bound already begins where it did before.
theorem begins_define (tells : Tells changes env) {s t : Symbol} {v : Value} {place : Nat}
    (bound : t ∈ env.names) :
    Begins (changes ++ [.define s v]) t place ↔ Begins changes t place := by
  obtain ⟨w, held⟩ := tells.mem_names.mp bound
  rw [begins_concat]
  constructor
  · rintro (⟨begins, -⟩ | ⟨-, -, unbound⟩)
    · exact begins
    · exact absurd held (unbound w)
  · exact fun begins => Or.inl ⟨begins, Change.noConfusion⟩

theorem define (tells : Tells changes env) (s : Symbol) (v : Value) :
    Tells (changes ++ [.define s v]) (env.define s v) where
  holds := by
    intro t w
    rw [get?_define, holds_concat]
    by_cases same : t = s
    · subst same
      simp [Change.target]
    · have other : s ≠ t := Ne.symm same
      simp [same, other, Change.target, tells.holds]
  nodup := nodup_define tells.nodup s v
  begun := by
    intro t member
    by_cases bound : t ∈ env.names
    · obtain ⟨place, begins⟩ := tells.begun t bound
      exact ⟨place, (tells.begins_define bound).mpr begins⟩
    · -- Only the name just defined is new.
      obtain rfl : t = s := by
        rw [names_define, List.mem_append] at member
        have added := member.resolve_left bound
        split at added
        · cases added
        · exact List.mem_singleton.mp added
      refine ⟨changes.length, begins_concat.mpr (Or.inr ⟨rfl, ⟨v, rfl⟩, ?_⟩)⟩
      exact fun w held => bound (tells.mem_names.mpr ⟨w, held⟩)
  ordered := by
    have kept : env.names.Pairwise fun t u => ∀ place later,
        Begins (changes ++ [.define s v]) t place → Begins (changes ++ [.define s v]) u later →
          place < later := by
      refine tells.ordered.imp_of_mem fun {t u} bound bound' order place later begins begins' => ?_
      rw [tells.begins_define bound] at begins
      rw [tells.begins_define bound'] at begins'
      exact order place later begins begins'
    rw [names_define]
    split
    · rwa [List.append_nil]
    · next fresh =>
      refine List.pairwise_append.mpr ⟨kept, List.pairwise_singleton _ _, ?_⟩
      intro t bound u last place later begins begins'
      obtain rfl := List.mem_singleton.mp last
      rw [tells.begins_define bound] at begins
      -- What was not bound begins with the last change.
      rcases begins_concat.mp begins' with ⟨earlier, -⟩ | ⟨rfl, -⟩
      · exact absurd (tells.mem_names.mpr earlier.holds) fresh
      · exact begins.lt_length

theorem undefine (tells : Tells changes env) (s : Symbol) :
    Tells (changes ++ [.undefine s]) (env.undefine s) where
  holds := by
    intro t w
    rw [get?_undefine, holds_concat]
    by_cases same : t = s
    · subst same
      simp [Change.target]
    · have other : s ≠ t := Ne.symm same
      simp [same, other, Change.target, tells.holds]
  nodup := nodup_undefine tells.nodup s
  begun := by
    intro t member
    rw [names_undefine, List.mem_filter, bne_iff_ne] at member
    obtain ⟨place, begins⟩ := tells.begun t member.1
    exact ⟨place, begins_undefine.mpr ⟨begins, member.2⟩⟩
  ordered := by
    rw [names_undefine]
    refine (tells.ordered.filter _).imp fun order place later begins begins' => ?_
    exact order place later (begins_undefine.mp begins).1 (begins_undefine.mp begins').1

theorem apply (tells : Tells changes env) (change : Change) :
    Tells (changes ++ [change]) (change.apply env) := by
  cases change with
  | define s v => exact tells.define s v
  | undefine s => exact tells.undefine s

theorem applyAll (tells : Tells changes env) (more : List Change) :
    Tells (changes ++ more) (env.applyAll more) := by
  induction more generalizing changes env with
  | nil => rwa [List.append_nil]
  | cons change more ih =>
    rw [List.append_cons]
    exact ih (tells.apply change)

theorem size (tells : Tells changes env) : env.size = {s | ∃ v, Holds changes s v}.ncard := by
  have listed : {s | ∃ v, Holds changes s v} = env.names.toFinset := by
    ext s
    simp [tells.mem_names]
  rw [listed, Set.ncard_coe_finset, List.toFinset_card_of_nodup tells.nodup, names,
    List.length_map, Environment.size]

theorem answers (tells : Tells changes env) : Answers changes env where
  toTells := tells
  bound := by
    intro s v held
    have found := (tells.holds s v).mpr held
    simp [lookup, contains, found]
  unbound := by
    intro s none
    have missing : env.get? s = .none :=
      Option.eq_none_iff_forall_ne_some.mpr fun v found => none v ((tells.holds s v).mp found)
    simp [lookup, contains, missing]
  size := tells.size
  listed := fun _ => tells.mem_names

end Tells

end PocketLisp.Environment
