import PocketLisp.Environment

set_option autoImplicit false

namespace PocketLisp.Environment

def names (env : Environment) : List Symbol :=
  env.bindings.map (·.1)

theorem lookup_entry (k t : Symbol) (w : Value) (rest : List (Symbol × Value)) :
    ((k, w) :: rest).lookup t = if t = k then some w else rest.lookup t := by
  by_cases same : t = k
  · simp [same]
  · have differ : (t == k) = false := beq_eq_false_iff_ne.mpr same
    simp [List.lookup_cons, same, differ]

theorem lookup_put (entries : List (Symbol × Value)) (s t : Symbol) (v : Value) :
    (put (· == s) s v entries).lookup t = if t = s then some v else entries.lookup t := by
  induction entries with
  | nil => simp [put, lookup_entry]
  | cons entry rest ih =>
    obtain ⟨k, w⟩ := entry
    by_cases found : k = s
    · by_cases same : t = s <;> simp [put, lookup_entry, found, same]
    · have other : ¬ s = k := fun equal => found equal.symm
      by_cases same : t = s
      · subst same
        simp [put, lookup_entry, found, ih, other]
      · simp [put, lookup_entry, found, ih, same]

@[simp] theorem get?_define (env : Environment) (s t : Symbol) (v : Value) :
    (env.define s v).get? t = if t = s then some v else env.get? t :=
  lookup_put env.bindings s t v

theorem lookup_filter (entries : List (Symbol × Value)) (s t : Symbol) :
    (entries.filter (·.1 != s)).lookup t = if t = s then none else entries.lookup t := by
  induction entries with
  | nil => simp
  | cons entry rest ih =>
    obtain ⟨k, w⟩ := entry
    by_cases removed : k = s
    · have step : ((k, w) :: rest).filter (·.1 != s) = rest.filter (·.1 != s) := by simp [removed]
      rw [step, ih, lookup_entry, removed]
      by_cases same : t = s
      · rw [if_pos same, if_pos same]
      · rw [if_neg same, if_neg same, if_neg same]
    · have step : ((k, w) :: rest).filter (·.1 != s) = (k, w) :: rest.filter (·.1 != s) := by
        simp [removed]
      rw [step, lookup_entry, lookup_entry, ih]
      by_cases same : t = s
      · have other : ¬ t = k := fun equal => removed (equal.symm.trans same)
        rw [if_neg other, if_pos same, if_pos same]
      · rw [if_neg same, if_neg same]

@[simp] theorem get?_undefine (env : Environment) (s t : Symbol) :
    (env.undefine s).get? t = if t = s then none else env.get? t :=
  lookup_filter env.bindings s t

theorem keys_put (entries : List (Symbol × Value)) (s : Symbol) (v : Value) :
    (put (· == s) s v entries).map (·.1) =
      entries.map (·.1) ++ if s ∈ entries.map (·.1) then [] else [s] := by
  induction entries with
  | nil => simp [put]
  | cons entry rest ih =>
    obtain ⟨k, w⟩ := entry
    by_cases found : k = s
    · simp [put, found]
    · have other : ¬ s = k := fun equal => found equal.symm
      simp only [put, beq_iff_eq, found, if_false, List.map_cons, ih, List.mem_cons, other,
        false_or, List.cons_append]

theorem names_define (env : Environment) (s : Symbol) (v : Value) :
    (env.define s v).names = env.names ++ if s ∈ env.names then [] else [s] :=
  keys_put env.bindings s v

theorem names_undefine (env : Environment) (s : Symbol) :
    (env.undefine s).names = env.names.filter (· != s) := by
  simp [names, undefine, List.filter_map, Function.comp_def]

theorem mem_keys_iff (entries : List (Symbol × Value)) (s : Symbol) :
    s ∈ entries.map (·.1) ↔ (entries.lookup s).isSome = true := by
  induction entries with
  | nil => simp
  | cons entry rest ih =>
    obtain ⟨k, w⟩ := entry
    by_cases same : s = k
    · simp [same]
    · rw [lookup_entry, if_neg same, ← ih]
      simp [same]

theorem mem_names_iff (env : Environment) (s : Symbol) :
    s ∈ env.names ↔ env.contains s = true :=
  mem_keys_iff env.bindings s

theorem nodup_define {env : Environment} (nodup : env.names.Nodup) (s : Symbol) (v : Value) :
    (env.define s v).names.Nodup := by
  rw [names_define]
  split
  · simpa using nodup
  · next fresh =>
    refine List.nodup_append.mpr ⟨nodup, by simp, ?_⟩
    rintro t bound u same rfl
    exact fresh (List.mem_singleton.mp same ▸ bound)

theorem nodup_undefine {env : Environment} (nodup : env.names.Nodup) (s : Symbol) :
    (env.undefine s).names.Nodup := by
  rw [names_undefine]
  exact nodup.filter _

theorem bindParams_induction {motive : Environment → Prop} {value : Value → Prop}
    (define : ∀ env s v, motive env → value v → motive (env.define s v))
    (undefine : ∀ env s, motive env → motive (env.undefine s)) {env : Environment}
    (start : motive env) (params : List Symbol) {args : List Value} (each : ∀ v ∈ args, value v) :
    motive (env.bindParams params args) := by
  induction params generalizing env args with
  | nil => exact start
  | cons p ps ih =>
    cases args with
    | nil => exact ih (undefine env p start) each
    | cons v vs =>
      refine ih (define env p v start (each v (by simp))) ?_
      exact fun w member => each w (by simp [member])

section Every

def Every (good : Symbol → Value → Prop) (env : Environment) : Prop :=
  ∀ s v, env.get? s = some v → good s v

variable {good : Symbol → Value → Prop} {env : Environment}

theorem every_empty : Environment.empty.Every good := by
  intro s v bound
  simp [Environment.empty, get?] at bound

theorem Every.define (every : env.Every good) {s : Symbol} {v : Value} (holds : good s v) :
    (env.define s v).Every good := by
  intro t w bound
  rw [get?_define] at bound
  split at bound
  · next same =>
    subst same
    exact Option.some.inj bound ▸ holds
  · exact every t w bound

theorem Every.undefine (every : env.Every good) (s : Symbol) : (env.undefine s).Every good := by
  intro t w bound
  rw [get?_undefine] at bound
  split at bound
  · exact absurd bound (by simp)
  · exact every t w bound

theorem Every.defineAll (every : env.Every good) {entries : List (Symbol × Value)}
    (each : ∀ entry ∈ entries, good entry.1 entry.2) : (env.defineAll entries).Every good := by
  induction entries generalizing env with
  | nil => exact every
  | cons entry rest ih =>
    refine ih (every.define (each entry (by simp))) ?_
    exact fun later member => each later (by simp [member])

theorem every_initial (primitive : ∀ p : Primitive, good ⟨p.name⟩ (.primitive p))
    (t : good ⟨"t"⟩ (.bool true)) (nil : good ⟨"nil"⟩ .nil) : initial.Every good := by
  refine every_empty.defineAll fun entry member => ?_
  rcases List.mem_append.mp member with builtin | constant
  · obtain ⟨p, -, rfl⟩ := List.mem_map.mp builtin
    exact primitive p
  · simp only [List.mem_cons, List.not_mem_nil, or_false] at constant
    rcases constant with rfl | rfl
    · exact t
    · exact nil

end Every

/-- No name is lost or moved, and every value that is new or other than before is a function at
home in `home`. -/
structure Extends (home : Scope) (before after : Environment) : Prop where
  names : before.names <+: after.names
  values : ∀ s, after.get? s ≠ before.get? s →
    ∃ tag name params body, after.get? s = some (.function tag name params body home)

theorem Extends.refl (home : Scope) (env : Environment) : env.Extends home env where
  names := List.prefix_refl _
  values := fun _ changed => absurd rfl changed

theorem Extends.define {home : Scope} {before after : Environment}
    (grown : before.Extends home after) (s : Symbol) (tag : Nat) (name : String)
    (params : List Symbol) (body : List Value) :
    before.Extends home (after.define s (.function tag name params body home)) where
  names := by
    rw [names_define]
    exact grown.names.trans (List.prefix_append _ _)
  values := by
    intro t changed
    -- The name just bound has a function at home there, whatever it had before.
    by_cases same : t = s
    · exact ⟨tag, name, params, body, by simp [same]⟩
    · simp only [get?_define, same, if_false] at changed ⊢
      exact grown.values t changed

theorem Extends.trans {home : Scope} {before between after : Environment}
    (first : before.Extends home between) (second : between.Extends home after) :
    before.Extends home after where
  names := first.names.trans second.names
  values := by
    intro s changed
    by_cases later : after.get? s = between.get? s
    · rw [later] at changed ⊢
      exact first.values s changed
    · exact second.values s later

end PocketLisp.Environment
