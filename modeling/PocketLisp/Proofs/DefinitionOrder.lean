import PocketLisp.Proofs.Agreement
import PocketLisp.Proofs.Grammar

set_option autoImplicit false

namespace PocketLisp

def Environment.Alike (a b : Environment) : Prop :=
  ∀ s, a.get? s = b.get? s

namespace Environment.Alike

theorem define_comm (env : Environment) {s t : Symbol} (differ : s ≠ t) (v w : Value) :
    ((env.define s v).define t w).Alike ((env.define t w).define s v) := by
  intro u
  simp only [get?_define]
  split
  · next same => rw [if_neg fun other => differ (other.symm.trans same)]
  · rfl

end Environment.Alike

namespace Session

structure Alike (a b : Session) : Prop where
  globals : a.globals.Alike b.globals
  printed : a.printed = b.printed

theorem Alike.answers {a b : Session} (alike : a.Alike b) (depth : Nat) (codes : List String) :
    a.answers depth codes = b.answers depth codes := by
  have agree : Agree (fun _ => True) (fun _ => True) a b :=
    ⟨fun s _ => alike.globals s, trivial, alike.printed⟩
  exact agree.answers .all fun _ _ _ _ _ _ => trivial

def Defines (depth : Nat) (code : String) (s : Symbol) (params : List Symbol)
    (body : List Value) : Prop :=
  Reader.read depth code =
    .ok [.list (.symbol ⟨"defun"⟩ :: .symbol s :: .list (params.map .symbol) :: body)]

theorem Defines.positive {depth : Nat} {code : String} {s : Symbol} {params : List Symbol}
    {body : List Value} (defines : Defines depth code s params body) : 1 ≤ depth := by
  obtain ⟨-, fits⟩ := Reader.readAll_eq_ok.mp defines
  exact (Value.depth_pos _).trans ((Nat.le_max_left ..).trans fits)

theorem eval_definition (budget : Nat) (scope : Scope) (s : Symbol) (params : List Symbol)
    (body : List Value) (store : Store) :
    (eval (budget + 1) scope
      (.list (.symbol ⟨"defun"⟩ :: .symbol s :: .list (params.map .symbol) :: body))).run store =
      (.ok (.symbol s), store.define scope s (.function 0 s.name params body scope)) := by
  exact Eval.run_define scope store s params body

variable {depth : Nat}

theorem evaluate_definition (session : Session) {code : String} {s : Symbol} {params : List Symbol}
    {body : List Value} (defines : Defines depth code s params body) :
    (session.evaluate depth code).2 =
      ⟨session.globals.define s (.function 0 s.name params body 0), []⟩ := by
  obtain ⟨left, rfl⟩ := Nat.exists_eq_add_of_le' defines.positive
  have ran : runExpr (left + 1) { session with printed := [] } _ = _ :=
    runExpr_of_run (eval_definition left 0 s params body (.ofGlobals session.globals 0))
  have read : Reader.read (left + 1) code = _ := defines
  simp only [evaluate, evalValue, read, runProgram, ran]
  rfl

theorem evaluate_definitions (session : Session) {first second : String} {s t : Symbol}
    {params others : List Symbol} {body forms : List Value}
    (one : Defines depth first s params body) (two : Defines depth second t others forms) :
    ((session.evaluate depth first).2.evaluate depth second).2 =
      ⟨(session.globals.define s (.function 0 s.name params body 0)).define t
        (.function 0 t.name others forms 0), []⟩ := by
  rw [evaluate_definition _ two, evaluate_definition session one]

/-- Two definitions of different names may be made in either order: every program that is run later
has the same answer. The order shows in the order of names only. -/
theorem definitions_commute (session : Session) {first second : String} {s t : Symbol}
    {params others : List Symbol} {body forms : List Value}
    (one : Defines depth first s params body) (two : Defines depth second t others forms)
    (differ : s ≠ t) :
    let forward := ((session.evaluate depth first).2.evaluate depth second).2
    let backward := ((session.evaluate depth second).2.evaluate depth first).2
    (∀ codes, forward.answers depth codes = backward.answers depth codes) ∧
      (s ∉ session.globals.names → t ∉ session.globals.names →
        forward.globals.names = session.globals.names ++ [s, t] ∧
          backward.globals.names = session.globals.names ++ [t, s]) := by
  simp only [evaluate_definitions session one two, evaluate_definitions session two one]
  refine ⟨?_, ?_⟩
  · have alike := Environment.Alike.define_comm session.globals differ
      (.function 0 s.name params body 0) (.function 0 t.name others forms 0)
    have same : Alike ⟨_, []⟩ ⟨_, []⟩ := ⟨alike, rfl⟩
    exact same.answers depth
  · intro fresh new
    simp [Environment.names_define, fresh, new, differ, differ.symm]

theorem definitions_commute_mutual :
    let session := (Session.initial.evaluate 100 "(defun f () t)").2
    let first := "(defun even (l) (if l (odd (cdr l)) t))"
    let second := "(defun odd (l) (if (null l) nil (even (cdr l))))"
    ∃ params others body forms,
      Defines 100 first ⟨"even"⟩ params body ∧ Defines 100 second ⟨"odd"⟩ others forms ∧
      Symbol.mk "even" ≠ ⟨"odd"⟩ ∧
      let forward := ((session.evaluate 100 first).2.evaluate 100 second).2
      let backward := ((session.evaluate 100 second).2.evaluate 100 first).2
      (∀ codes, forward.answers 100 codes = backward.answers 100 codes) ∧
        (⟨"even"⟩ ∉ session.globals.names → ⟨"odd"⟩ ∉ session.globals.names →
          forward.globals.names = session.globals.names ++ [⟨"even"⟩, ⟨"odd"⟩] ∧
            backward.globals.names = session.globals.names ++ [⟨"odd"⟩, ⟨"even"⟩]) := by
  intro session first second
  have one : Defines 100 "(defun even (l) (if l (odd (cdr l)) t))" ⟨"even"⟩ [⟨"l"⟩]
      [.list [.symbol ⟨"if"⟩, .symbol ⟨"l"⟩,
        .list [.symbol ⟨"odd"⟩, .list [.symbol ⟨"cdr"⟩, .symbol ⟨"l"⟩]], .symbol ⟨"t"⟩]] := by
    unfold Defines
    rfl
  have two : Defines 100 "(defun odd (l) (if (null l) nil (even (cdr l))))" ⟨"odd"⟩ [⟨"l"⟩]
      [.list [.symbol ⟨"if"⟩, .list [.symbol ⟨"null"⟩, .symbol ⟨"l"⟩], .symbol ⟨"nil"⟩,
        .list [.symbol ⟨"even"⟩, .list [.symbol ⟨"cdr"⟩, .symbol ⟨"l"⟩]]]] := by
    unfold Defines
    rfl
  have differ : Symbol.mk "even" ≠ ⟨"odd"⟩ := by decide
  exact ⟨_, _, _, _, one, two, differ, definitions_commute session one two differ⟩

end Session

end PocketLisp
