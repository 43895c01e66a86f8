import PocketLisp.Proofs.DataOnly
import PocketLisp.Proofs.DefinitionOrder

set_option autoImplicit false

namespace PocketLisp

namespace SpecialForm

def names : List String :=
  ["quote", "if", "defun"]

theorem ofSymbol?_eq_none_iff {s : Symbol} : ofSymbol? s = none ↔ s.name ∉ names := by
  simp only [ofSymbol?, names, List.mem_cons, List.not_mem_nil, or_false, not_or]
  split
  · next quote => simp [quote]
  · split
    · next conditional => simp [conditional]
    · split
      · next definition => simp [definition]
      · next other third first => simp [other, third, first]

end SpecialForm

/-- The names of the special forms stand only at the heads of lists. They are free in what is never
evaluated: quoted data, and the name and the parameters of a definition. -/
inductive Value.Reserves : Value → Prop
  | atom {v : Value} (symbol : v.isSymbol = false) (list : v.isList = false) : Reserves v
  | symbol {s : Symbol} (ordinary : s.name ∉ SpecialForm.names) : Reserves (.symbol s)
  | list {items : List Value} (each : ∀ v ∈ items, Reserves v) : Reserves (.list items)
  | headed {s : Symbol} {parts : List Value} (each : ∀ v ∈ parts, Reserves v) :
      Reserves (.list (.symbol s :: parts))
  | quoted (datum : Value) : Reserves (.list [.symbol ⟨"quote"⟩, datum])
  | definition (s : Symbol) (params : List Symbol) {body : List Value}
      (each : ∀ form ∈ body, Reserves form) :
      Reserves (.list (.symbol ⟨"defun"⟩ :: .symbol s :: .list (params.map .symbol) :: body))

namespace Value.Reserves

variable {first : Value} {rest : List Value}

theorem ordinary {s : Symbol} (reserves : (Value.symbol s).Reserves) :
    s.name ∉ SpecialForm.names := by
  cases reserves with
  | atom symbol => contradiction
  | symbol ordinary => exact ordinary

theorem parts (reserves : (Value.list (first :: rest)).Reserves)
    (evaluated : Eval.specialForm? first = none ∨ Eval.specialForm? first = some .conditional) :
    ∀ v ∈ rest, v.Reserves := by
  cases reserves with
  | atom _ list => contradiction
  | list each => exact fun v member => each v (List.mem_cons_of_mem first member)
  | headed each => exact each
  | quoted | definition =>
    -- Neither form evaluates all its parts.
    rcases evaluated with call | conditional <;> contradiction

theorem head (reserves : (Value.list (first :: rest)).Reserves)
    (computed : first.isSymbol = false) : first.Reserves := by
  cases reserves with
  | atom _ list => contradiction
  | list each => exact each first List.mem_cons_self
  | headed | quoted | definition => contradiction

theorem body {name list : Value} {body : List Value}
    (reserves : (Value.list (first :: name :: list :: body)).Reserves) :
    ∀ form ∈ body, form.Reserves := by
  cases reserves with
  | atom _ list => contradiction
  | list each | headed each => exact fun form member => each form (by simp [member])
  | definition _ _ each => exact each

end Value.Reserves

namespace Eval

def Reserved (v : Value) : Prop :=
  v.IsData ∧ v.Reserves

theorem Reserved.parts {head : Value} {parts : List Value}
    (reserved : Reserved (.list (head :: parts)))
    (evaluated : specialForm? head = none ∨ specialForm? head = some .conditional) :
    ∀ v ∈ parts, Reserved v :=
  fun v member => ⟨reserved.1.items v (by simp [member]), reserved.2.parts evaluated v member⟩

theorem Reserved.head {head : Value} {parts : List Value}
    (reserved : Reserved (.list (head :: parts))) (computed : head.isSymbol = false) :
    Reserved head :=
  ⟨reserved.1.items head (by simp), reserved.2.head computed⟩

theorem Reserved.data (v : Value) (reserved : Reserved v) : v.IsData :=
  reserved.1

def Fragment.reserved : Fragment :=
  .ofForms Reserved Reserved.data Reserved.parts Reserved.head

theorem reserved_invariant : Invariant Fragment.reserved
    (fun store => ∀ scope, (store.environment scope).Every fun _ => Holds Reserved) where
  bound := fun good bound => good _ _ _ bound
  define := by
    intro store scope head s list params body good admitted _ _
    have holds : Holds Reserved (.function 0 s.name params body scope) := fun form member =>
      ⟨admitted.1.items form (by simp [member]), admitted.2.body form member⟩
    exact Store.each_define good (fun _ every => every.define holds) scope
  enter := by
    intro store _ _ params _ home _ good _ each
    refine Store.each_enter good (Environment.bindParams_induction ?_ ?_ (good home) params each)
    · exact fun _ _ _ every data => every.define (.data data)
    · exact fun _ s every => every.undefine s
  body := fun _ bound => bound
  record := fun good _ => good

theorem View.reserved : View Fragment.reserved (fun s => s.name ∉ SpecialForm.names)
    (Environment.Every fun _ => Holds Reserved) where
  symbol := fun admitted => admitted.2.ordinary
  head := fun _ call => SpecialForm.ofSymbol?_eq_none_iff.mp call
  empty := Environment.every_empty
  kept := reserved_invariant

end Eval

namespace Session

def Reserves (session : Session) : Prop :=
  ∀ s tag name params body home,
    session.globals.get? s = some (.function tag name params body home) →
      ∀ form ∈ body, form.Reserves

def Reserving (depth : Nat) (code : String) : Prop :=
  ∀ program, Reader.read depth code = .ok program → ∀ expr ∈ program, expr.Reserves

theorem Reachable.holds_reserved {session : Session} (reached : session.Reachable)
    (reserves : session.Reserves) :
    session.globals.Every fun _ => Eval.Holds Eval.Reserved := by
  intro s v bound
  have sound := reached.sound.globals s v bound
  cases v with
  | primitive p => trivial
  | function tag name params body home =>
    have each := reserves s tag name params body home bound
    exact fun form member => ⟨sound form member, each form member⟩
  | _ => exact sound

theorem Reserving.within {depth : Nat} {code : String} (reserving : Reserving depth code) :
    Within depth Eval.Fragment.reserved code := by
  intro program read expr member
  have reads : Ends (fun exprs : List Value => ∀ v ∈ exprs, v.IsData) _ _ :=
    Reader.read_reads trivial depth code fun _ _ _ => trivial
  rw [read] at reads
  exact ⟨reads expr member, reserving program read expr member⟩

theorem agree_definition {depth : Nat} {session : Session} (reached : session.Reachable)
    (reserves : session.Reserves) {definition : String} {s : Symbol} {params : List Symbol}
    {body : List Value} (defines : Defines depth definition s params body)
    (special : s.name ∈ SpecialForm.names) :
    Agree (fun t => t.name ∉ SpecialForm.names)
      (Environment.Every fun _ => Eval.Holds Eval.Reserved)
      { session with printed := [] } (session.evaluate depth definition).2 := by
  rw [evaluate_definition session defines]
  refine ⟨?_, reached.holds_reserved reserves, rfl⟩
  intro t ordinary
  have other : t ≠ s := by
    rintro rfl
    exact ordinary special
  simp [other]

/-- A definition of `quote`, `if` or `defun` does not change the answer of any program that uses
these names only at the heads of lists, in a session whose functions do the same. Parameters may
have these names. -/
theorem special_names_unshadowed {depth : Nat} {session : Session} (reached : session.Reachable)
    (reserves : session.Reserves) {definition : String} {s : Symbol} {params : List Symbol}
    {body : List Value} (defines : Defines depth definition s params body)
    (special : s.name ∈ SpecialForm.names) :
    (∀ code, Reserving depth code →
      ((session.evaluate depth definition).2.evaluate depth code).1 =
        (session.evaluate depth code).1) ∧
    ∀ codes, (∀ code ∈ codes, Reserving depth code) →
      (session.evaluate depth definition).2.answers depth codes = session.answers depth codes := by
  have agree := agree_definition reached reserves defines special
  refine ⟨?_, ?_⟩
  · intro code reserving
    exact (agree.evaluate .reserved reserving.within).1.symm
  · intro codes reserving
    rw [← answers_cleared depth session]
    exact (agree.answers .reserved fun code member => (reserving code member).within).symm

theorem initial_reserves : Session.initial.Reserves := by
  have plain : Environment.initial.Every
      fun _ v => ∀ tag name params body home, v ≠ .function tag name params body home :=
    Environment.every_initial (by simp) (by simp) (by simp)
  intro s tag name params body home bound
  exact absurd rfl (plain s _ bound tag name params body home)

theorem Reserves.define {depth : Nat} {session : Session} (reserves : session.Reserves)
    {code : String} {s : Symbol} {params : List Symbol} {body : List Value}
    (defines : Defines depth code s params body) (each : ∀ form ∈ body, form.Reserves) :
    (session.evaluate depth code).2.Reserves := by
  rw [evaluate_definition session defines]
  intro t tag name others forms home bound
  rw [Environment.get?_define] at bound
  split at bound
  · cases bound
    exact each
  · exact reserves t tag name others forms home bound

theorem special_names_unshadowed_parameters :
    let session := (Session.initial.evaluate 100 "(defun f (if x quote) (if x 'if (list 'x)))").2
    let definition := "(defun if (defun) (car if))"
    let code := "(if (f nil) 'if (f t nil))"
    session.Reachable ∧ session.Reserves ∧
      (∃ params body, Defines 100 definition ⟨"if"⟩ params body) ∧
      Reserving 100 code ∧
      ((session.evaluate 100 definition).2.evaluate 100 code).1 =
        (session.evaluate 100 code).1 := by
  intro session definition code
  have first : Defines 100 "(defun f (if x quote) (if x 'if (list 'x)))" ⟨"f"⟩
      [⟨"if"⟩, ⟨"x"⟩, ⟨"quote"⟩]
      [.list [.symbol ⟨"if"⟩, .symbol ⟨"x"⟩, .list [.symbol ⟨"quote"⟩, .symbol ⟨"if"⟩],
        .list [.symbol ⟨"list"⟩, .list [.symbol ⟨"quote"⟩, .symbol ⟨"x"⟩]]]] := by
    unfold Defines
    rfl
  have defines : Defines 100 "(defun if (defun) (car if))" ⟨"if"⟩ [⟨"defun"⟩]
      [.list [.symbol ⟨"car"⟩, .symbol ⟨"if"⟩]] := by
    unfold Defines
    rfl
  have known : Reader.read 100 "(if (f nil) 'if (f t nil))" =
      .ok [.list [.symbol ⟨"if"⟩, .list [.symbol ⟨"f"⟩, .symbol ⟨"nil"⟩],
        .list [.symbol ⟨"quote"⟩, .symbol ⟨"if"⟩],
        .list [.symbol ⟨"f"⟩, .symbol ⟨"t"⟩, .symbol ⟨"nil"⟩]]] := rfl
  have ordinary : ∀ name ∈ ["f", "t", "nil", "x"], (Value.symbol ⟨name⟩).Reserves := by
    intro name member
    refine .symbol ?_
    revert name
    decide
  have reached : session.Reachable := .evaluate .initial _ _
  have reserves : session.Reserves := by
    refine initial_reserves.define first (List.forall_mem_singleton.mpr (.headed ?_))
    simp [ordinary, Value.Reserves.quoted, Value.Reserves.headed]
  have reserving : Reserving 100 code := by
    intro program read
    obtain rfl := Except.ok.inj (known.symm.trans read)
    refine List.forall_mem_singleton.mpr (.headed ?_)
    simp [ordinary, Value.Reserves.quoted, Value.Reserves.headed]
  have kept := special_names_unshadowed reached reserves defines (by decide)
  exact ⟨reached, reserves, ⟨_, _, defines⟩, reserving, kept.1 code reserving⟩

end Session

end PocketLisp
