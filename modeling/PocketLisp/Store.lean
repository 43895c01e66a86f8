import PocketLisp.Primitive.Call

set_option autoImplicit false

namespace PocketLisp

structure Store where
  scopes : Array Environment
  printed : Array String
  nextMark : Nat

namespace Store

def ofGlobals (globals : Environment) (nextMark : Nat) : Store :=
  ⟨#[globals], #[], nextMark⟩

def environment (store : Store) (scope : Scope) : Environment :=
  store.scopes.getD scope .empty

def define (store : Store) (scope : Scope) (s : Symbol) (v : Value) : Store :=
  { store with scopes := store.scopes.modify scope (·.define s v) }

def enter (store : Store) (env : Environment) : Scope × Store :=
  (store.scopes.size, { store with scopes := store.scopes.push env })

def record (store : Store) (lines : List String) : Store :=
  { store with printed := store.printed ++ lines, nextMark := store.nextMark + 1 }

end Store

/-- A computation that changes the store and may stop at a fault; what it did before stays done. -/
abbrev Run := ExceptT Fault (StateM Store)

def fail {α : Type} (e : LispError) : Run α :=
  throw (.error e)

def orFail {α : Type} : Except LispError α → Run α
  | .ok a => pure a
  | .error e => fail e

end PocketLisp
