import PocketLisp.Fault

set_option autoImplicit false

namespace PocketLisp

structure Environment where
  bindings : List (Symbol × Value)

namespace Environment

def empty : Environment :=
  ⟨[]⟩

instance : Inhabited Environment := ⟨empty⟩

def get? (env : Environment) (s : Symbol) : Option Value :=
  env.bindings.lookup s

def contains (env : Environment) (s : Symbol) : Bool :=
  (env.get? s).isSome

def size (env : Environment) : Nat :=
  env.bindings.length

def put {α : Type} (sameKey : α → Bool) (key : α) (v : Value) :
    List (α × Value) → List (α × Value)
  | [] => [(key, v)]
  | (k, w) :: rest =>
    if sameKey k then (k, v) :: rest else (k, w) :: put sameKey key v rest

def define (env : Environment) (s : Symbol) (v : Value) : Environment :=
  ⟨put (· == s) s v env.bindings⟩

def undefine (env : Environment) (s : Symbol) : Environment :=
  ⟨env.bindings.filter (·.1 != s)⟩

def defineAll (env : Environment) (entries : List (Symbol × Value)) : Environment :=
  entries.foldl (fun env entry => env.define entry.1 entry.2) env

def lookup (env : Environment) (s : Symbol) : Except LispError Value :=
  match env.get? s with
  | some v => .ok v
  | none => .error (.unboundSymbol s)

def getNamed? (env : Environment) : Value → Option Value
  | .symbol s => env.get? s
  | _ => none

def containsNamed (env : Environment) (name : Value) : Bool :=
  (env.getNamed? name).isSome

def lookupNamed (env : Environment) (name : Value) : Except LispError Value :=
  match name with
  | .symbol s => env.lookup s
  | _ => .error (.unboundName name)

def undefineNamed (env : Environment) : Value → Environment
  | .symbol s => env.undefine s
  | _ => env

def bind (env : Environment) (name v : Value) : Except LispError Environment :=
  match name with
  | .symbol s => .ok (env.define s v)
  | _ => .error (.cannotBind name)

def isKey (s : Symbol) : Value → Bool
  | .symbol t => t == s
  | _ => false

-- Entries for one symbol become a single entry: in the place of the first, with the last value.
def collapse (entries : List (Value × Value)) : List (Value × Value) :=
  entries.foldl (fun done entry =>
    match entry.1 with
    | .symbol s => put (isKey s) entry.1 entry.2 done
    | _ => done ++ [entry]) []

def bindAll (env : Environment) : List (Value × Value) → Environment × Option LispError
  | [] => (env, none)
  | (name, v) :: rest =>
    match env.bind name v with
    | .ok env => env.bindAll rest
    | .error e => (env, some e)

def update (env : Environment) (entries : List (Value × Value)) : Environment × Option LispError :=
  env.bindAll (collapse entries)

-- Binds parameters to arguments by position. A parameter without an argument is left unbound.
def bindParams (env : Environment) : List Symbol → List Value → Environment
  | [], _ => env
  | p :: ps, v :: vs => (env.define p v).bindParams ps vs
  | p :: ps, [] => (env.undefine p).bindParams ps []

def inspect (env : Environment) : String :=
  "\x7b" ++ ", ".intercalate (env.bindings.map fun (s, v) => s.name ++ ": " ++ v.inspect) ++ "\x7d"

def summary (env : Environment) : String :=
  "<Environment " ++ toString env.size ++ " bindings>"

def initial : Environment :=
  empty.defineAll (Primitive.all.map (fun p => (⟨p.name⟩, .primitive p)) ++
    [(⟨"t"⟩, .bool true), (⟨"nil"⟩, .nil)])

end Environment

end PocketLisp
