import PocketLisp.Eval
import PocketLisp.Reader

set_option autoImplicit false

namespace PocketLisp

structure Session where
  globals : Environment
  printed : List String

namespace Session

def initial : Session :=
  ⟨.initial, []⟩

instance : Inhabited Session := ⟨initial⟩

-- How deep calls may nest in a process. What a host has under way when it hands over a program is
-- not left to the program.
def callLimit : Nat := 1000

def runExpr (depth : Nat) (session : Session) (expr : Value) : Except Fault Value × Session :=
  let (outcome, store) := (eval depth 0 expr).run (.ofGlobals session.globals 0)
  (outcome, ⟨store.environment 0, session.printed ++ store.printed.toList⟩)

-- Runs expressions up to the first fault. The value is that of the last one, or `last` if there
-- is none.
def runProgram (depth : Nat) (session : Session) (last : Value) :
    List Value → Except Fault Value × Session
  | [] => (.ok last, session)
  | expr :: rest =>
    match session.runExpr depth expr with
    | (.ok v, session) => session.runProgram depth v rest
    | (.error fault, session) => (.error fault, session)

def evalValue (depth : Nat) (session : Session) (code : String) :
    Except Fault Value × Session :=
  let session := { session with printed := [] }
  match Reader.read depth code with
  | .ok program => session.runProgram depth .nil program
  | .error fault => (.error fault, session)

structure Answer where
  result : String
  output : String
deriving DecidableEq, Repr

def answer (v : Value) (printed : List String) : Answer :=
  ⟨v.print, String.join (printed.map (· ++ "\n")) ++ v.print⟩

-- Printing nests as deep as the value does.
def answer? (depth : Nat) (v : Value) (printed : List String) : Except Fault Answer :=
  if v.depth ≤ depth then .ok (answer v printed) else .error .tooDeep

def evaluate (depth : Nat) (session : Session) (code : String) : Except Fault Answer × Session :=
  let (outcome, session) := session.evalValue depth code
  (outcome >>= (answer? depth · session.printed), session)

end Session

end PocketLisp
