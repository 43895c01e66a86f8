import PocketLisp.Text.Integer
import PocketLisp.Text.Quoted

set_option autoImplicit false

namespace PocketLisp.Settings

abbrev Variables := String → Option String

structure BadPort where
  text : String
deriving DecidableEq, Repr

def BadPort.message (fault : BadPort) : String :=
  "SIMPLE_LISP_REPL_PORT must be an integer, got " ++ Text.quoted fault.text

def nonempty? (vars : Variables) (name : String) : Option String :=
  (vars name).filter (!·.isEmpty)

def host (vars : Variables) : String :=
  (nonempty? vars "SIMPLE_LISP_REPL_HOST").getD "127.0.0.1"

def port (vars : Variables) : Except BadPort Int :=
  match nonempty? vars "SIMPLE_LISP_REPL_PORT" with
  | none => .ok 8765
  | some text =>
    match Text.integer? text with
    | some port => .ok port
    | none => .error ⟨text⟩

-- An empty prompt is kept.
def prompt (vars : Variables) : String :=
  (vars "SIMPLE_LISP_PROMPT").getD "lisp> "

def endpoint (vars : Variables) (host? : Option String) (port? : Option Int) :
    Except BadPort (String × Int) := do
  let port ← match port? with
    | some port => .ok port
    | none => port vars
  return ((host?.filter (!·.isEmpty)).getD (host vars), port)

end PocketLisp.Settings
