import PocketLisp.Session
import PocketLisp.Text.Blank

set_option autoImplicit false

namespace PocketLisp.Console

def faultText : Fault → String
  | .error e => e.message
  | .tooDeep => "maximum recursion depth exceeded"

structure Report where
  text : String
  success : Bool
  session : Session

def defaultDepth : Nat := Session.callLimit - 7

def runSource (depth : Nat) (session : Session) (code : String) : Report :=
  match session.evaluate depth code with
  | (.ok answer, session) => ⟨answer.output ++ "\n", true, session⟩
  | (.error fault, session) => ⟨"error: " ++ faultText fault ++ "\n", false, session⟩

inductive Command where
  | quit
  | reset
  | skip
  | run (code : String)
deriving DecidableEq, Repr

def Command.ofLine (line : String) : Command :=
  let code := Text.strip line
  if code = ":quit" ∨ code = ":q" then quit
  else if code = ":reset" then reset
  else if code.isEmpty then skip
  else run code

def perform (depth : Nat) (session : Session) : Command → String × Session
  | .reset => ("session reset\n", .initial)
  | .run code =>
    let report := runSource depth session code
    (report.text, report.session)
  | .quit | .skip => ("", session)

def replFrom (depth : Nat) (prompt : String) (session : Session) :
    List String → String × Session
  | [] => ("", session)
  | line :: rest =>
    match Command.ofLine line with
    | .quit => ("", session)
    | command =>
      let (text, session) := perform depth session command
      let (more, session) := replFrom depth prompt session rest
      (text ++ prompt ++ more, session)

def repl (depth : Nat) (prompt : String) (lines : List String) : String × Session :=
  let (text, session) := replFrom depth prompt .initial lines
  (prompt ++ text, session)

end PocketLisp.Console
