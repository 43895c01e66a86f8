import PocketLisp.Session
import PocketLisp.Json.Read
import PocketLisp.Json.Write
import PocketLisp.Utf8
import PocketLisp.LineBuffer

set_option autoImplicit false

namespace PocketLisp

inductive Reply where
  | evaluated (answer : Session.Answer)
  | done
  | failed (error : String)
deriving DecidableEq, Repr

def Reply.toJson : Reply → Json
  | evaluated answer =>
    .obj [("ok", .bool true), ("result", .str answer.result), ("output", .str answer.output)]
  | done => .obj [("ok", .bool true)]
  | failed error => .obj [("ok", .bool false), ("error", .str error)]

-- A reply as it is sent. Written JSON is ASCII, so every character is one byte.
def Reply.toLine (reply : Reply) : List UInt8 :=
  (reply.toJson.write.toList ++ ['\n']).map fun c => UInt8.ofNat c.toNat

inductive Crash where
  | longInteger (digits : Nat)
  | tooDeep
deriving DecidableEq, Repr

def Crash.message : Crash → String
  | longInteger digits =>
    "Exceeds the limit (" ++ toString Literal.maxIntegerDigits ++
      " digits) for integer string conversion: value has " ++ toString digits ++
      " digits; use sys.set_int_max_str_digits() to increase the limit"
  | tooDeep => "maximum recursion depth exceeded"

structure Server where
  session : Session
  maxLineBytes : Int
  -- How deep a request and the program in it may nest.
  depth : Nat

namespace Server

-- The console has one call more under way when it hands over a program.
def defaultDepth : Nat := Session.callLimit - 6

def initial (maxLineBytes : Int) (depth : Nat) : Server :=
  ⟨.initial, maxLineBytes, depth⟩

def faultText : Fault → String
  | .error e => e.message
  | .tooDeep => "Maximum recursion depth exceeded"

def evaluate (server : Server) (code : String) : Reply × Server :=
  let (outcome, session) := server.session.evaluate server.depth code
  let reply := match outcome with
    | .ok answer => Reply.evaluated answer
    | .error fault => .failed (faultText fault)
  (reply, { server with session })

inductive Request where
  | eval (code : String)
  | reset
  | invalid (error : String)
deriving DecidableEq, Repr

def Request.ofCode? : Option Json → Request
  | none => eval ""
  | some (.str code) => eval code
  | some _ => invalid "Invalid request: code must be a string"

def Request.ofJson (request : Json) : Request :=
  match request with
  | .obj _ =>
    match (request.field? "cmd").getD .null with
    | .str "eval" => ofCode? (request.field? "code")
    | .str "reset" => reset
    | cmd => invalid ("Unknown cmd: " ++ cmd.display)
  | _ => invalid "Invalid request: expected a JSON object"

def handle (server : Server) (request : Json) : Reply × Server :=
  match Request.ofJson request with
  | .eval code => server.evaluate code
  | .reset => (.done, { server with session := .initial })
  | .invalid error => (.failed error, server)

def handleLine (server : Server) (line : List UInt8) : Except Crash Reply × Server :=
  match Utf8.decode line with
  | .error fault => (.ok (.failed ("Invalid request: " ++ fault.message)), server)
  | .ok text =>
    match Json.read server.depth text with
    | .ok request =>
      let (reply, server) := server.handle request
      (.ok reply, server)
    | .error (.malformed cause position) =>
      (.ok (.failed ("Invalid request: " ++ cause.messageAt text position)), server)
    | .error (.longInteger digits) => (.error (.longInteger digits), server)
    | .error .tooDeep => (.error .tooDeep, server)

end Server

end PocketLisp
