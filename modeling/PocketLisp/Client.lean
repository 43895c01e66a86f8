import PocketLisp.Server
import PocketLisp.Text.Blank

set_option autoImplicit false

namespace PocketLisp.Client

inductive Received where
  | chunk (bytes : List UInt8)
  | failure
deriving DecidableEq, Repr

inductive Level where
  | debug | warning | error
deriving DecidableEq, Repr

def Level.name : Level → String
  | debug => "DEBUG"
  | warning => "WARNING"
  | error => "ERROR"

inductive Event where
  | connected
  | overlong (limit : Int)
  | unreadable
  | disconnected
deriving DecidableEq, Repr

def Event.level : Event → Level
  | connected => .debug
  | overlong _ => .warning
  | unreadable => .error
  | disconnected => .debug

def Event.message (client : String) : Event → String
  | connected => "client connected: " ++ client
  | overlong limit => "request line from " ++ client ++ " exceeds " ++ toString limit ++ " bytes"
  | unreadable => "error reading from " ++ client
  | disconnected => "client disconnected: " ++ client

structure Exchange where
  sent : List (List UInt8)
  log : List Event
  crash : Option Crash
  closed : Bool
deriving DecidableEq, Repr

namespace Exchange

def opened : Exchange :=
  ⟨[], [.connected], none, false⟩

def send (exchange : Exchange) (reply : Reply) : Exchange :=
  { exchange with sent := exchange.sent ++ [reply.toLine] }

def note (exchange : Exchange) (event : Event) : Exchange :=
  { exchange with log := exchange.log ++ [event] }

def crashed (exchange : Exchange) (crash : Crash) : Exchange :=
  { exchange with crash := some crash, closed := true }

def ended (exchange : Exchange) : Exchange :=
  { exchange.note .disconnected with closed := true }

end Exchange

structure State where
  server : Server
  exchange : Exchange

def answerLine (state : State) : Line → State
  | .overlong =>
    { state with
      exchange := (state.exchange.note (.overlong state.server.maxLineBytes)).send
        (.failed "Invalid request: line too long") }
  | .whole bytes =>
    let line := Text.trimBoth (fun b => Text.isAsciiBlank b.toNat) bytes
    if line.isEmpty then state
    else match state.server.handleLine line with
      | (.ok reply, server) => ⟨server, state.exchange.send reply⟩
      | (.error crash, server) => ⟨server, state.exchange.crashed crash⟩

def answerLines (state : State) : List Line → State
  | [] => state
  | line :: rest =>
    let state := answerLine state line
    if state.exchange.crash.isSome then state else answerLines state rest

def serveFrom (state : State) (buffer : LineBuffer) : List Received → State
  | [] => { state with exchange := state.exchange.ended }
  | .failure :: _ => { state with exchange := (state.exchange.note .unreadable).ended }
  | .chunk bytes :: rest =>
    if bytes.isEmpty then { state with exchange := state.exchange.ended }
    else
      let (lines, buffer) := buffer.feed bytes
      let state := answerLines state lines
      if state.exchange.crash.isSome then state else serveFrom state buffer rest

-- Serves a client from its connection to its end. After the last of `script` the stream ends.
def serve (server : Server) (script : List Received) : State :=
  serveFrom ⟨server, .opened⟩ (.empty server.maxLineBytes) script

end PocketLisp.Client
