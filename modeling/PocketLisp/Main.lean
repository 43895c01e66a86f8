import PocketLisp.CommandLine

set_option autoImplicit false

namespace PocketLisp

partial def interact (prompt : String) (session : Session) (waiting : List String) : IO Unit := do
  match waiting with
  | [] =>
    let line ← (← IO.getStdin).getLine
    if line.isEmpty then return
    interact prompt session (Text.lines line)
  | line :: waiting =>
    match Console.Command.ofLine line with
    | .quit => return
    | command =>
      let (text, session) := Console.perform Console.defaultDepth session command
      let stdout ← IO.getStdout
      stdout.putStr (text ++ prompt)
      stdout.flush
      interact prompt session waiting

def readFile? (path : String) : IO (Option (List UInt8)) := do
  try
    return some (← IO.FS.readBinFile path).toList
  catch _ => return none

def surroundings (path : Option String) : IO CommandLine.Surroundings := do
  let bytes ← match path with
    | some path => readFile? path
    | none => pure none
  return { file? := fun _ => bytes, stdin := "", terminal := false, vars := fun _ => none }

def report (outcome : CommandLine.Outcome) : IO UInt32 := do
  IO.print outcome.out
  IO.eprint outcome.err
  match outcome.ending with
  | .finished status | .refused status => return UInt32.ofNat status
  | .missingFile =>
    IO.eprintln "no such file"
    return 1
  | .invalidPath =>
    IO.eprintln CommandLine.invalidPathMessage
    return 1
  | .undecodable fault =>
    IO.eprintln fault.message
    return 1

end PocketLisp

open PocketLisp in
def main (arguments : List String) : IO UInt32 := do
  match CommandLine.parse arguments with
  | .run none =>
    let terminal ← (← IO.getStdin).isTty
    let prompt ← IO.getEnv "SIMPLE_LISP_PROMPT"
    let prompt := CommandLine.promptFor terminal fun _ => prompt
    IO.print prompt
    (← IO.getStdout).flush
    interact prompt .initial []
    return 0
  | .run path => report (CommandLine.run arguments (← surroundings path))
  | _ => report (CommandLine.run arguments (← surroundings none))
