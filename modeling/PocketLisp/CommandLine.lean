import PocketLisp.Console
import PocketLisp.Settings
import PocketLisp.Text.Lines
import PocketLisp.Utf8

set_option autoImplicit false

namespace PocketLisp.CommandLine

inductive Problem where
  | unrecognized (arguments : List String)
  | helpArgument (argument : String)
deriving DecidableEq, Repr

inductive Request where
  | run (file : Option String)
  | help
  | problem (p : Problem)
deriving DecidableEq, Repr

-- Digits after a minus sign, with at most one point that has digits after it; a line feed may
-- end the argument.
def isNegativeNumber : List Char → Bool
  | '-' :: rest =>
    let body := if rest.getLast? = some '\n' then rest.dropLast else rest
    let whole := body.takeWhile (fun c => (Text.digit? c).isSome)
    match body.drop whole.length with
    | [] => !whole.isEmpty
    | '.' :: fraction => !fraction.isEmpty && fraction.all (fun c => (Text.digit? c).isSome)
    | _ => false
  | _ => false

inductive Help where
  | plain
  | argument (text : String)
deriving DecidableEq, Repr

def repeatedHelp : List Char → Help
  | [] => .plain
  | 'h' :: rest => repeatedHelp rest
  | rest => .argument (String.ofList rest)

-- What follows `-h`. One `=` may stand between, and then something has to come after it.
def shortHelp : List Char → Help
  | ['='] => .argument ""
  | '=' :: rest => repeatedHelp rest
  | rest => repeatedHelp rest

def help? (argument : List Char) : Option Help :=
  match argument with
  | '-' :: '-' :: rest =>
    let name := rest.takeWhile (· != '=')
    if name.isPrefixOf "help".toList then
      match rest.drop name.length with
      | _ :: text => some (.argument (String.ofList text))
      | [] => some .plain
    else none
  | '-' :: 'h' :: rest => some (shortHelp rest)
  | _ => none

-- Arguments that start with a minus sign are options, except a lone sign, negative numbers, and
-- those that hold a space.
def isOption (argument : List Char) : Bool :=
  match argument with
  | '-' :: _ :: _ => !isNegativeNumber argument && !argument.contains ' '
  | _ => false

structure Taken where
  file : Option String
  rest : List String

def takePlain (taken : Taken) : List String → Taken
  | [] => taken
  | argument :: more =>
    match taken.file with
    | none => takePlain { taken with file := some argument } more
    | some _ => takePlain { taken with rest := taken.rest ++ [argument] } more

-- The mark `--` is passed over where it stands beside the file and is of no use elsewhere.
def take (taken : Taken) : List String → Request
  | [] => finish taken
  | "--" :: more =>
    match taken.file with
    | none => finish (takePlain taken more)
    | some _ => finish (takePlain { taken with rest := taken.rest ++ ["--"] } more)
  | argument :: more =>
    match help? argument.toList with
    | some .plain => .help
    | some (.argument text) => .problem (.helpArgument text)
    | none =>
      if isOption argument.toList then take { taken with rest := taken.rest ++ [argument] } more
      else match taken.file with
        | some _ => take { taken with rest := taken.rest ++ [argument] } more
        | none =>
          match more with
          | "--" :: more => finish (takePlain { taken with file := some argument } more)
          | _ => take { taken with file := some argument } more
where
  finish (taken : Taken) : Request :=
    if taken.rest.isEmpty then .run taken.file else .problem (.unrecognized taken.rest)

def parse (arguments : List String) : Request :=
  take ⟨none, []⟩ arguments

def usage : String :=
  "usage: simple-lisp [-h] [file]\n"

def helpText : String :=
  usage ++ "\nEvaluate simple-lisp code.\n\npositional arguments:\n" ++
    "  file        file to evaluate (if omitted, starts an interactive session)\n\noptions:\n" ++
    "  -h, --help  show this help message and exit\n"

def Problem.message : Problem → String
  | unrecognized arguments => "unrecognized arguments: " ++ " ".intercalate arguments
  | helpArgument argument =>
    "argument -h/--help: ignored explicit argument " ++ Text.quoted argument

def Problem.text (problem : Problem) : String :=
  usage ++ "simple-lisp: error: " ++ problem.message ++ "\n"

structure Surroundings where
  file? : String → Option (List UInt8)
  stdin : String
  terminal : Bool
  vars : Settings.Variables

inductive Ending where
  | finished (status : Nat)
  | refused (status : Nat)
  | missingFile
  | invalidPath
  | undecodable (fault : Utf8.Fault)
deriving DecidableEq, Repr

structure Outcome where
  ending : Ending
  out : String
  err : String
deriving DecidableEq, Repr

def isPath (path : String) : Bool :=
  !path.toList.contains '\x00'

def invalidPathMessage : String :=
  "embedded null byte"

def runFile (bytes : List UInt8) : Outcome :=
  match Utf8.decode bytes with
  | .error fault => ⟨.undecodable fault, "", ""⟩
  | .ok text =>
    let report := Console.runSource Console.defaultDepth .initial
      (String.ofList (Text.unifyLineEnds text))
    ⟨.finished (if report.success then 0 else 1), report.text, ""⟩

def promptFor (terminal : Bool) (vars : Settings.Variables) : String :=
  if terminal then Settings.prompt vars else ""

def run (arguments : List String) (surroundings : Surroundings) : Outcome :=
  match parse arguments with
  | .help => ⟨.refused 0, helpText, ""⟩
  | .problem problem => ⟨.refused 2, "", problem.text⟩
  | .run (some path) =>
    if !isPath path then ⟨.invalidPath, "", ""⟩
    else match surroundings.file? path with
      | some bytes => runFile bytes
      | none => ⟨.missingFile, "", ""⟩
  | .run none =>
    let prompt := promptFor surroundings.terminal surroundings.vars
    ⟨.finished 0, (Console.repl Console.defaultDepth prompt (Text.lines surroundings.stdin)).1, ""⟩

end PocketLisp.CommandLine
