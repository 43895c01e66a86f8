import PocketLisp.Text.Blank

set_option autoImplicit false

namespace PocketLisp

inductive Token where
  | lparen
  | rparen
  | quote
  | word (text : String)
deriving DecidableEq, Repr

namespace Token

def text : Token → String
  | lparen => "("
  | rparen => ")"
  | quote => "'"
  | word text => text

-- The token with a given text. Text that no scan produces is a word.
def ofText (text : String) : Token :=
  if text = "(" then lparen
  else if text = ")" then rparen
  else if text = "'" then quote
  else word text

def delimiter? (c : Char) : Option Token :=
  if c = '(' then some lparen
  else if c = ')' then some rparen
  else if c = '\'' then some quote
  else none

def pending : List Char → List Token
  | [] => []
  | read => [word (String.ofList read.reverse)]

def scanFrom (read : List Char) : List Char → List Token
  | [] => pending read
  | c :: rest =>
    match delimiter? c with
    | some token => pending read ++ token :: scanFrom [] rest
    | none =>
      if Text.isBlank c then pending read ++ scanFrom [] rest else scanFrom (c :: read) rest

def scan (source : String) : List Token :=
  scanFrom [] source.toList

end Token

end PocketLisp
