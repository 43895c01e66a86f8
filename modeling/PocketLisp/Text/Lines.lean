set_option autoImplicit false

namespace PocketLisp.Text

def unifyLineEnds : List Char → List Char
  | [] => []
  | '\r' :: '\n' :: rest => '\n' :: unifyLineEnds rest
  | c :: rest => (if c = '\r' then '\n' else c) :: unifyLineEnds rest

def linesFrom (read : List Char) : List Char → List String
  | [] => if read.isEmpty then [] else [String.ofList read.reverse]
  | c :: rest =>
    if c = '\n' then String.ofList read.reverse :: linesFrom [] rest else linesFrom (c :: read) rest

def lines (text : String) : List String :=
  linesFrom [] (unifyLineEnds text.toList)

end PocketLisp.Text
