import PocketLisp.Token
import PocketLisp.Fault
import PocketLisp.Number.Literal

set_option autoImplicit false

namespace PocketLisp

namespace Reader

def readWord (text : String) : Value :=
  match Literal.number? text with
  | some x => .number x
  | none => .symbol (.ofText text)

-- The items up to a closing parenthesis, and the tokens after it. Every item takes a token, so a
-- `bound` that is longer than the tokens never runs out.
def readItems (readOne : List Token → Except Fault (Value × List Token)) :
    (bound tokens : List Token) → Except Fault (List Value × List Token)
  | [], _ => .error (.error .unmatchedParenthesis)
  | _ :: _, [] => .error (.error .unmatchedParenthesis)
  | _ :: _, .rparen :: rest => .ok ([], rest)
  | _ :: bound, tokens => do
    let (item, rest) ← readOne tokens
    let (items, rest) ← readItems readOne bound rest
    return (item :: items, rest)

def readQuoted (readOne : List Token → Except Fault (Value × List Token)) :
    List Token → Except Fault (Value × List Token)
  | [] => .error (.error .danglingQuote)
  | .rparen :: _ => .error (.error .danglingQuote)
  | tokens => do
    let (quoted, rest) ← readOne tokens
    return (.list [.symbol ⟨"quote"⟩, quoted], rest)

def readOne : (depth : Nat) → List Token → Except Fault (Value × List Token)
  | _, [] => .error (.error .unexpectedEnd)
  | 0, _ => .error .tooDeep
  | depth + 1, token :: rest =>
    match token with
    | .lparen => do
      let (items, rest) ← readItems (readOne depth) (token :: rest) rest
      return (.list items, rest)
    | .rparen => .error (.error .unexpectedParenthesis)
    | .quote => readQuoted (readOne depth) rest
    | .word text => .ok (readWord text, rest)

def itemsAt (tokens : List Token) (readAt : Nat → Except Fault (Value × Nat)) :
    (bound index : Nat) → Except Fault (List Value × Nat)
  | 0, _ => .error (.error .unmatchedParenthesis)
  | bound + 1, index =>
    match tokens[index]? with
    | none => .error (.error .unmatchedParenthesis)
    | some .rparen => .ok ([], index + 1)
    | some _ => do
      let (item, index) ← readAt index
      let (items, index) ← itemsAt tokens readAt bound index
      return (item :: items, index)

def quotedAt (tokens : List Token) (readAt : Nat → Except Fault (Value × Nat)) (index : Nat) :
    Except Fault (Value × Nat) :=
  match tokens[index]? with
  | none | some .rparen => .error (.error .danglingQuote)
  | some _ => do
    let (quoted, index) ← readAt index
    return (.list [.symbol ⟨"quote"⟩, quoted], index)

-- The expression that starts at a place in a token list, and the place after it. The list is not
-- taken apart, only the place moves.
def readAt : (depth : Nat) → (tokens : List Token) → (index : Nat) → Except Fault (Value × Nat)
  | 0, tokens, index =>
    match tokens[index]? with
    | none => .error (.error .unexpectedEnd)
    | some _ => .error .tooDeep
  | depth + 1, tokens, index =>
    match tokens[index]? with
    | none => .error (.error .unexpectedEnd)
    | some .lparen => do
      let (items, index) ← itemsAt tokens (readAt depth tokens) tokens.length (index + 1)
      return (.list items, index)
    | some .rparen => .error (.error .unexpectedParenthesis)
    | some .quote => quotedAt tokens (readAt depth tokens) (index + 1)
    | some (.word text) => .ok (readWord text, index + 1)

def readMany (readOne : List Token → Except Fault (Value × List Token)) :
    (bound tokens : List Token) → Except Fault (List Value)
  | _, [] => .ok []
  | [], _ => .error .tooDeep
  | _ :: bound, tokens => do
    let (expr, rest) ← readOne tokens
    let exprs ← readMany readOne bound rest
    return expr :: exprs

def readAll (depth : Nat) (tokens : List Token) : Except Fault (List Value) :=
  readMany (readOne depth) tokens tokens

def read (depth : Nat) (source : String) : Except Fault (List Value) :=
  readAll depth (Token.scan source)

end Reader

end PocketLisp
