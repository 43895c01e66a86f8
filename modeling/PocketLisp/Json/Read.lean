import PocketLisp.Json
import PocketLisp.Number.Literal

set_option autoImplicit false

namespace PocketLisp.Json

inductive Cause where
  | value | propertyName | colon | comma
  | unterminated | control | escape | unicodeEscape
  | extraData | byteOrderMark
deriving DecidableEq, Repr

def Cause.message : Cause → String
  | value => "Expecting value"
  | propertyName => "Expecting property name enclosed in double quotes"
  | colon => "Expecting ':' delimiter"
  | comma => "Expecting ',' delimiter"
  | unterminated => "Unterminated string starting at"
  | control => "Invalid control character at"
  | escape => "Invalid \\escape"
  | unicodeEscape => "Invalid \\uXXXX escape"
  | extraData => "Extra data"
  | byteOrderMark => "Unexpected UTF-8 BOM (decode using utf-8-sig)"

inductive Fault where
  | malformed (cause : Cause) (position : Nat)
  | longInteger (digits : Nat)
  | tooDeep
deriving DecidableEq, Repr

structure Cursor where
  position : Nat
  rest : List Char

namespace Cursor

def advance (cursor : Cursor) (count : Nat) : Cursor :=
  ⟨cursor.position + count, cursor.rest.drop count⟩

def fail {α : Type} (cursor : Cursor) (cause : Cause) : Except Fault α :=
  .error (.malformed cause cursor.position)

def isBlank (c : Char) : Bool :=
  c == ' ' || c == '\t' || c == '\n' || c == '\r'

def skipBlanks (cursor : Cursor) : Cursor :=
  cursor.advance (cursor.rest.takeWhile isBlank).length

def skip? (cursor : Cursor) (word : String) : Option Cursor :=
  if word.toList.isPrefixOf cursor.rest then some (cursor.advance word.length) else none

end Cursor

def simpleEscape? (c : Char) : Option Char :=
  if c = '"' ∨ c = '\\' ∨ c = '/' then some c
  else if c = 'b' then some '\x08'
  else if c = 'f' then some '\x0c'
  else if c = 'n' then some '\n'
  else if c = 'r' then some '\r'
  else if c = 't' then some '\t'
  else none

def hexValue? (c : Char) : Option Nat :=
  if '0' ≤ c ∧ c ≤ '9' then some (c.toNat - 48)
  else if 'a' ≤ c ∧ c ≤ 'f' then some (c.toNat - 87)
  else if 'A' ≤ c ∧ c ≤ 'F' then some (c.toNat - 55)
  else none

def codeUnit? (a b c d : Char) : Option Nat :=
  match hexValue? a, hexValue? b, hexValue? c, hexValue? d with
  | some a, some b, some c, some d => some (((a * 16 + b) * 16 + c) * 16 + d)
  | _, _, _, _ => none

def isHighSurrogate (unit : Nat) : Bool :=
  0xD800 ≤ unit && unit < 0xDC00

def isLowSurrogate (unit : Nat) : Bool :=
  0xDC00 ≤ unit && unit < 0xE000

-- The character of a code; a surrogate without its partner has none of its own.
def codeChar (code : Nat) : Char :=
  if isHighSurrogate code || isLowSurrogate code then '\ufffd' else Char.ofNat code

def joinSurrogates : List Nat → List Char
  | [] => []
  | [code] => [codeChar code]
  | code :: next :: rest =>
    if isHighSurrogate code && isLowSurrogate next then
      Char.ofNat (0x10000 + (code - 0xD800) * 0x400 + (next - 0xDC00)) :: joinSurrogates rest
    else codeChar code :: joinSurrogates (next :: rest)

-- The codes of the rest of a string whose opening mark stands at `opening`. Those read so far
-- are kept in reverse. An escape of four digits must have text after it.
def readCodes (opening position : Nat) (read : List Nat) :
    List Char → Except Fault (List Nat × Cursor)
  | [] => .error (.malformed .unterminated opening)
  | c :: rest =>
    if c = '"' then .ok (read.reverse, ⟨position + 1, rest⟩)
    else if c = '\\' then
      match rest with
      | [] => .error (.malformed .unterminated opening)
      | e :: rest =>
        if e = 'u' then
          match rest with
          | h₁ :: h₂ :: h₃ :: h₄ :: rest =>
            match codeUnit? h₁ h₂ h₃ h₄ with
            | none => .error (.malformed .unicodeEscape (position + 1))
            | some unit =>
              if rest.isEmpty then .error (.malformed .unicodeEscape (position + 1))
              else readCodes opening (position + 6) (unit :: read) rest
          | _ => .error (.malformed .unicodeEscape (position + 1))
        else match simpleEscape? e with
          | some e => readCodes opening (position + 2) (e.toNat :: read) rest
          | none => .error (.malformed .escape position)
    else if c.toNat < 32 then .error (.malformed .control position)
    else readCodes opening (position + 1) (c.toNat :: read) rest

def readString (cursor : Cursor) : Except Fault (String × Cursor) := do
  let (codes, cursor) ← readCodes (cursor.position - 1) cursor.position [] cursor.rest
  return (String.ofList (joinSurrogates codes), cursor)

def signed (negative : Bool) (magnitude : Nat) : Int :=
  if negative then -(magnitude : Int) else magnitude

-- The digits of an integer: a zero, or digits that do not start with one.
def wholeDigits (text : List Char) : List Char :=
  match text with
  | '0' :: _ => ['0']
  | _ => text.takeWhile Char.isDigit

def fractionDigits : List Char → List Char
  | '.' :: rest => rest.takeWhile Char.isDigit
  | _ => []

def exponentPart? : List Char → Option (Nat × Int)
  | c :: rest =>
    if c = 'e' ∨ c = 'E' then
      let (negative, unsigned) := Literal.sign rest
      let digits := unsigned.takeWhile Char.isDigit
      if digits.isEmpty then none
      else
        some (1 + (rest.length - unsigned.length) + digits.length,
          signed negative (Literal.value digits))
    else none
  | [] => none

def decimalNumber (negative : Bool) (whole fraction : List Char) (exponent : Int) : Json :=
  .float (Decimal.toNumber negative
    ⟨Literal.value (whole ++ fraction), exponent - fraction.length⟩)

def readNumber (cursor : Cursor) : Except Fault (Json × Cursor) :=
  let negative := cursor.rest.head? = some '-'
  let unsigned := if negative then cursor.advance 1 else cursor
  let whole := wholeDigits unsigned.rest
  if whole.isEmpty then cursor.fail .value
  else
    let cursor := unsigned.advance whole.length
    let fraction := fractionDigits cursor.rest
    let cursor := if fraction.isEmpty then cursor else cursor.advance (1 + fraction.length)
    match exponentPart? cursor.rest with
    | some (length, exponent) =>
      .ok (decimalNumber negative whole fraction exponent, cursor.advance length)
    | none =>
      if !fraction.isEmpty then .ok (decimalNumber negative whole fraction 0, cursor)
      else if Literal.maxIntegerDigits < whole.length then .error (.longInteger whole.length)
      else .ok (.int (signed negative (Literal.value whole)), cursor)

-- Beside standard JSON, `NaN`, `Infinity` and `-Infinity` are taken.
def words : List (String × Json) :=
  [("null", .null), ("true", .bool true), ("false", .bool false), ("NaN", .float (.nan 0)),
   ("Infinity", .float (.infinite false)), ("-Infinity", .float (.infinite true))]

def readScalar (cursor : Cursor) : Except Fault (Json × Cursor) :=
  match cursor.rest with
  | '"' :: _ => do
    let (s, cursor) ← readString (cursor.advance 1)
    return (.str s, cursor)
  | _ =>
    match words.findSome? fun (word, value) => (cursor.skip? word).map (value, ·) with
    | some found => .ok found
    | none => readNumber cursor

-- The items of an array up to its end. Each takes a character, so a `bound` longer than the text
-- to come never runs out.
def readItems (readValue : Cursor → Except Fault (Json × Cursor)) :
    (bound : List Char) → Cursor → Except Fault (List Json × Cursor)
  | [], cursor => cursor.fail .value
  | _ :: bound, cursor => do
    let (item, cursor) ← readValue cursor
    let cursor := cursor.skipBlanks
    match cursor.rest with
    | ']' :: _ => return ([item], cursor.advance 1)
    | ',' :: _ => do
      let (items, cursor) ← readItems readValue bound (cursor.advance 1).skipBlanks
      return (item :: items, cursor)
    | _ => cursor.fail .comma

def readArray (readValue : Cursor → Except Fault (Json × Cursor)) (cursor : Cursor) :
    Except Fault (Json × Cursor) :=
  let inside := (cursor.advance 1).skipBlanks
  match inside.rest with
  | ']' :: _ => .ok (.arr [], inside.advance 1)
  | _ => do
    let (items, cursor) ← readItems readValue cursor.rest inside
    return (.arr items, cursor)

def readKey (cursor : Cursor) : Except Fault (String × Cursor) :=
  match cursor.rest with
  | '"' :: _ => do
    let (key, cursor) ← readString (cursor.advance 1)
    let cursor := cursor.skipBlanks
    match cursor.rest with
    | ':' :: _ => return (key, (cursor.advance 1).skipBlanks)
    | _ => cursor.fail .colon
  | _ => cursor.fail .propertyName

def readFields (readValue : Cursor → Except Fault (Json × Cursor)) :
    (bound : List Char) → List (String × Json) → Cursor →
      Except Fault (List (String × Json) × Cursor)
  | [], _, cursor => cursor.fail .propertyName
  | _ :: bound, fields, cursor => do
    let (key, cursor) ← readKey cursor
    let (value, cursor) ← readValue cursor
    let fields := put key value fields
    let cursor := cursor.skipBlanks
    match cursor.rest with
    | '\x7d' :: _ => return (fields, cursor.advance 1)
    | ',' :: _ => readFields readValue bound fields (cursor.advance 1).skipBlanks
    | _ => cursor.fail .comma

def readObject (readValue : Cursor → Except Fault (Json × Cursor)) (cursor : Cursor) :
    Except Fault (Json × Cursor) :=
  let inside := (cursor.advance 1).skipBlanks
  match inside.rest with
  | '\x7d' :: _ => .ok (.obj [], inside.advance 1)
  | _ => do
    let (fields, cursor) ← readFields readValue cursor.rest [] inside
    return (.obj fields, cursor)

def readValue : (depth : Nat) → Cursor → Except Fault (Json × Cursor)
  | 0, cursor =>
    match cursor.rest with
    | '[' :: _ => .error .tooDeep
    | '\x7b' :: _ => .error .tooDeep
    | _ => readScalar cursor
  | depth + 1, cursor =>
    match cursor.rest with
    | '[' :: _ => readArray (readValue depth) cursor
    | '\x7b' :: _ => readObject (readValue depth) cursor
    | _ => readScalar cursor

def read (depth : Nat) (text : List Char) : Except Fault Json :=
  if text.head? = some '\ufeff' then .error (.malformed .byteOrderMark 0)
  else do
    let (value, cursor) ← readValue depth (Cursor.skipBlanks ⟨0, text⟩)
    let cursor := cursor.skipBlanks
    if cursor.rest.isEmpty then return value else cursor.fail .extraData

def location (text : List Char) (position : Nat) : Nat × Nat :=
  let before := text.take position
  (before.count '\n' + 1, (before.reverse.takeWhile (· != '\n')).length + 1)

def Cause.messageAt (cause : Cause) (text : List Char) (position : Nat) : String :=
  let (line, column) := location text position
  cause.message ++ ": line " ++ toString line ++ " column " ++ toString column ++
    " (char " ++ toString position ++ ")"

end PocketLisp.Json
