import PocketLisp.Text.Printable

set_option autoImplicit false

namespace PocketLisp.Text

def hexDigit (n : Nat) : Char :=
  if n < 10 then Char.ofNat (48 + n) else Char.ofNat (87 + n)

def hex : (width : Nat) → (n : Nat) → List Char
  | 0, _ => []
  | width + 1, n => hex width (n / 16) ++ [hexDigit (n % 16)]

-- A code point as the shortest of `\xNN`, `\uNNNN` and `\UNNNNNNNN` that holds it.
def escapeCode (code : Nat) : List Char :=
  if code < 0x100 then ['\\', 'x'] ++ hex 2 code
  else if code < 0x10000 then ['\\', 'u'] ++ hex 4 code
  else ['\\', 'U'] ++ hex 8 code

def quotedChar (mark c : Char) : List Char :=
  if c = mark ∨ c = '\\' then ['\\', c]
  else if c = '\n' then ['\\', 'n']
  else if c = '\r' then ['\\', 'r']
  else if c = '\t' then ['\\', 't']
  else if isPrintable c then [c]
  else escapeCode c.toNat

def quotationMark (text : List Char) : Char :=
  if text.contains '\'' && !text.contains '"' then '"' else '\''

def quoted (text : String) : String :=
  let mark := quotationMark text.toList
  String.ofList (mark :: text.toList.flatMap (quotedChar mark) ++ [mark])

end PocketLisp.Text
