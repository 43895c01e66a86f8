import PocketLisp.Json
import PocketLisp.Value.Inspect

set_option autoImplicit false

namespace PocketLisp.Json

-- A code point beyond 0xFFFF is written as its two surrogates.
def unicodeEscape (code : Nat) : List Char :=
  if code < 0x10000 then ['\\', 'u'] ++ Text.hex 4 code
  else
    ['\\', 'u'] ++ Text.hex 4 (0xD800 + (code - 0x10000) / 0x400) ++
      ['\\', 'u'] ++ Text.hex 4 (0xDC00 + (code - 0x10000) % 0x400)

def writeChar (c : Char) : List Char :=
  if c = '"' ∨ c = '\\' then ['\\', c]
  else if c = '\n' then ['\\', 'n']
  else if c = '\r' then ['\\', 'r']
  else if c = '\t' then ['\\', 't']
  else if c.toNat = 8 then ['\\', 'b']
  else if c.toNat = 12 then ['\\', 'f']
  else if 32 ≤ c.toNat ∧ c.toNat < 127 then [c]
  else unicodeEscape c.toNat

def writeString (s : String) : String :=
  String.ofList ('"' :: s.toList.flatMap writeChar ++ ['"'])

def writtenNumber : NumberFormat :=
  { inspectedNumber with infinity := "Infinity", nan := "NaN" }

mutual

def write : Json → String
  | .null => "null"
  | .bool b => if b then "true" else "false"
  | .int n => toString n
  | .float x => writtenNumber.write x
  | .str s => writeString s
  | .arr items => "[" ++ ", ".intercalate (writeItems items) ++ "]"
  | .obj fields => "\x7b" ++ ", ".intercalate (writeFields fields) ++ "\x7d"

def writeItems : List Json → List String
  | [] => []
  | v :: rest => v.write :: writeItems rest

def writeFields : List (String × Json) → List String
  | [] => []
  | (k, v) :: rest => (writeString k ++ ": " ++ v.write) :: writeFields rest

end

mutual

def inspect : Json → String
  | .null => "None"
  | .bool b => inspectBool b
  | .int n => toString n
  | .float x => x.inspect
  | .str s => Text.quoted s
  | .arr items => "[" ++ ", ".intercalate (inspectItems items) ++ "]"
  | .obj fields => "\x7b" ++ ", ".intercalate (inspectFields fields) ++ "\x7d"

def inspectItems : List Json → List String
  | [] => []
  | v :: rest => v.inspect :: inspectItems rest

def inspectFields : List (String × Json) → List String
  | [] => []
  | (k, v) :: rest => (Text.quoted k ++ ": " ++ v.inspect) :: inspectFields rest

end

def display : Json → String
  | .str s => s
  | v => v.inspect

end PocketLisp.Json
