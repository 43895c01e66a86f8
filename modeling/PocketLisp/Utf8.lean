import PocketLisp.Text.Quoted

set_option autoImplicit false

namespace PocketLisp.Utf8

inductive Reason where
  | start | continuation | ending
deriving DecidableEq, Repr

def Reason.message : Reason → String
  | start => "invalid start byte"
  | continuation => "invalid continuation byte"
  | ending => "unexpected end of data"

structure Fault where
  first : Nat
  stop : Nat
  byte : UInt8
  reason : Reason
deriving DecidableEq, Repr

def Fault.message (fault : Fault) : String :=
  "'utf-8' codec can't decode " ++
    (if fault.stop = fault.first + 1 then
      "byte 0x" ++ String.ofList (Text.hex 2 fault.byte.toNat) ++
        " in position " ++ toString fault.first
    else
      "bytes in position " ++ toString fault.first ++ "-" ++ toString (fault.stop - 1)) ++
    ": " ++ fault.reason.message

structure Pending where
  first : Nat
  byte : UInt8
  code : Nat
  owed : Nat
  low : Nat
  high : Nat

-- The character that a first byte of 0x80 or more begins. The bounds of the second byte rule out
-- codes that have a shorter form, surrogates, and codes past the last one.
def begin? (position : Nat) (byte : UInt8) : Option Pending :=
  let b := byte.toNat
  let start := Pending.mk position byte
  if 0xC2 ≤ b ∧ b ≤ 0xDF then some (start (b - 0xC0) 1 0x80 0xBF)
  else if b = 0xE0 then some (start 0 2 0xA0 0xBF)
  else if b = 0xED then some (start 0xD 2 0x80 0x9F)
  else if 0xE1 ≤ b ∧ b ≤ 0xEF then some (start (b - 0xE0) 2 0x80 0xBF)
  else if b = 0xF0 then some (start 0 3 0x90 0xBF)
  else if 0xF1 ≤ b ∧ b ≤ 0xF3 then some (start (b - 0xF0) 3 0x80 0xBF)
  else if b = 0xF4 then some (start 4 3 0x80 0x8F)
  else none

def Pending.push (p : Pending) (byte : UInt8) : Pending :=
  { p with
    code := p.code * 64 + (byte.toNat - 0x80)
    owed := p.owed - 1
    low := 0x80
    high := 0xBF }

def Pending.fault (p : Pending) (stop : Nat) (reason : Reason) : Fault :=
  ⟨p.first, stop, p.byte, reason⟩

def decodeFrom (position : Nat) (read : List Char) :
    Option Pending → List UInt8 → Except Fault (List Char)
  | none, [] => .ok read.reverse
  | some p, [] => .error (p.fault position .ending)
  | none, byte :: rest =>
    if byte.toNat < 0x80 then
      decodeFrom (position + 1) (Char.ofNat byte.toNat :: read) none rest
    else match begin? position byte with
      | some p => decodeFrom (position + 1) read (some p) rest
      | none => .error ⟨position, position + 1, byte, .start⟩
  | some p, byte :: rest =>
    if p.low ≤ byte.toNat ∧ byte.toNat ≤ p.high then
      if p.owed = 1 then
        decodeFrom (position + 1) (Char.ofNat (p.push byte).code :: read) none rest
      else decodeFrom (position + 1) read (some (p.push byte)) rest
    else .error (p.fault position .continuation)

def decode (bytes : List UInt8) : Except Fault (List Char) :=
  decodeFrom 0 [] none bytes

end PocketLisp.Utf8
