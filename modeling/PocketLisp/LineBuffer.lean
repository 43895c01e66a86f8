set_option autoImplicit false

namespace PocketLisp

inductive Line where
  | whole (bytes : List UInt8)
  | overlong
deriving DecidableEq, Repr

structure LineBuffer where
  limit : Int
  pending : List UInt8
  -- The current line was reported overlong and its end is still to come.
  discarding : Bool
deriving DecidableEq, Repr

namespace LineBuffer

def defaultLimit : Int := 1048576

def empty (limit : Int) : LineBuffer :=
  ⟨limit, [], false⟩

def newline : UInt8 := 10

def cutFrom (read : List UInt8) : List UInt8 → List (List UInt8) × List UInt8
  | [] => ([], read.reverse)
  | b :: rest =>
    if b = newline then
      let (lines, tail) := cutFrom [] rest
      (read.reverse :: lines, tail)
    else cutFrom (b :: read) rest

def cut (bytes : List UInt8) : List (List UInt8) × List UInt8 :=
  cutFrom [] bytes

def report (limit : Int) (line : List UInt8) : Line :=
  if line.length ≤ limit then .whole line else .overlong

-- While discarding, the first line is the end of one reported before.
def reports (limit : Int) (discarding : Bool) (lines : List (List UInt8)) : List Line :=
  (if discarding then lines.tail else lines).map (report limit)

def feed (buffer : LineBuffer) (chunk : List UInt8) : List Line × LineBuffer :=
  let (lines, tail) := cut (buffer.pending ++ chunk)
  let discarding := buffer.discarding && lines.isEmpty
  let reported := reports buffer.limit buffer.discarding lines
  if tail.length ≤ buffer.limit then (reported, ⟨buffer.limit, tail, discarding⟩)
  else (reported ++ (if discarding then [] else [.overlong]), ⟨buffer.limit, [], true⟩)

end LineBuffer

end PocketLisp
