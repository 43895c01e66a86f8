import PocketLisp.Text.Range

set_option autoImplicit false

namespace PocketLisp.Text

def blankRanges : List (Nat × Nat) :=
  [(0x9, 0xD), (0x1C, 0x20), (0x85, 0x85), (0xA0, 0xA0), (0x1680, 0x1680), (0x2000, 0x200A),
   (0x2028, 0x2029), (0x202F, 0x202F), (0x205F, 0x205F), (0x3000, 0x3000)]

def isBlank (c : Char) : Bool :=
  inRanges blankRanges c

def isAsciiBlank (code : Nat) : Bool :=
  (9 ≤ code && code ≤ 13) || code == 32

def trimBoth {α : Type} (p : α → Bool) (items : List α) : List α :=
  ((items.dropWhile p).reverse.dropWhile p).reverse

def strip (text : String) : String :=
  String.ofList (trimBoth isBlank text.toList)

end PocketLisp.Text
