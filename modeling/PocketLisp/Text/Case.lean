import PocketLisp.Text.Case.Lower
import PocketLisp.Text.Case.Upper
import PocketLisp.Text.Case.Context

set_option autoImplicit false

namespace PocketLisp.Text

def lowerChar (c : Char) : List Char :=
  if c.toNat < 128 then [c.toLower]
  else if c = 'İ' then ['i', '\u0307']
  else [mapRuns lowerRuns c]

def upperChar (c : Char) : List Char :=
  if c.toNat < 128 then [c.toUpper]
  else match upperExpansions.lookup c.toNat with
    | some codes => codes.map Char.ofNat
    | none => [mapRuns upperRuns c]

def startsCased (rest : List Char) : Bool :=
  match rest.dropWhile isCaseIgnorable with
  | [] => false
  | c :: _ => isCased c

-- A sigma is final after a cased letter and before none, ignorable characters apart.
def lowerSigma (afterCased : Bool) (rest : List Char) : Char :=
  if afterCased && !startsCased rest then 'ς' else 'σ'

-- `afterCased` says whether the last character before that is not ignorable was a cased letter.
def lowerFrom (afterCased : Bool) : List Char → List Char
  | [] => []
  | c :: rest =>
    (if c = 'Σ' then [lowerSigma afterCased rest] else lowerChar c) ++
      lowerFrom (if isCaseIgnorable c then afterCased else isCased c) rest

def lower (text : String) : String :=
  String.ofList (lowerFrom false text.toList)

def upper (text : String) : String :=
  String.ofList (text.toList.flatMap upperChar)

end PocketLisp.Text
