import PocketLisp.Environment
import PocketLisp.Value.Shared

set_option autoImplicit false

namespace PocketLisp.Primitive

abbrev Result := Except LispError Value

def expectOne (p : Primitive) (args : List Value) (f : Value → Result) : Result :=
  match args with
  | [a] => f a
  | _ => .error (.arity p 1 args.length)

def expectTwo (p : Primitive) (args : List Value) (f : Value → Value → Result) : Result :=
  match args with
  | [a, b] => f a b
  | _ => .error (.arity p 2 args.length)

def expectSome (p : Primitive) (args : List Value) (f : Value → List Value → Result) : Result :=
  match args with
  | first :: rest => f first rest
  | [] => .error (.noArguments p)

def expectNumber (p : Primitive) : Value → Except LispError Number
  | .number x => .ok x
  | v => .error (.notANumber p v)

def expectNumbers (p : Primitive) : List Value → Except LispError (List Number)
  | [] => .ok []
  | v :: rest => return (← expectNumber p v) :: (← expectNumbers p rest)

def expectList (p : Primitive) : Value → Except LispError (List Value)
  | .list items => .ok items
  | v => .error (.notAList p v)

def difference (mark : Nat) (x : Number) : List Number → Number
  | [] => x.neg mark
  | ys => ys.foldl (Number.sub mark) x

def quotient (mark : Nat) (x : Number) : List Number → Result
  | [] => .ok (.number x)
  | y :: rest => if y.isZero then .error .divisionByZero else quotient mark (x.div mark y) rest

def compare (p : Primitive) (relation : Number → Number → Bool) (args : List Value) : Result :=
  expectTwo p args fun a b => do
    let x ← expectNumber p a
    let y ← expectNumber p b
    return .bool (relation x y)

def concat (p : Primitive) : List Value → Except LispError (List Value)
  | [] => .ok []
  | v :: rest => return (← expectList p v) ++ (← concat p rest)

def isNull : Value → Bool
  | .nil => true
  | .list items => items.isEmpty
  | _ => false

-- The value of a call. A number that the call computes and that is not a number gets `mark`.
def call (p : Primitive) (mark : Nat) (args : List Value) : Result :=
  match p with
  | add => do
    let xs ← expectNumbers p args
    return .number (xs.foldl (Number.add mark) .zero)
  | sub => expectSome p args fun first rest => do
    let x ← expectNumber p first
    let ys ← expectNumbers p rest
    return .number (difference mark x ys)
  | mul => do
    let xs ← expectNumbers p args
    return .number (xs.foldl (Number.mul mark) .one)
  | div => expectSome p args fun first rest => do
    let x ← expectNumber p first
    let ys ← expectNumbers p rest
    quotient mark x ys
  | equal => expectTwo p args fun a b => return .bool (a.equal b)
  | less => compare p Number.less args
  | greater => compare p (fun x y => y.less x) args
  | atMost => compare p Number.atMost args
  | atLeast => compare p (fun x y => y.atMost x) args
  | list => return .list args
  | cons => expectTwo p args fun head tail =>
    match tail with
    | .list items => return .list (head :: items)
    | _ => return .list [head, tail]
  | car => expectOne p args fun v => do
    match ← expectList p v with
    | head :: _ => return head
    | [] => .error .emptyList
  | cdr => expectOne p args fun v => return .list (← expectList p v).tail
  | length => expectOne p args fun v =>
    match v with
    | .list items => return .number (.ofNat items.length)
    | _ => return .number .zero
  | append => return .list (← concat p args)
  | atom => expectOne p args fun v => return .bool !v.isList
  | null => expectOne p args fun v => return .bool (isNull v)
  | numberp => expectOne p args fun v => return .bool v.isNumber
  | symbolp => expectOne p args fun v => return .bool v.isSymbol
  | and => return .bool (args.all Value.isTrue)
  | or => return .bool (args.any Value.isTrue)
  | not => expectOne p args fun v => return .bool !v.isTrue
  | print => return .nil

-- Only `print` goes into what its arguments hold.
def reach (p : Primitive) (args : List Value) : Nat :=
  if p = print then Value.depthAll args else 0

def printed (p : Primitive) (args : List Value) : List String :=
  if p = print then [" ".intercalate (Value.printAll args)] else []

end PocketLisp.Primitive
