import PocketLisp.Store

set_option autoImplicit false

namespace PocketLisp

inductive SpecialForm where
  | quote | conditional | definition
deriving DecidableEq, Repr

def SpecialForm.ofSymbol? (s : Symbol) : Option SpecialForm :=
  if s.name = "quote" then some quote
  else if s.name = "if" then some conditional
  else if s.name = "defun" then some definition
  else none

namespace Eval

abbrev Evaluator := Scope → Value → Run Value

def reference (scope : Scope) (s : Symbol) : Run Value := do
  let v ← orFail (((← get).environment scope).lookup s)
  if v.isProcedure then fail (.callableUsedAsValue s) else return v

def paramSymbols? : List Value → Option (List Symbol)
  | [] => some []
  | .symbol s :: rest => (paramSymbols? rest).map (s :: ·)
  | _ :: _ => none

def params? : Value → Option (List Symbol)
  | .list items => paramSymbols? items
  | _ => none

def define (scope : Scope) : List Value → Run Value
  | .symbol s :: params :: body =>
    match params? params with
    | some params => do
      modify (·.define scope s (.function 0 s.name params body scope))
      return .symbol s
    | none => fail (.defunParams s)
  | name :: _ :: _ => fail (.defunName name)
  | _ => fail .defunShape

def special (eval : Evaluator) (scope : Scope) (parts : List Value) : SpecialForm → Run Value
  | .quote =>
    match parts with
    | [datum] => return datum
    | _ => fail .quoteShape
  | .conditional =>
    match parts with
    | [condition, yes] => do
      if (← eval scope condition).isTrue then eval scope yes else return .nil
    | [condition, yes, no] => do
      if (← eval scope condition).isTrue then eval scope yes else eval scope no
    | _ => fail .ifShape
  | .definition => define scope parts

def evalBody (eval : Evaluator) (scope : Scope) (last : Value) : List Value → Run Value
  | [] => return last
  | form :: rest => do
    let v ← eval scope form
    evalBody eval scope v rest

def evalArgs (eval : Evaluator) (scope : Scope) : List Value → Run (List Value)
  | [] => return []
  | arg :: rest => do
    let v ← eval scope arg
    let vs ← evalArgs eval scope rest
    return v :: vs

def callPrimitive (p : Primitive) (args : List Value) : Run Value := do
  let v ← orFail (p.call (← get).nextMark args)
  modify (·.record (p.printed args))
  return v

-- Runs a body in a copy of the environment of `home` with the parameters bound.
def callFunction (eval : Evaluator) (params : List Symbol) (body : List Value) (home : Scope)
    (args : List Value) : Run Value := do
  let store ← get
  let (scope, store) := store.enter ((store.environment home).bindParams params args)
  set store
  evalBody eval scope .nil body

-- What a primitive prints may nest no deeper than the room that is left.
def apply (room : Nat) (eval : Evaluator) (procedure : Value) (args : List Value) : Run Value :=
  match procedure with
  | .primitive p => if p.reach args ≤ room then callPrimitive p args else throw .tooDeep
  | .function _ _ params body home => callFunction eval params body home args
  | _ => fail (.inapplicable procedure)

def evalHead (eval : Evaluator) (scope : Scope) : Value → Run Value
  | .symbol s => do
    match ((← get).environment scope).get? s with
    | some v => return v
    | none => fail (.undefinedFunction s)
  | head => eval scope head

-- The head is resolved before any argument is evaluated.
def evalCall (room : Nat) (eval : Evaluator) (scope : Scope) (head : Value)
    (parts : List Value) : Run Value := do
  let procedure ← evalHead eval scope head
  if procedure.isProcedure then
    let args ← evalArgs eval scope parts
    apply room eval procedure args
  else fail (.notAFunction head)

def specialForm? : Value → Option SpecialForm
  | .symbol s => SpecialForm.ofSymbol? s
  | _ => none

def evalForm (room : Nat) (eval : Evaluator) (scope : Scope) (head : Value)
    (parts : List Value) : Run Value :=
  match specialForm? head with
  | some form => special eval scope parts form
  | none => evalCall room eval scope head parts

def step (room : Nat) (eval : Evaluator) (scope : Scope) (expr : Value) : Run Value :=
  match expr with
  | .nil | .bool _ | .number _ => return expr
  | .symbol s => reference scope s
  | .list [] => return .nil
  | .list (head :: parts) => evalForm room eval scope head parts
  | .text _ | .primitive _ | .function .. => fail (.uninterpretable expr)

end Eval

def eval : (budget : Nat) → Eval.Evaluator
  | 0 => fun _ _ => throw .tooDeep
  | budget + 1 => Eval.step budget (eval budget)

end PocketLisp
