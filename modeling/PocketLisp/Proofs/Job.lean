import Mathlib.Logic.Relation
import PocketLisp.Proofs.Run
import PocketLisp.Eval

set_option autoImplicit false

namespace PocketLisp

inductive Job where
  | eval (budget : Nat) (scope : Scope) (expr : Value) (store : Store)
  | apply (budget : Nat) (procedure : Value) (args : List Value) (store : Store)

namespace Job

def run : Job → Except Fault Value × Store
  | eval budget scope expr store => (PocketLisp.eval budget scope expr).run store
  | apply budget procedure args store =>
    (Eval.apply budget (PocketLisp.eval budget) procedure args).run store

open Eval in
/-- The jobs that a job performs itself, each with the store that the earlier ones left. -/
inductive Spawns : Job → Job → Prop
  | condition {budget : Nat} {scope : Scope} {store : Store} {head condition yes : Value}
      {rest : List Value} (conditional : specialForm? head = some .conditional)
      (shape : rest.length ≤ 1) :
      Spawns (eval (budget + 1) scope (.list (head :: condition :: yes :: rest)) store)
        (eval budget scope condition store)
  | yes {budget : Nat} {scope : Scope} {store after : Store} {head condition yes v : Value}
      {rest : List Value} (conditional : specialForm? head = some .conditional)
      (shape : rest.length ≤ 1)
      (ran : (PocketLisp.eval budget scope condition).run store = (.ok v, after))
      (holds : v.isTrue = true) :
      Spawns (eval (budget + 1) scope (.list (head :: condition :: yes :: rest)) store)
        (eval budget scope yes after)
  | no {budget : Nat} {scope : Scope} {store after : Store} {head condition yes no v : Value}
      (conditional : specialForm? head = some .conditional)
      (ran : (PocketLisp.eval budget scope condition).run store = (.ok v, after))
      (fails : v.isTrue = false) :
      Spawns (eval (budget + 1) scope (.list [head, condition, yes, no]) store)
        (eval budget scope no after)
  -- A head that is a symbol is looked up and not evaluated.
  | head {budget : Nat} {scope : Scope} {store : Store} {head : Value} {parts : List Value}
      (computed : head.isSymbol = false) :
      Spawns (eval (budget + 1) scope (.list (head :: parts)) store) (eval budget scope head store)
  | argument {budget : Nat} {scope : Scope} {store resolved before : Store}
      {head procedure arg : Value} {earlier later vs : List Value} (call : specialForm? head = none)
      (ran : (evalHead (PocketLisp.eval budget) scope head).run store = (.ok procedure, resolved))
      (applicable : procedure.isProcedure = true)
      (evaluated :
        (evalArgs (PocketLisp.eval budget) scope earlier).run resolved = (.ok vs, before)) :
      Spawns (eval (budget + 1) scope (.list (head :: (earlier ++ arg :: later))) store)
        (eval budget scope arg before)
  | application {budget : Nat} {scope : Scope} {store resolved before : Store}
      {head procedure : Value} {parts args : List Value} (call : specialForm? head = none)
      (ran : (evalHead (PocketLisp.eval budget) scope head).run store = (.ok procedure, resolved))
      (applicable : procedure.isProcedure = true)
      (evaluated :
        (evalArgs (PocketLisp.eval budget) scope parts).run resolved = (.ok args, before)) :
      Spawns (eval (budget + 1) scope (.list (head :: parts)) store)
        (apply budget procedure args before)
  | form {budget tag : Nat} {name : String} {params : List Symbol} {home : Scope}
      {store before : Store} {form v : Value} {earlier later args : List Value}
      (evaluated : (evalBody (PocketLisp.eval budget) store.scopes.size .nil earlier).run
        (store.enter ((store.environment home).bindParams params args)).2 = (.ok v, before)) :
      Spawns (apply budget (.function tag name params (earlier ++ form :: later) home) args store)
        (eval budget store.scopes.size form before)

def Includes : Job → Job → Prop :=
  Relation.ReflTransGen Spawns

end Job

end PocketLisp
