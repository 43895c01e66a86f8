import PocketLisp.Store

set_option autoImplicit false

namespace PocketLisp

def Symbol.Reserved (s : Symbol) : Prop :=
  s = ⟨"quote"⟩ ∨ s = ⟨"if"⟩ ∨ s = ⟨"defun"⟩

abbrev Outcome (α : Type) := Except LispError α

mutual

inductive Evaluates : Store → Scope → Value → List String → Outcome Value → Store → Prop
  | nil {store : Store} {scope : Scope} : Evaluates store scope .nil [] (.ok .nil) store
  | bool {store : Store} {scope : Scope} {b : Bool} :
      Evaluates store scope (.bool b) [] (.ok (.bool b)) store
  | number {store : Store} {scope : Scope} {x : Number} :
      Evaluates store scope (.number x) [] (.ok (.number x)) store
  | text {store : Store} {scope : Scope} {content : String} :
      Evaluates store scope (.text content) [] (.error (.uninterpretable (.text content))) store
  | procedure {store : Store} {scope : Scope} {v : Value} (procedure : v.isProcedure = true) :
      Evaluates store scope v [] (.error (.uninterpretable v)) store
  | symbol {store : Store} {scope : Scope} {s : Symbol} {v : Value}
      (bound : (store.environment scope).get? s = some v) (plain : v.isProcedure = false) :
      Evaluates store scope (.symbol s) [] (.ok v) store
  | callable {store : Store} {scope : Scope} {s : Symbol} {v : Value}
      (bound : (store.environment scope).get? s = some v) (procedure : v.isProcedure = true) :
      Evaluates store scope (.symbol s) [] (.error (.callableUsedAsValue s)) store
  | unbound {store : Store} {scope : Scope} {s : Symbol}
      (missing : (store.environment scope).get? s = none) :
      Evaluates store scope (.symbol s) [] (.error (.unboundSymbol s)) store
  | empty {store : Store} {scope : Scope} : Evaluates store scope (.list []) [] (.ok .nil) store
  | quote {store : Store} {scope : Scope} {datum : Value} :
      Evaluates store scope (.list [.symbol ⟨"quote"⟩, datum]) [] (.ok datum) store
  | quoteShape {store : Store} {scope : Scope} {parts : List Value} (shape : parts.length ≠ 1) :
      Evaluates store scope (.list (.symbol ⟨"quote"⟩ :: parts)) [] (.error .quoteShape) store
  | ifTrue {store middle after : Store} {scope : Scope} {condition yes v : Value}
      {rest : List Value} {lines more : List String} {outcome : Outcome Value}
      (shape : rest.length ≤ 1) (test : Evaluates store scope condition lines (.ok v) middle)
      (holds : v.isTrue = true) (branch : Evaluates middle scope yes more outcome after) :
      Evaluates store scope (.list (.symbol ⟨"if"⟩ :: condition :: yes :: rest)) (lines ++ more)
        outcome after
  | ifFalse {store middle after : Store} {scope : Scope} {condition yes no v : Value}
      {lines more : List String} {outcome : Outcome Value}
      (test : Evaluates store scope condition lines (.ok v) middle) (fails : v.isTrue = false)
      (branch : Evaluates middle scope no more outcome after) :
      Evaluates store scope (.list [.symbol ⟨"if"⟩, condition, yes, no]) (lines ++ more) outcome
        after
  | ifNil {store after : Store} {scope : Scope} {condition yes v : Value} {lines : List String}
      (test : Evaluates store scope condition lines (.ok v) after) (fails : v.isTrue = false) :
      Evaluates store scope (.list [.symbol ⟨"if"⟩, condition, yes]) lines (.ok .nil) after
  | ifError {store after : Store} {scope : Scope} {condition yes : Value} {rest : List Value}
      {lines : List String} {e : LispError} (shape : rest.length ≤ 1)
      (test : Evaluates store scope condition lines (.error e) after) :
      Evaluates store scope (.list (.symbol ⟨"if"⟩ :: condition :: yes :: rest)) lines (.error e)
        after
  | ifShape {store : Store} {scope : Scope} {parts : List Value}
      (shape : parts.length ≠ 2 ∧ parts.length ≠ 3) :
      Evaluates store scope (.list (.symbol ⟨"if"⟩ :: parts)) [] (.error .ifShape) store
  | defun {store : Store} {scope : Scope} {s : Symbol} {params : List Symbol}
      {body : List Value} :
      Evaluates store scope
        (.list (.symbol ⟨"defun"⟩ :: .symbol s :: .list (params.map .symbol) :: body)) []
        (.ok (.symbol s)) (store.define scope s (.function 0 s.name params body scope))
  | defunShape {store : Store} {scope : Scope} {parts : List Value} (shape : parts.length < 2) :
      Evaluates store scope (.list (.symbol ⟨"defun"⟩ :: parts)) [] (.error .defunShape) store
  | defunName {store : Store} {scope : Scope} {name params : Value} {body : List Value}
      (malformed : name.isSymbol = false) :
      Evaluates store scope (.list (.symbol ⟨"defun"⟩ :: name :: params :: body)) []
        (.error (.defunName name)) store
  | defunParams {store : Store} {scope : Scope} {s : Symbol} {params : Value} {body : List Value}
      (malformed : ∀ symbols : List Symbol, params ≠ .list (symbols.map .symbol)) :
      Evaluates store scope (.list (.symbol ⟨"defun"⟩ :: .symbol s :: params :: body)) []
        (.error (.defunParams s)) store
  | headError {store after : Store} {scope : Scope} {head : Value} {parts : List Value}
      {lines : List String} {e : LispError}
      (resolved : Resolves store scope head lines (.error e) after) :
      Evaluates store scope (.list (head :: parts)) lines (.error e) after
  | notAFunction {store after : Store} {scope : Scope} {head v : Value} {parts : List Value}
      {lines : List String} (resolved : Resolves store scope head lines (.ok v) after)
      (plain : v.isProcedure = false) :
      Evaluates store scope (.list (head :: parts)) lines (.error (.notAFunction head)) after
  | argsError {store middle after : Store} {scope : Scope} {head procedure : Value}
      {parts : List Value} {lines more : List String} {e : LispError}
      (resolved : Resolves store scope head lines (.ok procedure) middle)
      (applicable : procedure.isProcedure = true)
      (args : EvaluatesArgs middle scope parts more (.error e) after) :
      Evaluates store scope (.list (head :: parts)) (lines ++ more) (.error e) after
  | call {store middle before after : Store} {scope : Scope} {head procedure : Value}
      {parts vs : List Value} {lines more last : List String} {outcome : Outcome Value}
      (resolved : Resolves store scope head lines (.ok procedure) middle)
      (applicable : procedure.isProcedure = true)
      (args : EvaluatesArgs middle scope parts more (.ok vs) before)
      (applied : Applies before procedure vs last outcome after) :
      Evaluates store scope (.list (head :: parts)) (lines ++ more ++ last) outcome after

inductive Resolves : Store → Scope → Value → List String → Outcome Value → Store → Prop
  | bound {store : Store} {scope : Scope} {s : Symbol} {v : Value} (free : ¬ s.Reserved)
      (bound : (store.environment scope).get? s = some v) :
      Resolves store scope (.symbol s) [] (.ok v) store
  | undefined {store : Store} {scope : Scope} {s : Symbol} (free : ¬ s.Reserved)
      (missing : (store.environment scope).get? s = none) :
      Resolves store scope (.symbol s) [] (.error (.undefinedFunction s)) store
  | computed {store after : Store} {scope : Scope} {head : Value} {lines : List String}
      {outcome : Outcome Value} (computed : head.isSymbol = false)
      (evaluated : Evaluates store scope head lines outcome after) :
      Resolves store scope head lines outcome after

inductive EvaluatesArgs :
    Store → Scope → List Value → List String → Outcome (List Value) → Store → Prop
  | nil {store : Store} {scope : Scope} : EvaluatesArgs store scope [] [] (.ok []) store
  | cons {store middle after : Store} {scope : Scope} {arg v : Value} {args vs : List Value}
      {lines more : List String} (first : Evaluates store scope arg lines (.ok v) middle)
      (rest : EvaluatesArgs middle scope args more (.ok vs) after) :
      EvaluatesArgs store scope (arg :: args) (lines ++ more) (.ok (v :: vs)) after
  | firstError {store after : Store} {scope : Scope} {arg : Value} {args : List Value}
      {lines : List String} {e : LispError}
      (first : Evaluates store scope arg lines (.error e) after) :
      EvaluatesArgs store scope (arg :: args) lines (.error e) after
  | restError {store middle after : Store} {scope : Scope} {arg v : Value} {args : List Value}
      {lines more : List String} {e : LispError}
      (first : Evaluates store scope arg lines (.ok v) middle)
      (rest : EvaluatesArgs middle scope args more (.error e) after) :
      EvaluatesArgs store scope (arg :: args) (lines ++ more) (.error e) after

inductive EvaluatesBody :
    Store → Scope → Value → List Value → List String → Outcome Value → Store → Prop
  | nil {store : Store} {scope : Scope} {last : Value} :
      EvaluatesBody store scope last [] [] (.ok last) store
  | cons {store middle after : Store} {scope : Scope} {last form v : Value} {forms : List Value}
      {lines more : List String} {outcome : Outcome Value}
      (first : Evaluates store scope form lines (.ok v) middle)
      (rest : EvaluatesBody middle scope v forms more outcome after) :
      EvaluatesBody store scope last (form :: forms) (lines ++ more) outcome after
  | error {store after : Store} {scope : Scope} {last form : Value} {forms : List Value}
      {lines : List String} {e : LispError}
      (first : Evaluates store scope form lines (.error e) after) :
      EvaluatesBody store scope last (form :: forms) lines (.error e) after

/-- A function's body runs in a copy of its home, made when it is called. -/
inductive Applies : Store → Value → List Value → List String → Outcome Value → Store → Prop
  | primitive {store : Store} {p : Primitive} {args : List Value} {v : Value}
      (called : p.call store.nextMark args = .ok v) :
      Applies store (.primitive p) args (p.printed args) (.ok v) (store.record (p.printed args))
  | primitiveError {store : Store} {p : Primitive} {args : List Value} {e : LispError}
      (called : p.call store.nextMark args = .error e) :
      Applies store (.primitive p) args [] (.error e) store
  | function {store after : Store} {tag : Nat} {name : String} {params : List Symbol}
      {body args : List Value} {home : Scope} {lines : List String} {outcome : Outcome Value}
      (ran : EvaluatesBody (store.enter ((store.environment home).bindParams params args)).2
        store.scopes.size .nil body lines outcome after) :
      Applies store (.function tag name params body home) args lines outcome after

end

def Store.Prints (store : Store) (lines : List String) (after : Store) : Prop :=
  after.printed.toList = store.printed.toList ++ lines

namespace Store.Prints

theorem nothing (store : Store) : store.Prints [] store :=
  (List.append_nil _).symm

theorem trans {store middle after : Store} {lines more : List String}
    (first : store.Prints lines middle) (rest : middle.Prints more after) :
    store.Prints (lines ++ more) after := by
  unfold Prints at *
  rw [rest, first, List.append_assoc]

theorem record (store : Store) (lines : List String) : store.Prints lines (store.record lines) := by
  simp [Prints, Store.record]

end Store.Prints

-- What a judgement lists is what it adds to the printed lines. The recursion is on derivations.
mutual

theorem Evaluates.prints {store after : Store} {scope : Scope} {expr : Value}
    {lines : List String} {outcome : Outcome Value}
    (derived : Evaluates store scope expr lines outcome after) : store.Prints lines after := by
  match derived with
  | .ifTrue _ test _ branch => exact test.prints.trans branch.prints
  | .ifFalse test _ branch => exact test.prints.trans branch.prints
  | .ifNil test _ => exact test.prints
  | .ifError _ test => exact test.prints
  | .headError resolved => exact resolved.prints
  | .notAFunction resolved _ => exact resolved.prints
  | .argsError resolved _ args => exact resolved.prints.trans args.prints
  | .call resolved _ args applied =>
    exact (resolved.prints.trans args.prints).trans applied.prints
  | .defun => exact .nothing store
  | .nil | .bool | .number | .text | .procedure _ | .symbol _ _ | .callable _ _ | .unbound _
  | .empty | .quote | .quoteShape _ | .ifShape _ | .defunShape _ | .defunName _
  | .defunParams _ => exact .nothing store

theorem Resolves.prints {store after : Store} {scope : Scope} {head : Value}
    {lines : List String} {outcome : Outcome Value}
    (derived : Resolves store scope head lines outcome after) : store.Prints lines after := by
  match derived with
  | .bound _ _ | .undefined _ _ => exact .nothing store
  | .computed _ evaluated => exact evaluated.prints

theorem EvaluatesArgs.prints {store after : Store} {scope : Scope} {args : List Value}
    {lines : List String} {outcome : Outcome (List Value)}
    (derived : EvaluatesArgs store scope args lines outcome after) : store.Prints lines after := by
  match derived with
  | .nil => exact .nothing store
  | .cons first rest => exact first.prints.trans rest.prints
  | .firstError first => exact first.prints
  | .restError first rest => exact first.prints.trans rest.prints

theorem EvaluatesBody.prints {store after : Store} {scope : Scope} {last : Value}
    {body : List Value} {lines : List String} {outcome : Outcome Value}
    (derived : EvaluatesBody store scope last body lines outcome after) :
    store.Prints lines after := by
  match derived with
  | .nil => exact .nothing store
  | .cons first rest => exact first.prints.trans rest.prints
  | .error first => exact first.prints

theorem Applies.prints {store after : Store} {procedure : Value} {args : List Value}
    {lines : List String} {outcome : Outcome Value}
    (derived : Applies store procedure args lines outcome after) : store.Prints lines after := by
  match derived with
  | .primitive _ => exact .record store _
  | .primitiveError _ => exact .nothing store
  | .function ran => exact ran.prints

end

end PocketLisp
