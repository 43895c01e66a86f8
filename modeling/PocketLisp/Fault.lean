import PocketLisp.Value.Inspect

set_option autoImplicit false

namespace PocketLisp

inductive ErrorKind where
  | any
  | unreadable | unmatchedParenthesis | unexpectedParenthesis | danglingQuote
  | evaluation | unboundSymbol | callableUsedAsValue | notAFunction | uninterpretable
  | malformedForm | arity | wrongType | divisionByZero | emptyList
deriving DecidableEq, Repr

inductive FaultClass where
  | badText | zeroDivision | outOfRange
deriving DecidableEq, Repr

namespace ErrorKind

def all : List ErrorKind :=
  [any, unreadable, unmatchedParenthesis, unexpectedParenthesis, danglingQuote, evaluation,
   unboundSymbol, callableUsedAsValue, notAFunction, uninterpretable, malformedForm, arity,
   wrongType, divisionByZero, emptyList]

def name : ErrorKind → String
  | any => "LispError"
  | unreadable => "LispSyntaxError"
  | unmatchedParenthesis => "UnmatchedParenthesis"
  | unexpectedParenthesis => "UnexpectedParenthesis"
  | danglingQuote => "DanglingQuote"
  | evaluation => "LispEvalError"
  | unboundSymbol => "UnboundSymbol"
  | callableUsedAsValue => "CallableUsedAsValue"
  | notAFunction => "NotAFunction"
  | uninterpretable => "Uninterpretable"
  | malformedForm => "MalformedForm"
  | arity => "ArityError"
  | wrongType => "LispTypeError"
  | divisionByZero => "DivisionByZero"
  | emptyList => "EmptyListError"

def ofName? (name : String) : Option ErrorKind :=
  all.find? (·.name == name)

def lineage (kind : ErrorKind) : List ErrorKind :=
  match kind with
  | any => [any]
  | unreadable => [unreadable, any]
  | evaluation => [evaluation, any]
  | unmatchedParenthesis | unexpectedParenthesis | danglingQuote => [kind, unreadable, any]
  | _ => [kind, evaluation, any]

def faultClass? (kind : ErrorKind) : Option FaultClass :=
  if unreadable ∈ kind.lineage then some .badText
  else if kind = divisionByZero then some .zeroDivision
  else if kind = emptyList then some .outOfRange
  else none

end ErrorKind

inductive LispError where
  | unexpectedEnd
  | unmatchedParenthesis
  | unexpectedParenthesis
  | danglingQuote
  | unboundSymbol (s : Symbol)
  | unboundName (v : Value)
  | callableUsedAsValue (s : Symbol)
  | undefinedFunction (s : Symbol)
  | notAFunction (v : Value)
  | inapplicable (v : Value)
  | uninterpretable (v : Value)
  | quoteShape
  | ifShape
  | defunShape
  | defunName (v : Value)
  | defunParams (s : Symbol)
  | arity (p : Primitive) (expected got : Nat)
  | noArguments (p : Primitive)
  | notANumber (p : Primitive) (v : Value)
  | notAList (p : Primitive) (v : Value)
  | cannotBind (v : Value)
  | divisionByZero
  | emptyList

namespace LispError

def kind : LispError → ErrorKind
  | unexpectedEnd => .unreadable
  | unmatchedParenthesis => .unmatchedParenthesis
  | unexpectedParenthesis => .unexpectedParenthesis
  | danglingQuote => .danglingQuote
  | unboundSymbol _ => .unboundSymbol
  | unboundName _ => .unboundSymbol
  | callableUsedAsValue _ => .callableUsedAsValue
  | undefinedFunction _ => .notAFunction
  | notAFunction _ => .notAFunction
  | inapplicable _ => .notAFunction
  | uninterpretable _ => .uninterpretable
  | quoteShape => .malformedForm
  | ifShape => .malformedForm
  | defunShape => .malformedForm
  | defunName _ => .malformedForm
  | defunParams _ => .malformedForm
  | arity _ _ _ => .arity
  | noArguments _ => .arity
  | notANumber _ _ => .wrongType
  | notAList _ _ => .wrongType
  | cannotBind _ => .wrongType
  | divisionByZero => .divisionByZero
  | emptyList => .emptyList

def countOf (n : Nat) : String :=
  toString n ++ (if n = 1 then " argument" else " arguments")

def message : LispError → String
  | unexpectedEnd => "Unexpected end of input"
  | unmatchedParenthesis => "Unmatched opening parenthesis"
  | unexpectedParenthesis => "Unexpected closing parenthesis"
  | danglingQuote => "Quote with no following expression"
  | unboundSymbol s => "Undefined symbol: " ++ s.name
  | unboundName v => "Undefined symbol: " ++ v.display
  | callableUsedAsValue s =>
    "Cannot use function " ++ s.name ++ " as a value (missing parentheses?)"
  | undefinedFunction s => "Undefined function: " ++ s.name
  | notAFunction v => "Not a function: " ++ v.print
  | inapplicable v => "Not a function: " ++ v.print
  | uninterpretable v => "Cannot evaluate: " ++ v.inspect
  | quoteShape => "quote requires exactly 1 argument"
  | ifShape => "if requires a condition, a then-expression and an optional else-expression"
  | defunShape => "defun requires a name and a parameter list"
  | defunName v => "defun name must be a symbol, got " ++ v.inspect
  | defunParams s => "defun " ++ s.name ++ " parameter list must be a list of symbols"
  | arity p expected got =>
    p.name ++ " requires exactly " ++ countOf expected ++ ", got " ++ toString got
  | noArguments p => p.name ++ " requires at least 1 argument"
  | notANumber p v => "All arguments to " ++ p.name ++ " must be numbers, got " ++ v.print
  | notAList p v => p.name ++ " expects a list, got " ++ v.print
  | cannotBind v => "Cannot bind " ++ v.inspect ++ ": not a symbol"
  | divisionByZero => "Division by zero"
  | emptyList => "car of an empty list"

end LispError

/-- Reading and running stop at an error of the program or when they nest too deep. -/
inductive Fault where
  | error (e : LispError)
  | tooDeep

end PocketLisp
