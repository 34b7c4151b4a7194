import Cohort.Rule.Token
import Cohort.Value

/-! # What can go wrong with a rule

A rule may be malformed, which shows when it is read, or fail when it is evaluated. Every error
carries the whole text of the rule, so its message can be understood away from the test. -/

namespace Cohort.Rule

/-- Why a text is no rule. -/
inductive Malformed where
  /-- Not one expression between the delimiters. -/
  | undelimited
  | badNumber (text : String)
  | openString
  | lambda
  | concatenation
  | assignment
  | sequence
  | braceLiteral
  | unexpectedCharacter (c : Char)
  | tooDeep
  | expected (wanted : Token) (found : Option Token)
  | expectedProperty
  | expectedSeparator
  | listLiteral
  | unexpected (found : Token)
  | unexpectedEnd
deriving Repr, DecidableEq

/-- The message of a malformed rule. -/
def Malformed.message : Malformed → String
  | .undelimited => "rule must be a single $\x7b...\x7d expression"
  | .badNumber text => "invalid number '" ++ text ++ "'"
  | .openString => "unterminated string literal"
  | .lambda => "lambda expressions are not allowed"
  | .concatenation => "string concatenation is not allowed"
  | .assignment => "assignment is not allowed"
  | .sequence => "multiple expressions are not allowed"
  | .braceLiteral => "set and map literals are not allowed"
  | .unexpectedCharacter c => "unexpected character '" ++ String.singleton c ++ "'"
  | .tooDeep => "rule nests too deeply"
  | .expected wanted (some found) =>
      "expected " ++ wanted.diagnostic ++ ", found " ++ found.diagnostic
  | .expected wanted none => "expected " ++ wanted.diagnostic ++ ", found end of rule"
  | .expectedProperty => "expected property name after '.'"
  | .expectedSeparator => "expected ',' or ')' in argument list"
  | .listLiteral => "list literals are not allowed"
  | .unexpected found => "unexpected " ++ found.diagnostic
  | .unexpectedEnd => "unexpected end of rule"

/-- Why a function refuses its arguments. -/
inductive FunctionFault where
  | arity (function : String) (expected got : Nat)
  | notInteger (function : String) (text : String)
  | expectedInteger (function : String) (got : Kind)
  | expectedNumber (function : String) (got : Kind)
  | expectedList (function : String) (got : Kind)
  | expectedCollection (function : String) (got : Kind)
  | noLength (function : String) (got : Kind)
  /-- The library of patterns refuses the pattern, with a message of its own. -/
  | invalidPattern (function pattern detail : String)
  /-- A function of the host refuses with a message of its own. -/
  | refused (message : String)
deriving Repr, DecidableEq

/-- The message of a refusal. -/
def FunctionFault.message : FunctionFault → String
  | .arity f expected got =>
      f ++ " expects " ++ toString expected ++ " argument(s), got " ++ toString got
  | .notInteger f text => f ++ ": '" ++ text ++ "' is not an integer"
  | .expectedInteger f got => f ++ ": expected integer, got " ++ got.name
  | .expectedNumber f got => f ++ ": expected number, got " ++ got.name
  | .expectedList f got => f ++ ": expected list, got " ++ got.name
  | .expectedCollection f got => f ++ ": expected collection, got " ++ got.name
  | .noLength f got => f ++ ": unsupported " ++ got.name
  | .invalidPattern f pattern detail => f ++ ": invalid pattern '" ++ pattern ++ "': " ++ detail
  | .refused message => message

/-- Why an operation has no result on its operands. -/
inductive Fault where
  | noNumber (shown : String)
  | noBoolean (got : Kind)
  | incomparable (left right : Kind)
  | unordered (left right : Kind)
  | divisionByZero
  | overflow
  | noProperty (name : String) (got : Kind)
  | noIndex (got : Kind)
  | badListIndex (shown : String)
  | function (f : FunctionFault)
deriving Repr, DecidableEq

/-- The message of a fault. -/
def Fault.message : Fault → String
  | .noNumber shown => "cannot coerce '" ++ shown ++ "' to a number"
  | .noBoolean got => "cannot coerce " ++ got.name ++ " to boolean"
  | .incomparable left right => "cannot compare " ++ left.name ++ " with " ++ right.name
  | .unordered left right => "cannot order " ++ left.name ++ " and " ++ right.name
  | .divisionByZero => "division by zero"
  | .overflow => "integer overflow"
  | .noProperty name got => "cannot read property '" ++ name ++ "' of " ++ got.name
  | .noIndex got => "cannot index into " ++ got.name
  | .badListIndex shown => "invalid list index '" ++ shown ++ "'"
  | .function f => f.message

/-- Why an expression has no value. -/
inductive EvalError where
  | undefinedVariable (name : String)
  | unknownFunction (name : String)
  | fault (f : Fault)
  /-- The value of the whole rule is no boolean. -/
  | nonBoolean (got : Kind)
deriving Repr, DecidableEq

/-- Why a rule has no answer. -/
inductive Cause where
  | malformed (m : Malformed)
  | evaluation (e : EvalError)
deriving Repr, DecidableEq

/-- An error of a rule, with the text of the rule. -/
structure Error where
  rule : String
  cause : Cause
deriving Repr, DecidableEq

/-- The message of a rule error. -/
def Error.message (e : Error) : String :=
  match e.cause with
  | .malformed m => "Invalid rule '" ++ e.rule ++ "': " ++ m.message
  | .evaluation (.undefinedVariable name) =>
      "Rule '" ++ e.rule ++ "' references undefined variable '" ++ name ++ "'"
  | .evaluation (.unknownFunction name) =>
      "Rule '" ++ e.rule ++ "' calls unknown function '" ++ name ++ "'"
  | .evaluation (.fault f) => "Error evaluating rule '" ++ e.rule ++ "': " ++ f.message
  | .evaluation (.nonBoolean got) =>
      "Rule '" ++ e.rule ++ "' evaluated to " ++ got.name ++ ", expected boolean"

end Cohort.Rule
