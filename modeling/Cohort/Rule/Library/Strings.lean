import Cohort.Rule.Library
import Cohort.Rule.Operation
import Cohort.Text.Case
import Cohort.Text.Ranges

/-! # String functions

The functions named `fn:…`. All of them take any value as a string, and positions and lengths count
characters. -/

namespace Cohort.Rule.Strings

/-- Null reads as the empty string, and any other value as it is shown. -/
def text : Value → String
  | .null => ""
  | v => v.display

/-- The characters of a value read as a string. -/
def chars (v : Value) : List Char :=
  (text v).toList

/-- The string of the characters. -/
def ofChars (cs : List Char) : Value :=
  .string (String.ofList cs)

/-- A count as a value. -/
def ofCount (n : Nat) : Value :=
  .int (Int64.ofNat n)

/-! ## Searching -/

/-- The second text occurs in the first. -/
def isInfix (x s : List Char) : Bool :=
  (Text.splitFirst? x s).isSome

/-- The number of characters before the first occurrence, `-1` when there is none. -/
def indexOf (s x : List Char) : Value :=
  match Text.splitFirst? x s with
  | some (before, _) => ofCount before.length
  | none => .int (-1)

/-- What precedes the first occurrence; nothing when there is none. -/
def before (s x : List Char) : List Char :=
  match Text.splitFirst? x s with
  | some (b, _) => b
  | none => []

/-- What follows the first occurrence; nothing when there is none. -/
def after (s x : List Char) : List Char :=
  match Text.splitFirst? x s with
  | some (_, a) => a
  | none => []

/-- Every occurrence replaced, from the left; each one takes a character at least, so there are not
more of them than `room`, the length of the text. -/
def replaceWithin (x by_ : List Char) : Nat → List Char → List Char
  | 0, s => s
  | room + 1, s => match Text.splitFirst? x s with
    | some (b, a) => b ++ by_ ++ replaceWithin x by_ room a
    | none => s

/-- Every occurrence replaced; the empty text has no occurrences. -/
def replace (s x by_ : List Char) : List Char :=
  if x.isEmpty then s else replaceWithin x by_ s.length s

/-! ## Parts -/

/-- A whole number as an argument. Floats are cut off toward zero. -/
def integer (function : String) : Value → Except FunctionFault Int64
  | .int n => .ok n
  | .float x => .ok x.toInt64
  | .string s => match Decimal.int64? (Text.trimChars s.toList) with
    | some n => .ok n
    | none => .error (.notInteger function s)
  | v => .error (.expectedInteger function v.kind)

/-- The characters from `first` up to but without `last`. A negative or too great end is the end of
the text, and a negative beginning its beginning. -/
def slice (s : List Char) (first last : Int) : List Char :=
  let first := max first 0
  let last := if last < 0 ∨ (s.length : Int) < last then (s.length : Int) else last
  if last ≤ first then [] else (s.drop first.toNat).take (last - first).toNat

/-- Texts with a separator between them. -/
def join (separator : List Char) : List (List Char) → List Char
  | [] => []
  | [a] => a
  | a :: b :: rest => a ++ separator ++ join separator (b :: rest)

/-- The parts between delimiters, without empty ones. Each character of `delimiters` is one. -/
def split (s delimiters : List Char) : List (List Char) :=
  (Text.pieces delimiters.contains s).filter fun part => !part.isEmpty

/-! ## The functions -/

/-- Checks the number of arguments of a function that takes one. -/
def one (name : String) (f : Value → Except FunctionFault Value) : String × Function :=
  (name, fun
    | [a] => f a
    | args => .error (.arity name 1 args.length))

/-- Checks the number of arguments of a function that takes two. -/
def two (name : String) (f : Value → Value → Except FunctionFault Value) : String × Function :=
  (name, fun
    | [a, b] => f a b
    | args => .error (.arity name 2 args.length))

/-- Checks the number of arguments of a function that takes three. -/
def three (name : String) (f : Value → Value → Value → Except FunctionFault Value) :
    String × Function :=
  (name, fun
    | [a, b, c] => f a b c
    | args => .error (.arity name 3 args.length))

/-- The length of a string, list or map; null has none. -/
def length : Value → Except FunctionFault Value
  | .null => .ok (.int 0)
  | .string s => .ok (ofCount s.toList.length)
  | .list items => .ok (ofCount items.length)
  | .map entries => .ok (ofCount entries.length)
  | v => .error (.noLength "fn:length" v.kind)

/-- The characters from one position to another. -/
def substring (s first last : Value) : Except FunctionFault Value :=
  match integer "fn:substring" first with
  | .error e => .error e
  | .ok first => match integer "fn:substring" last with
    | .error e => .error e
    | .ok last => .ok (ofChars (slice (chars s) first.toInt last.toInt))

/-- The items of a list in one string. -/
def joinItems (items separator : Value) : Except FunctionFault Value :=
  match items with
  | .null => .ok (.string "")
  | .list vs => .ok (ofChars (join (chars separator) (vs.map chars)))
  | v => .error (.expectedList "fn:join" v.kind)

/-- All string functions. -/
def functions : List (String × Function) := [
  two "fn:contains" fun s x => .ok (.bool (isInfix (chars x) (chars s))),
  two "fn:containsIgnoreCase" fun s x =>
    .ok (.bool (isInfix (Text.lower (text x)).toList (Text.lower (text s)).toList)),
  two "fn:startsWith" fun s x => .ok (.bool (Text.startsWith (chars x) (chars s))),
  two "fn:endsWith" fun s x => .ok (.bool (Text.endsWith (chars x) (chars s))),
  two "fn:indexOf" fun s x => .ok (indexOf (chars s) (chars x)),
  one "fn:length" length,
  one "fn:toLowerCase" fun s => .ok (.string (Text.lower (text s))),
  one "fn:toUpperCase" fun s => .ok (.string (Text.upper (text s))),
  one "fn:trim" fun s => .ok (.string (Text.trim (text s))),
  three "fn:substring" substring,
  two "fn:substringBefore" fun s x => .ok (ofChars (before (chars s) (chars x))),
  two "fn:substringAfter" fun s x => .ok (ofChars (after (chars s) (chars x))),
  three "fn:replace" fun s x y => .ok (ofChars (replace (chars s) (chars x) (chars y))),
  two "fn:join" joinItems,
  two "fn:split" fun s d => .ok (.list ((split (chars s) (chars d)).map ofChars))]

end Cohort.Rule.Strings
