import Cohort.Json
import Cohort.Text.Ranges
import Cohort.Decimal.Reader

/-! # Reading documents

A text is cut into lexemes by a machine that reads one character at a time, and the lexemes are
put together by a second machine that keeps the open arrays and objects on a stack. Neither looks
back, so reading ends with the text. Arrays and objects nest to a fixed depth at most.

A number without point and exponent is whole if it fits sixty-four bits. Any other number is read
from its leading digits, as many as fit sixty-four bits, as a floating-point number that is then
multiplied or divided by a power of ten. -/

namespace Cohort.Json

/-! ## Numbers -/

/-- The greatest value of the digits that are read exactly. -/
def digitLimit : Nat := Nat.pow 2 64

/-- Takes digits as long as the number stays below the limit: the number and the digits left. -/
def takeDigits : Nat → List Char → Nat × List Char
  | n, [] => (n, [])
  | n, c :: cs =>
      let next := 10 * n + Decimal.digitValue c
      if next < digitLimit then takeDigits next cs else (n, c :: cs)

/-- A power of ten. -/
def powerOfTen (k : Nat) : Float :=
  Float.ofScientific 1 false k

/-- Multiplies or divides by a power of ten, in steps of at most `10 ^ 308`; nothing when the
result is too great. -/
def scale : Nat → Float → Int → Option Float
  | 0, x, _ => some x
  | room + 1, x, exponent =>
      if exponent.natAbs ≤ 308 then
        if 0 ≤ exponent then
          let y := x * powerOfTen exponent.natAbs
          if y.isFinite then some y else none
        else some (x / powerOfTen exponent.natAbs)
      else if x == 0.0 then some x
      else if 0 ≤ exponent then none
      else scale room (x / powerOfTen 308) (exponent + 308)

/-- An exponent is read up to the greatest value of thirty-two bits. -/
def exponentLimit : Nat := Nat.pow 2 31

/-- The number of the given digits, exponent and sign. -/
def floatOf (negative : Bool) (digits : Nat) (exponent : Int) : Option Float :=
  let unsigned :=
    if exponentLimit ≤ exponent.natAbs then
      if digits = 0 ∨ exponent < 0 then some 0.0 else none
    else scale 4 (Float.ofNat digits) exponent
  unsigned.map fun x => if negative then -x else x

/-- The exponent behind the digits, to the end of the lexeme. -/
def exponentPart? : List Char → Option Int
  | [] => none
  | c :: cs => if c = 'e' ∨ c = 'E' then Decimal.integer? cs else none

/-- The digits in front of a point: a zero among them stands first only if it stands alone. -/
def isWholePart : List Char → Bool
  | [] => false
  | ['0'] => true
  | c :: _ => c != '0'

/-- A number without its sign. -/
def unsignedNumber? (negative : Bool) (cs : List Char) : Option JsonNumber :=
  let whole := cs.takeWhile Decimal.isDigit
  let (digits, left) := takeDigits 0 whole
  if !isWholePart whole then none
  else match cs.dropWhile Decimal.isDigit with
    | [] =>
        if left.isEmpty then
          if !negative then some (.whole digits)
          else if digits = 0 then some (.float (-0.0))
          else if digits ≤ Nat.pow 2 63 then some (.whole (-(digits : Int)))
          else some (.float (-(Float.ofNat digits)))
        else (floatOf negative digits left.length).map .float
    | '.' :: rest =>
        let fraction := rest.takeWhile Decimal.isDigit
        let (digits, unread) := takeDigits digits fraction
        let exponent := (left.length : Int) - ((fraction.length - unread.length : Nat) : Int)
        if fraction.isEmpty then none
        else match rest.dropWhile Decimal.isDigit with
          | [] => (floatOf negative digits exponent).map .float
          | rest => (exponentPart? rest).bind fun e =>
              (floatOf negative digits (exponent + e)).map .float
    | rest => (exponentPart? rest).bind fun e =>
        (floatOf negative digits (left.length + e)).map .float

/-- A number. -/
def number? : List Char → Option JsonNumber
  | '-' :: cs => unsignedNumber? true cs
  | cs => unsignedNumber? false cs

/-! ## Lexemes -/

/-- The lexemes of a document; a string is kept apart because it may be the name of a member. -/
inductive Lexeme where
  | openArray
  | closeArray
  | openObject
  | closeObject
  | comma
  | colon
  | text (s : String)
  | scalar (v : Json)

/-- A number or one of the three words. -/
def word? (cs : List Char) : Option Json :=
  if cs = ['n', 'u', 'l', 'l'] then some .null
  else if cs = ['t', 'r', 'u', 'e'] then some (.bool true)
  else if cs = ['f', 'a', 'l', 's', 'e'] then some (.bool false)
  else (number? cs).map .number

/-- What the lexer is in the middle of; characters collected so far are in reverse order. -/
inductive Mode where
  | between
  | word (read : List Char)
  | text (read : List Char)
  | escape (read : List Char)
  /-- Hexadecimal digits of a code unit, `left` of them to come; `high` is the first unit of a
  pair. -/
  | code (read : List Char) (left value : Nat) (high : Option Nat)
  /-- After the first unit of a pair, before the backslash of the second. -/
  | pair (read : List Char) (high : Nat)
  | pairEscape (read : List Char) (high : Nat)

/-- The character that a one-letter escape stands for. -/
def escaped? (c : Char) : Option Char :=
  if c = '"' ∨ c = '\\' ∨ c = '/' then some c
  else if c = 'b' then some (Char.ofNat 8)
  else if c = 'f' then some (Char.ofNat 12)
  else if c = 'n' then some '\n'
  else if c = 'r' then some '\r'
  else if c = 't' then some '\t'
  else none

/-- The mode after a whole code unit; a second unit without a first one is refused, and so is a
first one without a second. -/
def afterUnit (read : List Char) (unit : Nat) : Option Nat → Option Mode
  | none =>
      if 0xd800 ≤ unit ∧ unit < 0xdc00 then some (.pair read unit)
      else if 0xdc00 ≤ unit ∧ unit < 0xe000 then none
      else some (.text (Char.ofNat unit :: read))
  | some high =>
      if 0xdc00 ≤ unit ∧ unit < 0xe000 then
        some (.text (Char.ofNat (0x10000 + (high - 0xd800) * 0x400 + (unit - 0xdc00)) :: read))
      else none

/-- The value of a hexadecimal digit in either case. -/
def unitDigit? (c : Char) : Option Nat :=
  Text.hexValue? c.toLower

/-- The blanks of a document. -/
def isSpace (c : Char) : Bool :=
  c == ' ' || c == '\n' || c == '\t' || c == '\r'

/-- The lexeme of a bracket or separator. -/
def punctuation? (c : Char) : Option Lexeme :=
  if c = '[' then some .openArray
  else if c = ']' then some .closeArray
  else if c = '\x7b' then some .openObject
  else if c = '\x7d' then some .closeObject
  else if c = ',' then some .comma
  else if c = ':' then some .colon
  else none

/-- A character outside of strings and words: the mode after it and the lexeme it completes. -/
def stepBetween (c : Char) : Mode × List Lexeme :=
  if isSpace c then (.between, [])
  else if c = '"' then (.text [], [])
  else match punctuation? c with
    | some l => (.between, [l])
    | none => (.word [c], [])

/-- One character: the mode after it and the lexemes it completes, or nothing for a mistake. -/
def Mode.step : Mode → Char → Option (Mode × List Lexeme)
  | .between, c => some (stepBetween c)
  | .word read, c =>
      if isSpace c || c == '"' || (punctuation? c).isSome then
        (word? read.reverse).map fun v =>
          let (mode, lexemes) := stepBetween c
          (mode, .scalar v :: lexemes)
      else some (.word (c :: read), [])
  | .text read, c =>
      if c = '"' then some (.between, [.text (String.ofList read.reverse)])
      else if c = '\\' then some (.escape read, [])
      else if c.toNat < 32 then none
      else some (.text (c :: read), [])
  | .escape read, c =>
      if c = 'u' then some (.code read 4 0 none, [])
      else (escaped? c).map fun e => (.text (e :: read), [])
  | .code read left value high, c =>
      (unitDigit? c).bind fun d =>
        let value := 16 * value + d
        if left ≤ 1 then (afterUnit read value high).map fun m => (m, [])
        else some (.code read (left - 1) value high, [])
  | .pair read high, c => if c = '\\' then some (.pairEscape read high, []) else none
  | .pairEscape read high, c => if c = 'u' then some (.code read 4 0 (some high), []) else none

/-- The lexemes that the end of the text completes. -/
def Mode.finish : Mode → Option (List Lexeme)
  | .between => some []
  | .word read => (word? read.reverse).map fun v => [.scalar v]
  | _ => none

/-- All lexemes of a text, behind those `found` so far in reverse order. -/
def lexemes (found : List Lexeme) (mode : Mode) : List Char → Option (List Lexeme)
  | [] => mode.finish.map fun last => (last.reverse ++ found).reverse
  | c :: cs => match mode.step c with
    | none => none
    | some (next, new) => lexemes (new.reverse ++ found) next cs

/-! ## Structure -/

/-- An open array or object, with what it holds so far in reverse order. -/
inductive Frame where
  | array (items : List Json)
  | object (members : List (String × Json)) (name : String)

/-- What may come next. -/
inductive Awaited where
  | value
  /-- A value, or the end of the array just opened. -/
  | firstItem
  /-- A name, or the end of the object just opened; it holds nothing yet. -/
  | firstName
  /-- A name of an object that holds the given members. -/
  | name (members : List (String × Json))
  | colon (members : List (String × Json)) (name : String)
  /-- A comma or the end, after an item of an array. -/
  | moreItems (items : List Json)
  /-- A comma or the end, after a member of an object. -/
  | moreMembers (members : List (String × Json))
  | nothing (document : Json)

/-- The open arrays and objects, innermost first, without the one that `awaited` speaks of. -/
structure Assembly where
  awaited : Awaited
  stack : List Frame
  depth : Nat

/-- Arrays and objects inside one another, at most. -/
def maxDepth : Nat := 127

/-- A value is complete: it goes where the innermost frame wants it. -/
def Assembly.put (v : Json) : List Frame → Nat → Assembly
  | [], depth => ⟨.nothing v, [], depth⟩
  | .array items :: stack, depth => ⟨.moreItems (v :: items), stack, depth⟩
  | .object members name :: stack, depth => ⟨.moreMembers ((name, v) :: members), stack, depth⟩

/-- Opens an array or object. -/
def Assembly.enter (awaited : Awaited) (stack : List Frame) (depth : Nat) : Option Assembly :=
  if depth < maxDepth then some ⟨awaited, stack, depth + 1⟩ else none

/-- The start of a value. -/
def Assembly.start (stack : List Frame) (depth : Nat) : Lexeme → Option Assembly
  | .openArray => enter .firstItem stack depth
  | .openObject => enter .firstName stack depth
  | .text s => some (put (.string s) stack depth)
  | .scalar v => some (put v stack depth)
  | _ => none

/-- One lexeme. -/
def Assembly.step (a : Assembly) (l : Lexeme) : Option Assembly :=
  match a.awaited, l with
  | .value, l => start a.stack a.depth l
  | .firstItem, .closeArray => some (put (.array []) a.stack (a.depth - 1))
  | .firstItem, l => start (.array [] :: a.stack) a.depth l
  | .firstName, .closeObject => some (put (.object []) a.stack (a.depth - 1))
  | .firstName, .text s => some ⟨.colon [] s, a.stack, a.depth⟩
  | .name members, .text s => some ⟨.colon members s, a.stack, a.depth⟩
  | .colon members name, .colon => some ⟨.value, .object members name :: a.stack, a.depth⟩
  | .moreItems items, .comma => some ⟨.value, .array items :: a.stack, a.depth⟩
  | .moreItems items, .closeArray => some (put (.array items.reverse) a.stack (a.depth - 1))
  | .moreMembers members, .comma => some ⟨.name members, a.stack, a.depth⟩
  | .moreMembers members, .closeObject =>
      some (put (ofMembers members.reverse) a.stack (a.depth - 1))
  | _, _ => none

/-- All lexemes. -/
def Assembly.run (a : Assembly) : List Lexeme → Option Json
  | [] => match a.awaited with
    | .nothing v => some v
    | _ => none
  | l :: ls => match a.step l with
    | none => none
    | some next => next.run ls

/-- Reads a document. -/
def parse? (s : String) : Option Json :=
  (lexemes [] .between s.toList).bind fun ls => Assembly.run ⟨.value, [], 0⟩ ls

end Cohort.Json
