import Cohort.Yaml
import Cohort.Decimal.Reader
import Cohort.Text.Class

/-! # Scalars

A scalar without quotes means what it looks like: null, a boolean, a number, or else itself. A
quoted scalar is always a string. A scalar may go on over several lines: a line break with the
blanks around it then stands for one blank, and every empty line for a line break. -/

namespace Cohort.Yaml

/-! ## Gaps -/

/-- What lies between two visible characters of a scalar. -/
inductive Gap where
  /-- Nothing but blanks, which count as they are. -/
  | blanks (cs : List Char)
  /-- A line break and so many empty lines. -/
  | breaks (empty : Nat)
  /-- A line break that was cancelled, and so many empty lines. -/
  | cancelled (empty : Nat)

namespace Gap

/-- No gap at all. -/
def none : Gap := .blanks []

/-- A gap that goes on with a blank or a line break. -/
def add (c : Char) : Gap → Gap
  | .blanks cs => if c = '\n' then .breaks 0 else .blanks (cs ++ [c])
  | .breaks n => if c = '\n' then .breaks (n + 1) else .breaks n
  | .cancelled n => if c = '\n' then .cancelled (n + 1) else .cancelled n

/-- What a gap stands for. -/
def text : Gap → List Char
  | .blanks cs => cs
  | .breaks 0 => [' ']
  | .breaks n => List.replicate n '\n'
  | .cancelled n => List.replicate n '\n'

/-- The gap has a line break. -/
def isBroken : Gap → Bool
  | .blanks _ => false
  | _ => true

end Gap

/-- A blank within a line. -/
def isSpace (c : Char) : Bool :=
  c == ' ' || c == '\t'

/-- A blank or a line break. -/
def isGap (c : Char) : Bool :=
  isSpace c || c == '\n'

/-- The text ends here, or a blank follows. -/
def gapFollows : List Char → Bool
  | [] => true
  | c :: _ => isGap c

/-! ## Quoted scalars -/

/-- A scalar in single quotes, from behind the first of them: its text and what follows it. A quote
in it is written twice. -/
def singleQuoted (gap : Gap) : List Char → Option (List Char × List Char)
  | [] => none
  | '\'' :: '\'' :: rest =>
      (singleQuoted .none rest).map fun (t, r) => (gap.text ++ '\'' :: t, r)
  | '\'' :: rest => some (gap.text, rest)
  | c :: rest =>
      if isGap c then singleQuoted (gap.add c) rest
      else (singleQuoted .none rest).map fun (t, r) => (gap.text ++ c :: t, r)

/-- The character of an escape of a single character. -/
def escaped? (c : Char) : Option Char :=
  [('0', '\x00'), ('a', '\x07'), ('b', '\x08'), ('t', '\t'), ('\t', '\t'), ('n', '\n'),
    ('v', '\x0b'), ('f', '\x0c'), ('r', '\r'), ('e', '\x1b'), (' ', ' '), ('"', '"'), ('/', '/'),
    ('\\', '\\'), ('N', '\u0085'), ('_', '\u00a0'), ('L', '\u2028'), ('P', '\u2029')].lookup c

/-- The character of a code point in hexadecimal. -/
def codePoint? (digits : List Char) : Option Char :=
  let digits := digits.map Char.toLower
  if digits.all fun d => (Text.hexValue? d).isSome then
    let n := Text.hexNumber digits
    if n.isValidChar then some (Char.ofNat n) else none
  else none

/-- A scalar in double quotes, from behind the first of them: its text and what follows it. -/
def doubleQuoted (gap : Gap) : List Char → Option (List Char × List Char)
  | [] => none
  | '"' :: rest => some (gap.text, rest)
  | '\\' :: '\n' :: rest =>
      (doubleQuoted (.cancelled 0) rest).map fun (t, r) => (gap.text ++ t, r)
  | '\\' :: 'x' :: a :: b :: rest => match codePoint? [a, b] with
    | none => none
    | some c => (doubleQuoted .none rest).map fun (t, r) => (gap.text ++ c :: t, r)
  | '\\' :: 'u' :: a :: b :: c :: d :: rest => match codePoint? [a, b, c, d] with
    | none => none
    | some c => (doubleQuoted .none rest).map fun (t, r) => (gap.text ++ c :: t, r)
  | '\\' :: 'U' :: a :: b :: c :: d :: e :: f :: g :: h :: rest =>
      match codePoint? [a, b, c, d, e, f, g, h] with
      | none => none
      | some c => (doubleQuoted .none rest).map fun (t, r) => (gap.text ++ c :: t, r)
  | '\\' :: e :: rest => match escaped? e with
    | none => none
    | some c => (doubleQuoted .none rest).map fun (t, r) => (gap.text ++ c :: t, r)
  | c :: rest =>
      if isGap c then doubleQuoted (gap.add c) rest
      else (doubleQuoted .none rest).map fun (t, r) => (gap.text ++ c :: t, r)

/-! ## Plain scalars -/

/-- Characters with a meaning of their own inside brackets and braces. -/
def isFlowSign (c : Char) : Bool :=
  [',', '[', ']', '\x7b', '\x7d'].contains c

/-- A plain scalar ends in front of a colon with a blank behind, and inside brackets also in front
of any sign of theirs. -/
def endsPlain (inFlow : Bool) (c : Char) (rest : List Char) : Bool :=
  (c == ':' && (gapFollows rest || (inFlow && rest.head?.any isFlowSign))) ||
    (inFlow && isFlowSign c)

/-- A plain scalar and what follows it. A line of it may not begin left of `floor`; a number sign
behind a gap begins a comment. `behind` is what follows the characters taken so far, the gap
included. -/
def plainText (inFlow : Bool) (floor column : Nat) (gap : Gap) (inGap : Bool)
    (behind : List Char) : List Char → List Char × List Char
  | [] => ([], behind)
  | c :: rest =>
      if isGap c then
        plainText inFlow floor (if c = '\n' then 0 else column + 1) (gap.add c) true behind rest
      else if endsPlain inFlow c rest || (inGap && c == '#') ||
          (gap.isBroken && column < floor) then
        ([], behind)
      else
        let (t, r) := plainText inFlow floor (column + 1) .none false rest rest
        (gap.text ++ c :: t, r)

/-- Characters that no plain scalar begins with. -/
def isIndicator (c : Char) : Bool :=
  isGap c || isFlowSign c ||
    ['-', '?', ':', '#', '&', '*', '!', '|', '>', '\'', '"', '%', '@', '\x60'].contains c

/-- A plain scalar may begin here. -/
def beginsPlain (inFlow : Bool) : List Char → Bool
  | [] => false
  | c :: rest =>
      !isIndicator c ||
        (c == '-' && !gapFollows rest) ||
        (!inFlow && (c == '?' || c == ':') && !gapFollows rest)

/-! ## What plain scalars mean -/

/-- The value of a digit of any base up to sixteen. -/
def digitIn? (base : Nat) (c : Char) : Option Nat :=
  (Text.hexValue? c.toLower).filter (· < base)

/-- The number that digits of a base write. -/
def naturalIn? (base : Nat) (cs : List Char) : Option Nat :=
  if cs.isEmpty || !cs.all fun c => (digitIn? base c).isSome then none
  else some (cs.foldl (fun n c => base * n + (digitIn? base c).getD 0) 0)

/-- Digits behind a zero that does not belong there are no number. -/
def hasLeadingZero : List Char → Bool
  | '0' :: rest => !rest.isEmpty && rest.all Decimal.isDigit
  | _ => false

/-- A whole number without sign, in base sixteen, eight, two or ten. -/
def unsignedInteger? : List Char → Option Nat
  | '0' :: 'x' :: rest => naturalIn? 16 rest
  | '0' :: 'o' :: rest => naturalIn? 8 rest
  | '0' :: 'b' :: rest => naturalIn? 2 rest
  | cs => if hasLeadingZero cs then none else naturalIn? 10 cs

/-- A whole number. -/
def integer? : List Char → Option Int
  | '-' :: rest => (unsignedInteger? rest).map fun n => -(n : Int)
  | '+' :: rest => (unsignedInteger? rest).map fun n => (n : Int)
  | cs => (unsignedInteger? cs).map fun n => (n : Int)

/-- A floating-point number without its plus sign. Infinities and not-a-number begin with a point,
and numbers too great for their kind are none. -/
def floatWithoutPlus? (cs : List Char) : Option Float :=
  let word := String.ofList cs
  if [".inf", ".Inf", ".INF"].contains word then some Decimal.infinity
  else if ["-.inf", "-.Inf", "-.INF"].contains word then some (-Decimal.infinity)
  else if [".nan", ".NaN", ".NAN"].contains word then some Decimal.notANumber
  else (Decimal.float? cs).filter (·.isFinite)

/-- A floating-point number with at most one sign. -/
def float? : List Char → Option Float
  | '+' :: c :: rest => if c = '+' ∨ c = '-' then none else floatWithoutPlus? (c :: rest)
  | cs => floatWithoutPlus? cs

/-- Digits with a sign and a leading zero. -/
def isZeroPadded : List Char → Bool
  | '-' :: rest => hasLeadingZero rest
  | '+' :: rest => hasLeadingZero rest
  | cs => hasLeadingZero cs

/-- A number as it can be kept: sixty-four bits, with or without sign. Nothing when it has more, up
to a hundred and twenty-eight. -/
def keptInteger? (n : Int) : Option JsonNumber :=
  if -Int.pow 2 63 ≤ n ∧ n < Int.pow 2 64 then some (.whole n) else none

/-- The number of a plain scalar that is no integer of at most a hundred and twenty-eight bits, or
its text. -/
def floatOrText (cs : List Char) : Yaml :=
  match if isZeroPadded cs then none else float? cs with
  | some x => .number (.float x)
  | none => .string (String.ofList cs)

/-- What a plain scalar means; nothing when it is a number with too many bits. -/
def ofPlain? (cs : List Char) : Option Yaml :=
  let word := String.ofList cs
  if ["", "~", "null", "Null", "NULL"].contains word then some .null
  else if ["true", "True", "TRUE"].contains word then some (.bool true)
  else if ["false", "False", "FALSE"].contains word then some (.bool false)
  else match integer? cs with
    | some n =>
        if -Int.pow 2 127 ≤ n ∧ n < Int.pow 2 128 then (keptInteger? n).map .number
        else some (floatOrText cs)
    | none => some (floatOrText cs)

end Cohort.Yaml
