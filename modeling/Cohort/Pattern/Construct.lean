import Cohort.Pattern.Reader

/-! # Reading constructs

The second half of what the engine reads: which construct stands at the front of a text. -/

namespace Cohort.Pattern.Engine

/-- A construct of the engine. -/
abbrev Construct := Pattern.Construct Flags Atom Count

/-! ## Groups -/

/-- Sets or clears the flag of a letter. -/
def Flags.set? (f : Flags) (c : Char) (value : Bool) : Option Flags :=
  if c = 'i' then some { f with ignoreCase := value }
  else if c = 'm' then some { f with multiLine := value }
  else if c = 's' then some { f with dotAll := value }
  else if c = 'U' then some { f with swapGreed := value }
  else if c = 'u' then some { f with unicode := value }
  else if c = 'R' then some { f with crlf := value }
  else if c = 'x' then some { f with verbose := value }
  else none

/-- What was read of a list of flags: the letters seen, whether a hyphen has turned to clearing, and
whether it was the last character. -/
structure FlagList where
  flags : Flags
  seen : List Char
  clearing : Bool
  dangling : Bool

/-- One letter or hyphen; no letter may come twice, nor the hyphen. -/
def FlagList.step? (l : FlagList) (c : Char) : Option FlagList :=
  if c = '-' then
    if l.clearing then none else some { l with clearing := true, dangling := true }
  else if l.seen.contains c then none
  else (l.flags.set? c !l.clearing).map fun f => ⟨f, c :: l.seen, l.clearing, false⟩

/-- The flags of a list of letters. -/
def readFlags? (f : Flags) (cs : List Char) : Option FlagList :=
  (cs.foldl (fun l c => l.bind (·.step? c)) (some ⟨f, [], false, false⟩)).bind fun l =>
    if l.dangling then none else some l

/-- May start the name of a group. -/
def startsGroupName (c : Char) : Bool :=
  c == '_' || Text.isAlphabetic c

/-- May continue the name of a group. -/
def continuesGroupName (c : Char) : Bool :=
  c == '_' || c == '.' || c == '[' || c == ']' || Text.isAlphanumeric c

/-- A group with a name, behind the opening angle bracket. -/
def readNamedGroup? (f : Flags) (cs : List Char) : Option (Construct × List Char) :=
  match cs.takeWhile (· != '>'), cs.dropWhile (· != '>') with
  | c :: name, _ :: rest =>
      if startsGroupName c && name.all continuesGroupName then
        some (.opening f (some (String.ofList (c :: name))), rest)
      else none
  | _, _ => none

/-- What stands behind an opening parenthesis. -/
def readGroup? (f : Flags) (cs : List Char) : Option (Construct × List Char) :=
  match f.skip cs with
  | '?' :: '=' :: _ => none
  | '?' :: '!' :: _ => none
  | '?' :: '<' :: '=' :: _ => none
  | '?' :: '<' :: '!' :: _ => none
  | '?' :: 'P' :: '<' :: cs => readNamedGroup? f cs
  | '?' :: '<' :: cs => readNamedGroup? f cs
  | '?' :: cs =>
      let letters := cs.takeWhile fun c => c != ':' && c != ')'
      match cs.dropWhile fun c => c != ':' && c != ')' with
      | ':' :: rest => (readFlags? f letters).map fun l => (.opening l.flags none, rest)
      | ')' :: rest =>
          if letters.isEmpty then none
          else (readFlags? f letters).map fun l => (.flags l.flags, rest)
      | _ => none
  | cs => some (.opening f none, cs)

/-! ## Repetitions -/

/-- Counts are numbers of thirty-two bits. -/
def countLimit : Nat := Nat.pow 2 32

/-- A count with blanks around it. -/
def readCount? (f : Flags) (cs : List Char) : Option Nat × List Char :=
  let (digits, rest) := f.gather (!Decimal.isDigit ·) (Text.trimStart cs)
  let n := Decimal.natural digits
  (if digits.isEmpty || countLimit ≤ n then none else some n, Text.trimStart rest)

/-- A question mark behind a repetition changes its preference only. -/
def dropPreference : List Char → List Char
  | '?' :: cs => cs
  | cs => cs

/-- The counts behind an opening brace. -/
def readCounts? (f : Flags) (cs : List Char) : Option (Construct × List Char) :=
  match readCount? f (f.skip cs) with
  | (some least, ',' :: cs) =>
      match f.skip cs with
      | '\x7d' :: rest => some (.repetition ⟨least, none⟩, dropPreference (f.skip rest))
      | cs => match readCount? f cs with
        | (some most, '\x7d' :: rest) =>
            if least ≤ most then
              some (.repetition ⟨least, some most⟩, dropPreference (f.skip rest))
            else none
        | _ => none
  | (some n, '\x7d' :: rest) => some (.repetition ⟨n, some n⟩, dropPreference (f.skip rest))
  | _ => none

/-! ## One construct -/

/-- The atom of a primitive. -/
def Primitive.atom (f : Flags) : Primitive → Atom
  | .literal c => .char (f.fold (CharSet.single c))
  | .set s => .char s
  | .assertion a => .assertion a

/-- The characters that a dot stands for. -/
def Flags.dot (f : Flags) : CharSet :=
  if f.dotAll then .any
  else if f.crlf then .negate (.union (CharSet.single '\n') (CharSet.single '\r'))
  else .negate (CharSet.single '\n')

/-- The construct at the front of `c :: cs`. -/
def readConstruct? (f : Flags) (c : Char) (cs : List Char) : Option (Construct × List Char) :=
  if f.verbose && (Text.isBlank c || c == '#') then some (.nothing, f.skip (c :: cs))
  else match c with
    | '(' => readGroup? f cs
    | ')' => some (.closing, cs)
    | '|' => some (.bar, cs)
    | '[' => (readSet? f cs).map fun (s, rest) => (.atom (.char s), rest)
    | '?' => some (.repetition ⟨0, some 1⟩, dropPreference cs)
    | '*' => some (.repetition ⟨0, none⟩, dropPreference cs)
    | '+' => some (.repetition ⟨1, none⟩, dropPreference cs)
    | '\x7b' => readCounts? f cs
    | '\\' => (readEscape? f cs).map fun (p, rest) => (.atom (p.atom f), rest)
    | '.' => if f.unicode then some (.atom (.char f.dot), cs) else none
    | '^' =>
        some (.atom (.assertion (if f.multiLine then .lineStart f.crlf else .textStart)), cs)
    | '$' =>
        some (.atom (.assertion (if f.multiLine then .lineEnd f.crlf else .textEnd)), cs)
    | c => some (.atom ((Primitive.literal c).atom f), cs)

end Cohort.Pattern.Engine
