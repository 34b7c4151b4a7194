import Cohort.Pattern.Atom
import Cohort.Decimal.Reader

/-! # Reading escapes and sets

The first half of what the engine reads: flags, blanks and comments, and the escapes and bracketed
sets that stand for characters. Where blanks and comments are passed over, they may also stand
between the characters of a number or of a name in braces. -/

namespace Cohort.Pattern.Engine

/-- How the constructs behind are to be understood. -/
structure Flags where
  ignoreCase : Bool := false
  /-- `^` and `$` also stand at the ends of lines. -/
  multiLine : Bool := false
  /-- `.` also stands for a line feed. -/
  dotAll : Bool := false
  /-- Repetitions prefer the other count; without meaning for whether there is a match. -/
  swapGreed : Bool := false
  unicode : Bool := true
  /-- Lines also end in a carriage return. -/
  crlf : Bool := false
  /-- Blanks and comments are passed over. -/
  verbose : Bool := false

/-! ## Blanks and comments -/

/-- Drops blanks, and comments to the end of their line. -/
def dropComments : Bool → List Char → List Char
  | _, [] => []
  | true, c :: cs => dropComments (c != '\n') cs
  | false, c :: cs =>
      if Text.isBlank c then dropComments false cs
      else if c = '#' then dropComments true cs
      else c :: cs

/-- Drops what the flags say is passed over. -/
def Flags.skip (f : Flags) (cs : List Char) : List Char :=
  if f.verbose then dropComments false cs else cs

/-- The characters in front of the first one that satisfies `stop`, without blanks and comments, and
what is left from that one on; `comment` says that a comment is open. -/
def gatherPast (stop : Char → Bool) : (comment : Bool) → List Char → List Char × List Char
  | _, [] => ([], [])
  | true, c :: cs => gatherPast stop (c != '\n') cs
  | false, c :: cs =>
      if Text.isBlank c then gatherPast stop false cs
      else if c = '#' then gatherPast stop true cs
      else if stop c then ([], c :: cs)
      else
        let (read, left) := gatherPast stop false cs
        (c :: read, left)

/-- The characters in front of the first one that satisfies `stop`, without what the flags say is
passed over, and what is left from that one on. -/
def Flags.gather (f : Flags) (stop : Char → Bool) (cs : List Char) : List Char × List Char :=
  if f.verbose then gatherPast stop false cs
  else (cs.takeWhile (!stop ·), cs.dropWhile (!stop ·))

/-- So many characters, without blanks and comments, and what is left. -/
def takePast? : Nat → (comment : Bool) → List Char → Option (List Char × List Char)
  | 0, _, cs => some ([], cs)
  | _ + 1, _, [] => none
  | n + 1, true, c :: cs => takePast? (n + 1) (c != '\n') cs
  | n + 1, false, c :: cs =>
      if Text.isBlank c then takePast? (n + 1) false cs
      else if c = '#' then takePast? (n + 1) true cs
      else (takePast? n false cs).map fun (read, left) => (c :: read, left)

/-- So many characters, without what the flags say is passed over, and what is left. -/
def Flags.take? (f : Flags) (n : Nat) (cs : List Char) : Option (List Char × List Char) :=
  if f.verbose then takePast? n false cs
  else if cs.length < n then none
  else some (cs.take n, cs.drop n)

/-- The set with the case variants that the flags ask for. -/
def Flags.fold (f : Flags) (s : CharSet) : CharSet :=
  if !f.ignoreCase then s
  else if f.unicode then .folded s
  else s.foldedInAscii

/-! ## Escapes -/

/-- What one escape or character stands for. -/
inductive Primitive where
  | literal (c : Char)
  /-- A named set, which keeps its characters whatever the case. -/
  | set (s : CharSet)
  | assertion (a : Assertion)

/-- The value of hexadecimal digits in either case; one at least. -/
def hexadecimal? (cs : List Char) : Option Nat :=
  if cs.isEmpty then none
  else cs.foldl (fun n c => n.bind fun n => (Text.hexValue? c.toLower).map (16 * n + ·)) (some 0)

/-- The character with a code point, if there is one. -/
def character? (n : Nat) : Option Char :=
  if h : n.isValidChar then some (Char.ofNatAux n h) else none

/-- The end of a name in braces. -/
def isClosingBrace (c : Char) : Bool :=
  c == '\x7d'

/-- The literal of a code point in hexadecimal, with what stands behind it. -/
def codePoint? (digits rest : List Char) : Option (Primitive × List Char) :=
  (hexadecimal? digits).bind fun n => (character? n).map fun c => (.literal c, rest)

/-- A code point in hexadecimal: so many digits, or any number of them in braces. -/
def readHexadecimal? (f : Flags) (digits : Nat) (cs : List Char) :
    Option (Primitive × List Char) :=
  match f.skip cs with
  | '\x7b' :: cs =>
      match f.gather isClosingBrace cs with
      | (read, _ :: rest) => codePoint? read rest
      | (_, []) => none
  | cs => (f.take? digits cs).bind fun (read, rest) => codePoint? read rest

/-- A code point of two digits; without Unicode it would be a byte, and one beyond ASCII is part of
no character. -/
def readByte? (f : Flags) (cs : List Char) : Option (Primitive × List Char) :=
  (readHexadecimal? f 2 cs).filter fun r => match r.1 with
    | .literal c => f.unicode || c.toNat < 128 || (f.skip cs).head? == some '\x7b'
    | _ => true

/-- The set of a general category with a name of one letter. -/
def oneLetter? (c : Char) : Option CharSet :=
  CharSet.category? (String.ofList [c.toLower])

/-- The set between the braces of a property: a name, or a name and a value. -/
def propertySet? (cs : List Char) : Option CharSet :=
  let name := cs.takeWhile fun c => c != '=' && c != ':'
  match cs.dropWhile fun c => c != '=' && c != ':' with
  | [] => CharSet.named? name
  | _ :: value =>
      if name.getLast? = some '!' then (CharSet.valued? name.dropLast value).map .negate
      else CharSet.valued? name value

/-- A property behind `\p` or `\P`. -/
def readProperty? (f : Flags) (negated : Bool) (cs : List Char) :
    Option (Primitive × List Char) :=
  if !f.unicode then none
  else match f.skip cs with
    | [] => none
    | '\x7b' :: cs =>
        match f.gather isClosingBrace cs with
        | (name, _ :: rest) => (propertySet? name).map fun s =>
            (.set (CharSet.negatedIf negated (f.fold s)), rest)
        | (_, []) => none
    | c :: rest => (oneLetter? c).map fun s =>
        (.set (CharSet.negatedIf negated (f.fold s)), rest)

/-- One of the short sets; without Unicode it may not reach beyond ASCII. -/
def shortSet? (f : Flags) (negated : Bool) (unicode ascii : CharSet) : Option Primitive :=
  if f.unicode then some (.set (CharSet.negatedIf negated unicode))
  else if negated then none
  else some (.set ascii)

/-- The word characters that boundaries look at. -/
def Flags.word (f : Flags) : CharSet :=
  if f.unicode then CharSet.word else CharSet.asciiWord

/-- The kind of boundary between the braces behind `\b`. -/
def specialBoundary? (f : Flags) (name : List Char) : Option Assertion :=
  let name := String.ofList name
  if name = "start" then some (.wordStart f.word)
  else if name = "end" then some (.wordEnd f.word)
  else if name = "start-half" then some (.wordStartHalf f.word)
  else if name = "end-half" then some (.wordEndHalf f.word)
  else none

/-- May stand in the name of a boundary. -/
def isBoundaryChar (c : Char) : Bool :=
  c.isAlpha || c == '-'

/-- A boundary behind `\b`; a brace that no name can follow begins something else. -/
def readBoundary? (f : Flags) (cs : List Char) : Option (Primitive × List Char) :=
  match cs with
  | '\x7b' :: inner =>
      match f.skip inner with
      | [] => none
      | c :: rest =>
          if isBoundaryChar c then
            match f.gather (!isBoundaryChar ·) (c :: rest) with
            | (name, '\x7d' :: behind) =>
                (specialBoundary? f name).map fun a => (.assertion a, behind)
            | _ => none
          else some (.assertion (.boundary f.word), cs)
  | cs => some (.assertion (.boundary f.word), cs)

/-- A sign that may be escaped although it means nothing else: any character of ASCII that is no
letter, no digit and no angle bracket. -/
def isEscapable (c : Char) : Bool :=
  c.toNat < 128 && !c.isAlphanum && c != '<' && c != '>'

/-- What stands behind a backslash. -/
def readEscape? (f : Flags) : List Char → Option (Primitive × List Char)
  | [] => none
  | 'x' :: cs => readByte? f cs
  | 'u' :: cs => readHexadecimal? f 4 cs
  | 'U' :: cs => readHexadecimal? f 8 cs
  | 'p' :: cs => readProperty? f false cs
  | 'P' :: cs => readProperty? f true cs
  | 'd' :: cs => (shortSet? f false CharSet.digit CharSet.asciiDigit).map (·, cs)
  | 'D' :: cs => (shortSet? f true CharSet.digit CharSet.asciiDigit).map (·, cs)
  | 's' :: cs => (shortSet? f false CharSet.space CharSet.asciiSpace).map (·, cs)
  | 'S' :: cs => (shortSet? f true CharSet.space CharSet.asciiSpace).map (·, cs)
  | 'w' :: cs => (shortSet? f false CharSet.word CharSet.asciiWord).map (·, cs)
  | 'W' :: cs => (shortSet? f true CharSet.word CharSet.asciiWord).map (·, cs)
  | 'a' :: cs => some (.literal (Char.ofNat 7), cs)
  | 'f' :: cs => some (.literal (Char.ofNat 12), cs)
  | 't' :: cs => some (.literal '\t', cs)
  | 'n' :: cs => some (.literal '\n', cs)
  | 'r' :: cs => some (.literal '\r', cs)
  | 'v' :: cs => some (.literal (Char.ofNat 11), cs)
  | 'A' :: cs => some (.assertion .textStart, cs)
  | 'z' :: cs => some (.assertion .textEnd, cs)
  | 'b' :: cs => readBoundary? f cs
  | 'B' :: cs => some (.assertion (.noBoundary f.word), cs)
  | '<' :: cs => some (.assertion (.wordStart f.word), cs)
  | '>' :: cs => some (.assertion (.wordEnd f.word), cs)
  | c :: cs => if isEscapable c then some (.literal c, cs) else none

/-! ## Sets in brackets -/

/-- A set that is named between `[:` and `:]`. -/
def readNamedSet? : List Char → Option (CharSet × List Char)
  | '[' :: ':' :: cs =>
      let (negated, cs) := match cs with
        | '^' :: cs => (true, cs)
        | cs => (false, cs)
      match cs.dropWhile (· != ':') with
      | ':' :: ']' :: rest =>
          (CharSet.bracketNamed? (String.ofList (cs.takeWhile (· != ':')))).map fun s =>
            (CharSet.negatedIf negated s, rest)
      | _ => none
  | _ => none

/-- An operation between two parts of a set. -/
inductive SetOp where
  | inter
  | minus
  | symmetric

/-- The operation on two sets. -/
def SetOp.apply : SetOp → CharSet → CharSet → CharSet
  | .inter => .inter
  | .minus => .minus
  | .symmetric => .symmetric

/-- May stand in a set; without Unicode only characters of ASCII may. -/
def Primitive.fits (f : Flags) : Primitive → Bool
  | .literal c => f.unicode || c.toNat < 128
  | _ => true

/-- A part of a set as it is written: a character or a named set. -/
def readSetItem? (f : Flags) : List Char → Option (Primitive × List Char)
  | [] => none
  | '\\' :: cs => (readEscape? f cs).filter fun r => r.1.fits f
  | c :: cs => if (Primitive.literal c).fits f then some (.literal c, cs) else none

/-- A character, a range of characters or a named set. -/
def readSetRange? (f : Flags) (cs : List Char) : Option (CharSet × List Char) :=
  (readSetItem? f cs).bind fun (first, rest) =>
    let alone : Option (CharSet × List Char) := match first with
      | .literal c => some (CharSet.single c, f.skip rest)
      | .set s => some (s, f.skip rest)
      | .assertion _ => none
    match f.skip rest with
    | [] => none
    | '-' :: behind =>
        match f.skip behind with
        | [] => none
        | ']' :: _ => alone
        | '-' :: _ => alone
        | behind => (readSetItem? f behind).bind fun (last, rest) =>
            match first, last with
            | .literal a, .literal b =>
                if a ≤ b then some (.range a.toNat b.toNat, rest) else none
            | _, _ => none
    | _ => alone

/-- The parts collected so far, with the operation that waits for them. -/
def closeParts (f : Flags) (waiting : Option (CharSet × SetOp)) (parts : List CharSet) : CharSet :=
  let operand := CharSet.unionAll parts
  match waiting with
  | none => operand
  | some (left, op) =>
      op.apply (f.fold left) (f.fold operand)

/-- The inside of a set, from some part of it to the closing bracket. -/
def readSetParts? (f : Flags) : Nat → Bool → Option (CharSet × SetOp) → List CharSet →
    List Char → Option (CharSet × List Char)
  | 0, _, _, _, _ => none
  | room + 1, negated, waiting, parts, cs =>
      match f.skip cs with
      | [] => none
      | ']' :: rest =>
          let set := CharSet.negatedIf negated
            (f.fold (closeParts f waiting parts))
          if negated && !f.unicode then none else some (set, rest)
      | '&' :: '&' :: rest =>
          readSetParts? f room negated (some (closeParts f waiting parts, .inter)) [] rest
      | '-' :: '-' :: rest =>
          readSetParts? f room negated (some (closeParts f waiting parts, .minus)) [] rest
      | '~' :: '~' :: rest =>
          readSetParts? f room negated (some (closeParts f waiting parts, .symmetric)) [] rest
      | '[' :: rest =>
          match readNamedSet? ('[' :: rest) with
          | some (set, rest) => readSetParts? f room negated waiting (set :: parts) rest
          | none => (openSet? room rest).bind fun (set, rest) =>
              readSetParts? f room negated waiting (set :: parts) rest
      | cs => (readSetRange? f cs).bind fun (set, rest) =>
          readSetParts? f room negated waiting (set :: parts) rest
where
  /-- A set behind its opening bracket. Hyphens that stand first are characters, and so is a closing
  bracket that stands first. -/
  openSet? (room : Nat) (cs : List Char) : Option (CharSet × List Char) :=
    let (negated, cs) := match f.skip cs with
      | '^' :: cs => (true, f.skip cs)
      | cs => (false, cs)
    let hyphens := cs.takeWhile (· == '-')
    let cs := cs.dropWhile (· == '-')
    let parts := hyphens.map CharSet.single
    match f.skip cs with
    | ']' :: rest =>
        if hyphens.isEmpty then
          readSetParts? f room negated none [CharSet.single ']'] rest
        else readSetParts? f room negated none parts (']' :: rest)
    | cs => readSetParts? f room negated none parts cs

/-- A set behind its opening bracket, within the length of the text. -/
def readSet? (f : Flags) (cs : List Char) : Option (CharSet × List Char) :=
  readSetParts?.openSet? f (2 * cs.length + 2) cs

end Cohort.Pattern.Engine
