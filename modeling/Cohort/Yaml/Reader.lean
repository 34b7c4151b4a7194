import Cohort.Yaml.Scalar

/-! # Reading YAML

A reader of the project's own, to run with. It reads the part of YAML that definitions are written
in: block mappings and sequences, bracketed ones, scalars with and without quotes, and comments.
Block scalars, anchors, aliases, tags, explicit keys, document marks and directives are unknown to
it. What belongs together in a block is said by the columns that its lines begin in, so reading goes
along a cursor that knows its column.

Every call has `room` for so many calls inside it. A call is made for at least one character, or
hands the same character on a bounded number of times, so room for a few times the length of the
text is never used up. -/

namespace Cohort.Yaml

/-! ## Cursors -/

/-- A place in a text: what follows it, and the column of the next character. -/
structure Cursor where
  column : Nat
  rest : List Char

namespace Cursor

/-- The text ends here. -/
def atEnd (c : Cursor) : Bool :=
  c.rest.isEmpty

/-- The column behind some characters. -/
def columnAfter (column : Nat) (cs : List Char) : Nat :=
  cs.foldl (fun n c => if c = '\n' then 0 else n + 1) column

/-- The characters up to where `rest` is left. -/
def taken (c : Cursor) (rest : List Char) : List Char :=
  c.rest.take (c.rest.length - rest.length)

/-- The cursor moved to where `rest` is left. -/
def moveTo (c : Cursor) (rest : List Char) : Cursor :=
  ⟨columnAfter c.column (c.taken rest), rest⟩

/-- The cursor moved past so many characters. -/
def drop (n : Nat) (c : Cursor) : Cursor :=
  c.moveTo (c.rest.drop n)

/-- The cursor moved past the blanks of its line. -/
def skipSpaces (c : Cursor) : Cursor :=
  c.moveTo (c.rest.dropWhile isSpace)

/-- Nothing but a comment may be left of the line. -/
def lineDone (c : Cursor) : Bool :=
  c.rest.head?.all fun d => d == '\n' || d == '#'

/-- Moves past blanks, line breaks and comments. A tab must not indent a line, except inside
brackets: `tabs` says whether one may stand here. -/
def skipGap (inFlow : Bool) (tabs inComment : Bool) (column : Nat) : List Char → Option Cursor
  | [] => some ⟨column, []⟩
  | c :: rest =>
      if c = '\n' then skipGap inFlow inFlow false 0 rest
      else if inComment || c = ' ' then skipGap inFlow tabs inComment (column + 1) rest
      else if c = '\t' then
        if tabs then skipGap inFlow tabs false (column + 1) rest else none
      else if c = '#' then skipGap inFlow tabs true (column + 1) rest
      else some ⟨column, c :: rest⟩

/-- The next character inside brackets that is no blank, line break or part of a comment. -/
def nextInFlow (c : Cursor) : Option Cursor :=
  skipGap true true false c.column c.rest

/-- The next such character of a block, behind a node or a colon. -/
def next (c : Cursor) : Option Cursor :=
  skipGap false true false c.column c.rest

/-- The next such character of a block, where a node may begin already. -/
def nextNode (c : Cursor) : Option Cursor :=
  skipGap false false false c.column c.rest

/-- A line ends between the cursor and a later one. -/
def breaksBefore (c later : Cursor) : Bool :=
  (c.taken later.rest).contains '\n'

/-- A colon that parts a key from its value in a block. -/
def atColon (c : Cursor) : Bool :=
  match c.rest with
  | ':' :: rest => gapFollows rest
  | _ => false

/-- A dash that begins an item of a block sequence. -/
def atDash (c : Cursor) : Bool :=
  match c.rest with
  | '-' :: rest => gapFollows rest
  | _ => false

end Cursor

/-- A mapping, unless a key is repeated. -/
def mappingOf? (entries : List (Yaml × Yaml)) : Option Yaml :=
  if distinctKeys entries then some (.mapping entries) else none

/-! ## Scalars and brackets -/

/-- A scalar that begins at the cursor. -/
def readScalar (inFlow : Bool) (floor : Nat) (c : Cursor) : Option (Yaml × Cursor) :=
  match c.rest with
  | '"' :: rest =>
      (doubleQuoted .none rest).map fun (t, r) => (.string (String.ofList t), c.moveTo r)
  | '\'' :: rest =>
      (singleQuoted .none rest).map fun (t, r) => (.string (String.ofList t), c.moveTo r)
  | cs =>
      if beginsPlain inFlow cs then
        let (t, r) := plainText inFlow floor c.column .none false cs cs
        match inFlow, r with
        | true, ':' :: d :: _ =>
            if isFlowSign d then none else (ofPlain? t).map fun y => (y, c.moveTo r)
        | _, _ => (ofPlain? t).map fun y => (y, c.moveTo r)
      else none

mutual

/-- A scalar, or a sequence or mapping in brackets, that begins at the cursor. -/
def readInline (inFlow : Bool) (floor : Nat) : Nat → Cursor → Option (Yaml × Cursor)
  | 0, _ => none
  | room + 1, c => match c.rest with
    | '[' :: _ => do
        let c ← (c.drop 1).nextInFlow
        let (items, c) ← readItems room c
        some (.sequence items, c)
    | '\x7b' :: _ => do
        let c ← (c.drop 1).nextInFlow
        let (entries, c) ← readEntries room c
        let y ← mappingOf? entries
        some (y, c)
    | _ => readScalar inFlow floor c

/-- The items up to the closing bracket. An item with a value behind a colon is a mapping of one
entry. -/
def readItems : Nat → Cursor → Option (List Yaml × Cursor)
  | 0, _ => none
  | room + 1, c => match c.rest with
    | ']' :: _ => some ([], c.drop 1)
    | _ => do
        let (item, after) ← readInline true 0 room c
        let after ← after.nextInFlow
        let (item, c) ← match after.rest with
          | ':' :: _ => do
              let (value, c) ← readFlowValue c room after
              some (.mapping [(item, value)], c)
          | _ => some (item, after)
        match c.rest with
        | ',' :: _ => do
            let c ← (c.drop 1).nextInFlow
            let (items, c) ← readItems room c
            some (item :: items, c)
        | ']' :: _ => some ([item], c.drop 1)
        | _ => none

/-- The entries up to the closing brace. A key may stand without a value. -/
def readEntries : Nat → Cursor → Option (List (Yaml × Yaml) × Cursor)
  | 0, _ => none
  | room + 1, c => match c.rest with
    | '\x7d' :: _ => some ([], c.drop 1)
    | _ => do
        let (key, after) ← readInline true 0 room c
        let after ← after.nextInFlow
        let (value, c) ← match after.rest with
          | ':' :: _ => readFlowValue c room after
          | _ => some (.null, after)
        match c.rest with
        | ',' :: _ => do
            let c ← (c.drop 1).nextInFlow
            let (entries, c) ← readEntries room c
            some ((key, value) :: entries, c)
        | '\x7d' :: _ => some ([(key, value)], c.drop 1)
        | _ => none

/-- The value behind a colon in brackets, and the place of the sign that follows it. The key stands
on one line with the colon. -/
def readFlowValue (key : Cursor) : Nat → Cursor → Option (Yaml × Cursor)
  | 0, _ => none
  | room + 1, colon =>
      if key.breaksBefore colon then none
      else do
        let c ← (colon.drop 1).nextInFlow
        match c.rest with
        | ',' :: _ => some (.null, c)
        | ']' :: _ => some (.null, c)
        | '\x7d' :: _ => some (.null, c)
        | _ => do
            let (value, c) ← readInline true 0 room c
            let c ← c.nextInFlow
            some (value, c)

end

/-! ## Blocks -/

/-- A scalar or bracketed node that may turn out to be a key: the node, whether it is one, and the
place behind it or behind its colon. A key stands on one line. -/
def readKeyOrNode (floor room : Nat) (c : Cursor) : Option (Yaml × Bool × Cursor) := do
  let (node, after) ← readInline false floor room c
  let colon := after.skipSpaces
  if colon.atColon then
    if c.breaksBefore after then none else some (node, true, colon.drop 1)
  else some (node, false, after)

mutual

/-- The node of a block that begins at the cursor; all of its lines begin at `floor` or further
right. -/
def readBlock (floor : Nat) : Nat → Cursor → Option (Yaml × Cursor)
  | 0, _ => none
  | room + 1, c =>
      if c.atDash then do
        let (items, c') ← readBlockItems c.column room c
        some (.sequence items, c')
      else do
        let (node, isKey, after) ← readKeyOrNode floor room c
        if isKey then do
          let (entries, c') ← readBlockEntries c.column room node after
          let y ← mappingOf? entries
          some (y, c')
        else some (node, after)

/-- The items of a sequence whose dashes stand in `column`; the cursor is at a dash. -/
def readBlockItems (column : Nat) : Nat → Cursor → Option (List Yaml × Cursor)
  | 0, _ => none
  | room + 1, c => do
      let start ← (c.drop 1).nextNode
      let (item, c) ←
        if start.atEnd || start.column ≤ column then some (Yaml.null, start)
        else readBlock (column + 1) room start
      let c ← c.next
      if c.atDash && c.column = column then do
        let (items, c) ← readBlockItems column room c
        some (item :: items, c)
      else some ([item], c)

/-- The entries of a mapping whose keys stand in `column`, from behind the colon of the first. -/
def readBlockEntries (column : Nat) : Nat → Yaml → Cursor → Option (List (Yaml × Yaml) × Cursor)
  | 0, _, _ => none
  | room + 1, key, c => do
      let (value, c) ← readBlockValue column room c
      let c ← c.next
      if !c.atEnd && c.column = column then do
        let (next, isKey, c) ← readKeyOrNode (column + 1) room c
        if isKey then do
          let (entries, c) ← readBlockEntries column room next c
          some ((key, value) :: entries, c)
        else none
      else some ([(key, value)], c)

/-- The value behind a colon. On the line of its key stands a scalar or a bracketed node; on lines of
its own any block that begins further right, or a sequence in the column of the key. -/
def readBlockValue (column : Nat) : Nat → Cursor → Option (Yaml × Cursor)
  | 0, _ => none
  | room + 1, c =>
      let line := c.skipSpaces
      if line.lineDone then do
        let start ← line.next
        if start.atEnd then some (.null, start)
        else if column < start.column then readBlock (column + 1) room start
        else if start.column = column && start.atDash then do
          let (items, c) ← readBlockItems column room start
          some (.sequence items, c)
        else some (.null, start)
      else readInline false (column + 1) room line

end

/-! ## Documents -/

/-- Characters that may stand in a document. -/
def isAllowed (c : Char) : Bool :=
  let n := c.toNat
  c == '\t' || c == '\n' || (0x20 ≤ n && n ≤ 0x7e) || n == 0x85 ||
    (0xa0 ≤ n && n ≤ 0xfffd && n != 0xfeff) || 0x10000 ≤ n

/-- All line breaks in one form. -/
def unifyBreaks : List Char → List Char
  | [] => []
  | '\r' :: '\n' :: rest => '\n' :: unifyBreaks rest
  | '\r' :: rest => '\n' :: unifyBreaks rest
  | '\x85' :: rest => '\n' :: unifyBreaks rest
  | c :: rest => c :: unifyBreaks rest

/-- The place behind the line of dashes that a document may begin with. -/
def skipHeader (c : Cursor) : Cursor :=
  match c.column, c.rest with
  | 0, '-' :: '-' :: '-' :: rest => if gapFollows rest then c.moveTo rest else c
  | _, _ => c

/-- Collections inside one another, at most. -/
def maxDepth : Nat := 128

/-- The document that a text is; a text without any is null. A byte order mark may precede it. -/
def parse? (text : String) : Option Yaml := do
  let cs := unifyBreaks ((Text.stripStart? ['\ufeff'] text.toList).getD text.toList)
  if !cs.all isAllowed then none
  else do
    let c ← Cursor.nextNode ⟨0, cs⟩
    let c ← (skipHeader c).next
    if c.atEnd then some .null
    else do
      let (y, c) ← readBlock 0 (4 * cs.length + 8) c
      let c ← c.next
      if c.atEnd && y.nestsWithin maxDepth then some y else none

/-- The same as a reader for catalogues. -/
def read (text : String) : Except String Yaml :=
  match parse? text with
  | none => .error "the text is not of the part of YAML that is read"
  | some y => .ok y

end Cohort.Yaml
