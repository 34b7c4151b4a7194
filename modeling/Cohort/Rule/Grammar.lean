import Cohort.Rule.Expr
import Cohort.Rule.Lexer

/-! # Reading a rule

From loose to tight: the conditional, `||`, `&&`, equality, order, sums, products, the operators in
front of one operand, and access by `.name` and `[key]`. Binary operators lean to the left.

Each reader takes the tokens at the front that belong to it and returns the rest. It reads in a
room, which is the number of levels that it may still take: a conditional, an operator and an access
take one level each, also when they stand in a chain. What was taken is given back at the end of each
chain, so the chains of different levels around one operand do not share their room. Where the room
is used up, the rule nests too deeply. -/

namespace Cohort.Rule

/-! ## Binary operators -/

/-- The levels of binary operators. -/
inductive Level where
  | or
  | and
  | equality
  | order
  | sum
  | product
deriving Repr, DecidableEq

/-- All levels, from loose to tight. -/
def Level.all : List Level := [.or, .and, .equality, .order, .sum, .product]

/-- The tree of an operator over its two operands, when it belongs to the level. -/
def Level.node? : Level → Operator → Option (Expr → Expr → Expr)
  | .or, .either => some .or
  | .and, .both => some .and
  | .equality, .equal => some (.binary .equal)
  | .equality, .notEqual => some (.binary .notEqual)
  | .order, .less => some (.binary .less)
  | .order, .greater => some (.binary .greater)
  | .order, .lessEqual => some (.binary .lessEqual)
  | .order, .greaterEqual => some (.binary .greaterEqual)
  | .sum, .plus => some (.binary .add)
  | .sum, .minus => some (.binary .subtract)
  | .product, .times => some (.binary .multiply)
  | .product, .divide => some (.binary .divide)
  | .product, .modulo => some (.binary .modulo)
  | _, _ => none

/-- The operator at the front with its tree, when it belongs to the level. -/
def Level.front? (level : Level) : List Token → Option ((Expr → Expr → Expr) × List Token)
  | .op o :: rest => (level.node? o).map fun node => (node, rest)
  | _ => none

/-! ## Operators in front of one operand -/

/-- The tree of an operator over its one operand. -/
def unary? : Operator → Option UnaryOp
  | .not => some .not
  | .minus => some .negate
  | .empty => some .empty
  | _ => none

/-- The operator in front, when it is one that takes one operand. -/
def unaryFront? : List Token → Option (UnaryOp × List Token)
  | .op o :: rest => (unary? o).map fun op => (op, rest)
  | _ => none

/-! ## Names -/

/-- What a name means by itself. -/
def nameAlone (name : String) : Expr :=
  if name = "true" then .literal (.bool true)
  else if name = "false" then .literal (.bool false)
  else if name = "null" then .literal .null
  else .variable name

/-- The function that a call at the front calls, and the tokens behind its opening parenthesis. The
tokens come after a name: `name(` and `name:function(` are calls, even where a colon could go on
with a conditional. -/
def callFront? (name : String) : List Token → Option (String × List Token)
  | .colon :: .name function :: .openParen :: rest => some (name ++ ":" ++ function, rest)
  | .openParen :: rest => some (name, rest)
  | _ => none

/-- The room that a rule is read in. -/
def maxDepth : Nat := 128

/-- What a reader finds: an expression and the tokens behind it. -/
abbrev Reading := Except Malformed (Expr × List Token)

/-- The tokens behind the wanted one. -/
def expect (wanted : Token) : List Token → Except Malformed (List Token)
  | t :: rest => if t = wanted then .ok rest else .error (.expected wanted (some t))
  | [] => .error (.expected wanted none)

/-! ## The readers

The readers of one room are built from those of the room below: whatever takes a level goes on there.
In the least room nothing is below, and what would take a level nests too deeply. -/

/-- The readers of one room, as the room above needs them. -/
structure Readers where
  /-- Operands of some levels with their operators. -/
  binary : List Level → List Token → Reading
  /-- The operators of one level behind an operand. -/
  chain : Level → List Level → Expr → List Token → Reading
  /-- Operators in front of one operand. -/
  prefixed : List Token → Reading
  /-- Accesses behind their base. -/
  access : Expr → List Token → Reading
  /-- A conditional. -/
  conditional : List Token → Reading

/-- Goes on in the room below, if there is one. -/
def descend {α : Type} (below : Option Readers) (read : Readers → Except Malformed α) :
    Except Malformed α :=
  match below with
  | none => .error .tooDeep
  | some r => read r

/-- A conditional, or what may be its condition. -/
def readConditional (below : Option Readers) (ts : List Token) : Reading :=
  descend below fun r => do
    let (condition, ts) ← r.binary Level.all ts
    match ts with
    | .question :: ts => do
        let (yes, ts) ← r.conditional ts
        let ts ← expect .colon ts
        let (no, ts) ← r.conditional ts
        .ok (.conditional condition yes no, ts)
    | ts => .ok (condition, ts)

/-- One argument or more, with the closing parenthesis behind them. An argument takes a token at
least, so there are not more of them than tokens. -/
def readArguments (conditional : List Token → Reading) :
    Nat → List Token → Except Malformed (List Expr × List Token)
  | 0, _ => .error .expectedSeparator
  | most + 1, ts => do
      let (first, ts) ← conditional ts
      match ts with
      | .comma :: ts => do
          let (others, ts) ← readArguments conditional most ts
          .ok (first :: others, ts)
      | .closeParen :: ts => .ok ([first], ts)
      | _ => .error .expectedSeparator

/-- A literal, a variable, a call or an expression in parentheses. -/
def readPrimary (conditional : List Token → Reading) (ts : List Token) : Reading :=
  match ts with
  | [] => .error .unexpectedEnd
  | .int n :: ts => .ok (.literal (.int n), ts)
  | .float x :: ts => .ok (.literal (.float x), ts)
  | .text s :: ts => .ok (.literal (.string s), ts)
  | .openParen :: ts => do
      let (inner, ts) ← conditional ts
      let ts ← expect .closeParen ts
      .ok (inner, ts)
  | .openBracket :: _ => .error .listLiteral
  | .name name :: ts =>
      match callFront? name ts with
      | some (function, .closeParen :: ts) => .ok (.call function [], ts)
      | some (function, ts) => do
          let (arguments, ts) ← readArguments conditional (ts.length + 1) ts
          .ok (.call function arguments, ts)
      | none => .ok (nameAlone name, ts)
  | t :: _ => .error (.unexpected t)

/-- Accesses behind their base. -/
def readAccess (below : Option Readers) (base : Expr) (ts : List Token) : Reading :=
  match ts with
  | .dot :: ts => descend below fun r =>
      match ts with
      | .name name :: ts => r.access (.property base name) ts
      | _ => .error .expectedProperty
  | .openBracket :: ts => descend below fun r => do
      let (key, ts) ← r.conditional ts
      let ts ← expect .closeBracket ts
      r.access (.index base key) ts
  | ts => .ok (base, ts)

/-- Operators in front of one operand. -/
def readPrefixed (below : Option Readers) (ts : List Token) : Reading :=
  match unaryFront? ts with
  | some (op, ts) => descend below fun r => do
      let (operand, ts) ← r.prefixed ts
      .ok (.unary op operand, ts)
  | none => do
      let (base, ts) ← readPrimary (readConditional below) ts
      readAccess below base ts

/-- The operators of one level behind an operand, from the left. -/
def readChain (below : Option Readers) (level : Level) (tighter : List Level) (left : Expr)
    (ts : List Token) : Reading :=
  match level.front? ts with
  | none => .ok (left, ts)
  | some (node, ts) => descend below fun r => do
      let (right, ts) ← r.binary tighter ts
      r.chain level tighter (node left right) ts

/-- An operand of the first level with the operators of that level behind it; without a level, an
operand of them all. -/
def readBinary (below : Option Readers) : List Level → List Token → Reading
  | [], ts => readPrefixed below ts
  | level :: tighter, ts => do
      let (left, ts) ← readBinary below tighter ts
      readChain below level tighter left ts

/-- The readers above those of the room below. -/
def Readers.above (below : Option Readers) : Readers where
  binary := readBinary below
  chain := readChain below
  prefixed := readPrefixed below
  access := readAccess below
  conditional := readConditional below

/-- The readers of a room. -/
def readers : Nat → Readers
  | 0 => Readers.above none
  | room + 1 => Readers.above (some (readers room))

/-! ## Rules -/

/-- The text between the delimiters, without the blanks around it. -/
def body? (rule : String) : Option String :=
  ((Text.stripStart? ['$', '\x7b'] (Text.trimChars rule.toList)).bind
    (Text.stripEnd? ['\x7d'])).map fun cs => String.ofList (Text.trimChars cs)

/-- The expression that a list of tokens is, from the first token to the last. -/
def Expr.ofTokens (ts : List Token) : Except Malformed Expr := do
  let (e, rest) ← (readers maxDepth).conditional ts
  match rest with
  | [] => .ok e
  | t :: _ => .error (.unexpected t)

/-- The expression of a rule; nothing between the delimiters is always true. -/
def Expr.ofRule (rule : String) : Except Malformed Expr :=
  match body? rule with
  | none => .error .undelimited
  | some body =>
      if body.isEmpty then .ok (.literal (.bool true))
      else do
        let ts ← Token.readAll body.toList
        Expr.ofTokens ts

/-- Reads a rule; an error names the rule. -/
def parse (rule : String) : Except Error Expr :=
  match Expr.ofRule rule with
  | .ok e => .ok e
  | .error m => .error ⟨rule, .malformed m⟩

/-- No rule, or nothing but blanks: such a rule always passes. -/
def isBlank : Option String → Bool
  | none => true
  | some rule => Text.isBlankText rule

/-- The variables a rule reads. -/
def variableNames (rule : String) : Except Error NameSet :=
  if isBlank (some rule) then .ok .empty else (parse rule).map Expr.variableNames

end Cohort.Rule
