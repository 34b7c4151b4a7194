import Cohort.Rule.Error
import Cohort.Rule.Expr
import Cohort.Decimal.Reader
import Cohort.Text.Class

/-! # Operations on values

Values are not converted in advance; each operation coerces its operands. As soon as one operand of
a comparison is a number both are read as numbers, so `'10'` is greater than `9` but not than `'9'`.
Whole numbers are computed exactly or not at all: a result that does not fit is an error. -/

namespace Cohort.Rule

/-! ## Coercions -/

/-- A number as arithmetic sees it. -/
inductive Number where
  | int (n : Int64)
  | float (x : Float)

/-- Any number as a float. -/
def Number.toFloat : Number → Float
  | .int n => Decimal.floatOf64 n
  | .float x => x

/-- A number, or a string that reads as one. -/
def number? : Value → Option Number
  | .int n => some (.int n)
  | .float x => some (.float x)
  | .string s =>
      let cs := Text.trimChars s.toList
      match Decimal.int64? cs with
      | some n => some (.int n)
      | none => (Decimal.float? cs).map .float
  | _ => none

/-- The value is a number itself. -/
def isNumber : Value → Bool
  | .int _ => true
  | .float _ => true
  | _ => false

/-- Null is false, and a string is true only when it reads `true`. -/
def truth : Value → Except Fault Bool
  | .bool b => .ok b
  | .null => .ok false
  | .string s => .ok (Text.equalsIgnoringAsciiCase (Text.trim s) "true")
  | v => .error (.noBoolean v.kind)

/-- Both operands as numbers; the left one is refused first. -/
def numbers (a b : Value) : Except Fault (Number × Number) :=
  match number? a, number? b with
  | some x, some y => .ok (x, y)
  | none, _ => .error (.noNumber a.display)
  | _, none => .error (.noNumber b.display)

/-! ## Comparison -/

/-- The order of two floats; none when one of them is not a number. -/
def floatOrder (x y : Float) : Option Ordering :=
  if x < y then some .lt
  else if y < x then some .gt
  else if x == y then some .eq
  else none

/-- The order of two numbers; whole ones are compared exactly. -/
def Number.order : Number → Number → Option Ordering
  | .int m, .int n => some (compare m.toInt n.toInt)
  | a, b => floatOrder a.toFloat b.toFloat

/-- Equality of two values. Null equals only null. -/
def areEqual (a b : Value) : Except Fault Bool :=
  match a, b with
  | .null, .null => .ok true
  | .null, _ => .ok false
  | _, .null => .ok false
  | a, b =>
      if isNumber a || isNumber b then
        (numbers a b).map fun (x, y) => x.order y == some .eq
      else match a, b with
        | .bool _, _ => truthsAgree a b
        | _, .bool _ => truthsAgree a b
        | .string s, .string t => .ok (s == t)
        | .list _, .list _ => .ok (a.same b)
        | .map _, .map _ => .ok (a.same b)
        | _, _ => .error (.incomparable a.kind b.kind)
where
  /-- Both values as booleans, compared. -/
  truthsAgree (a b : Value) : Except Fault Bool :=
    match truth a with
    | .error e => .error e
    | .ok x => (truth b).map fun y => x == y

/-- Equality that takes values without a common ground for different. -/
def looselyEqual (a b : Value) : Bool :=
  match areEqual a b with
  | .ok r => r
  | .error _ => false

/-- The order of two values; none beside null or a NaN. -/
def ordering (a b : Value) : Except Fault (Option Ordering) :=
  match a, b with
  | .null, _ => .ok none
  | _, .null => .ok none
  | a, b =>
      if isNumber a || isNumber b then (numbers a b).map fun (x, y) => x.order y
      else match a, b with
        | .string s, .string t => .ok (some (compare s t))
        | _, _ => .error (.unordered a.kind b.kind)

/-- A comparison holds only where there is an order. -/
def ordered (test : Ordering → Bool) (a b : Value) : Except Fault Value :=
  (ordering a b).map fun o => .bool (o.any test)

/-! ## Arithmetic -/

/-- A whole result, if it fits. -/
def exact (n : Int) : Except Fault Value :=
  match Decimal.fit64? n with
  | some i => .ok (.int i)
  | none => .error .overflow

/-- Null counts as zero. -/
def nullAsZero : Value → Value
  | .null => .int 0
  | v => v

/-- Arithmetic on whole numbers; the remainder has the sign of the dividend, and the one of the
least number by `-1` is refused like the quotient that goes with it. -/
def wholeArithmetic (op : BinaryOp) (m n : Int64) : Except Fault Value :=
  match op with
  | .add => exact (m.toInt + n.toInt)
  | .subtract => exact (m.toInt - n.toInt)
  | .multiply => exact (m.toInt * n.toInt)
  | .modulo =>
      if n.toInt = 0 then .error .divisionByZero
      else if m.toInt = -Int.pow 2 63 ∧ n.toInt = -1 then .error .overflow
      else exact (m.toInt.tmod n.toInt)
  | _ => .error .overflow

/-- Arithmetic on floats. -/
def floatArithmetic (op : BinaryOp) (x y : Float) : Value :=
  match op with
  | .add => .float (x + y)
  | .subtract => .float (x - y)
  | .multiply => .float (x * y)
  | _ => .float (Decimal.remainder x y)

/-- Sums, products, quotients and remainders. A quotient is always a float. -/
def arithmetic (op : BinaryOp) (a b : Value) : Except Fault Value :=
  match numbers (nullAsZero a) (nullAsZero b) with
  | .error e => .error e
  | .ok (x, y) =>
      if op = .divide then .ok (.float (x.toFloat / y.toFloat))
      else match x, y with
        | .int m, .int n => wholeArithmetic op m n
        | x, y => .ok (floatArithmetic op x.toFloat y.toFloat)

/-! ## The operators -/

/-- Null and everything without content. -/
def isEmpty : Value → Bool
  | .null => true
  | .string s => s.isEmpty
  | .list items => items.isEmpty
  | .map entries => entries.isEmpty
  | _ => false

/-- An operator on its operand. -/
def UnaryOp.apply (op : UnaryOp) (v : Value) : Except Fault Value :=
  match op with
  | .not => (truth v).map fun b => .bool (!b)
  | .empty => .ok (.bool (isEmpty v))
  | .negate => arithmetic .subtract (.int 0) v

/-- An operator on its operands. -/
def BinaryOp.apply (op : BinaryOp) (a b : Value) : Except Fault Value :=
  match op with
  | .equal => (areEqual a b).map .bool
  | .notEqual => (areEqual a b).map fun r => .bool (!r)
  | .less => ordered (· == .lt) a b
  | .greater => ordered (· == .gt) a b
  | .lessEqual => ordered (· != .gt) a b
  | .greaterEqual => ordered (· != .lt) a b
  | op => arithmetic op a b

/-- The entry under a name, null when there is none. -/
def entry (entries : List (String × Value)) (name : String) : Value :=
  (entries.lookup name).getD .null

/-- The property of a value; null has every property. -/
def property (base : Value) (name : String) : Except Fault Value :=
  match base with
  | .map entries => .ok (entry entries name)
  | .null => .ok .null
  | v => .error (.noProperty name v.kind)

/-- The item of a list at a position, null outside of the list. -/
def item (items : List Value) (n : Int64) : Value :=
  if n.toInt < 0 then .null else (items[n.toInt.toNat]?).getD .null

/-- The element of a value under a key. -/
def element (base key : Value) : Except Fault Value :=
  match base with
  | .list items => match number? key with
    | some (.int n) => .ok (item items n)
    | _ => .error (.badListIndex key.display)
  | .map entries => .ok (entry entries key.display)
  | .null => .ok .null
  | v => .error (.noIndex v.kind)

end Cohort.Rule
