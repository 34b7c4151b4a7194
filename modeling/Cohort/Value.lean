import Cohort.Json
import Cohort.Decimal.Layout
import Cohort.Decimal.Reader

/-! # Values of rules

Request context, constants of a test and everything a rule computes on the way are values. A value
is read from a document without a declaration: a whole number that fits sixty-four bits is an
integer, and any other number is a float. -/

namespace Cohort

/-- A value; the entries of a map are in the order of their names. -/
inductive Value where
  | null
  | bool (b : Bool)
  | int (n : Int64)
  | float (x : Float)
  | string (s : String)
  | list (items : List Value)
  | map (entries : List (String × Value))
deriving Repr, Inhabited

/-- What a value is, as messages name it. -/
inductive Kind where
  | null
  | boolean
  | integer
  | float
  | string
  | list
  | map
deriving Repr, DecidableEq

/-- The name of a kind. -/
def Kind.name : Kind → String
  | .null => "null"
  | .boolean => "boolean"
  | .integer => "integer"
  | .float => "float"
  | .string => "string"
  | .list => "list"
  | .map => "map"

namespace Value

/-- The kind of a value. -/
def kind : Value → Kind
  | .null => .null
  | .bool _ => .boolean
  | .int _ => .integer
  | .float _ => .float
  | .string _ => .string
  | .list _ => .list
  | .map _ => .map

/-- The value is null. -/
def isNull : Value → Bool
  | .null => true
  | _ => false

/-- The text of a string. -/
def string? : Value → Option String
  | .string s => some s
  | _ => none

/-! ## Display

Messages and the text functions of rules show values in this form; strings are not quoted. -/

/-- Texts with `", "` between them. -/
def commaSeparated : List String → String
  | [] => ""
  | [a] => a
  | a :: b :: rest => a ++ ", " ++ commaSeparated (b :: rest)

mutual

/-- A value as messages show it. -/
def display : Value → String
  | .null => "null"
  | .bool b => if b then "true" else "false"
  | .int n => toString n.toInt
  | .float x => Decimal.messageLayout.text x
  | .string s => s
  | .list items => "[" ++ commaSeparated (displayItems items) ++ "]"
  | .map entries => "\x7b" ++ commaSeparated (displayEntries entries) ++ "\x7d"

/-- The items of a list, each as messages show it. -/
def displayItems : List Value → List String
  | [] => []
  | v :: rest => display v :: displayItems rest

/-- The entries of a map, each as `name=value`. -/
def displayEntries : List (String × Value) → List String
  | [] => []
  | (k, v) :: rest => (k ++ "=" ++ display v) :: displayEntries rest

end

/-! ## Sameness

Two lists, or two maps, are compared as a whole. Numbers of different kinds are then never the
same, and a float is compared as a number: a NaN is not the same as itself. -/

mutual

/-- The values are the same, part by part. -/
def same : Value → Value → Bool
  | .null, .null => true
  | .bool a, .bool b => a == b
  | .int a, .int b => a == b
  | .float a, .float b => a == b
  | .string a, .string b => a == b
  | .list a, .list b => sameItems a b
  | .map a, .map b => sameEntries a b
  | _, _ => false

/-- The lists have the same items. -/
def sameItems : List Value → List Value → Bool
  | [], [] => true
  | a :: as, b :: bs => same a b && sameItems as bs
  | _, _ => false

/-- The maps have the same entries. -/
def sameEntries : List (String × Value) → List (String × Value) → Bool
  | [], [] => true
  | (k, a) :: as, (l, b) :: bs => k == l && (same a b && sameEntries as bs)
  | _, _ => false

end

/-! ## Documents -/

/-- A number of a document as a value. -/
def ofNumber : JsonNumber → Value
  | .whole n => match Decimal.fit64? n with
    | some i => .int i
    | none => .float (Float.ofInt n)
  | .float x => .float x

mutual

/-- The value that a document holds. -/
def ofJson : Json → Value
  | .null => .null
  | .bool b => .bool b
  | .number n => ofNumber n
  | .string s => .string s
  | .array items => .list (ofItems items)
  | .object members => .map (ofMembers members)

/-- The items of an array as values. -/
def ofItems : List Json → List Value
  | [] => []
  | v :: rest => ofJson v :: ofItems rest

/-- The members of an object as values. -/
def ofMembers : List (String × Json) → List (String × Value)
  | [] => []
  | (k, v) :: rest => (k, ofJson v) :: ofMembers rest

end

mutual

/-- The document of a value. -/
def toJson : Value → Json
  | .null => .null
  | .bool b => .bool b
  | .int n => .number (.whole n.toInt)
  | .float x => if x.isFinite then .number (.float x) else .null
  | .string s => .string s
  | .list items => .array (toItems items)
  | .map entries => .object (toMembers entries)

/-- The items of a list as documents. -/
def toItems : List Value → List Json
  | [] => []
  | v :: rest => toJson v :: toItems rest

/-- The entries of a map as documents. -/
def toMembers : List (String × Value) → List (String × Json)
  | [] => []
  | (k, v) :: rest => (k, toJson v) :: toMembers rest

end

end Value

/-! ## Contexts -/

/-- The variables that one request brings along. -/
abbrev Context := NameMap Value

/-- The variables as `name=value`, in the order of these texts. -/
def Context.display (c : Context) : String :=
  Value.commaSeparated
    ((c.entries.map fun e => e.1 ++ "=" ++ e.2.display).mergeSort fun a b => decide (a ≤ b))

end Cohort
