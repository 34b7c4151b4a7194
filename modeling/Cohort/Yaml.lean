import Cohort.Json.Writer

/-! # YAML documents

Definitions are written by hand, and YAML is easier to write than JSON. A YAML document differs from
a JSON one in that the keys of a mapping may be of any kind, and that a part of it may carry a tag.
It can be used where a document is expected when all its keys have a text. -/

namespace Cohort

/-- A YAML document; the entries of a mapping are in the order of the text. -/
inductive Yaml where
  | null
  | bool (b : Bool)
  | number (n : JsonNumber)
  | string (s : String)
  | sequence (items : List Yaml)
  | mapping (entries : List (Yaml × Yaml))
  /-- A part with a tag, which is written `!tag` in front of it. -/
  | tagged (tag : String) (y : Yaml)
deriving Repr, Inhabited, BEq

namespace Yaml

/-- The document is a mapping, with or without a tag. -/
def isMapping : Yaml → Bool
  | .mapping _ => true
  | .tagged _ y => y.isMapping
  | _ => false

/-- A number that has a form in JSON. -/
def numberJson : JsonNumber → Json
  | .whole n => Json.whole n
  | .float x => if x.isFinite then Json.float x else .null

/-- The text of a key: null, infinite numbers and keys with parts have none. -/
def keyText? : Yaml → Option String
  | .bool b => some (if b then "true" else "false")
  | .number (.whole n) => some (toString n)
  | .number (.float x) => if x.isFinite then some (JsonNumber.float x).text else none
  | .string s => some s
  | _ => none

mutual

/-- The same document in JSON, if all keys have a text. A part with a tag becomes an object with the
tag as its only member. -/
def toJson? : Yaml → Option Json
  | .null => some .null
  | .bool b => some (.bool b)
  | .number n => some (numberJson n)
  | .string s => some (.string s)
  | .sequence items => (toItems? items).map .array
  | .mapping entries => (toMembers? entries).map Json.ofMembers
  | .tagged tag y => (toJson? y).map fun v => .object [("!" ++ tag, v)]

/-- The items of a sequence in JSON. -/
def toItems? : List Yaml → Option (List Json)
  | [] => some []
  | y :: rest => match toJson? y with
    | none => none
    | some v => (toItems? rest).map (v :: ·)

/-- The entries of a mapping in JSON. -/
def toMembers? : List (Yaml × Yaml) → Option (List (String × Json))
  | [] => some []
  | (k, y) :: rest => match keyText? k, toJson? y with
    | some name, some v => (toMembers? rest).map ((name, v) :: ·)
    | _, _ => none

end

mutual

/-- There are at most so many collections inside one another. -/
def nestsWithin (room : Nat) : Yaml → Bool
  | .sequence items => room != 0 && itemsNestWithin (room - 1) items
  | .mapping entries => room != 0 && entriesNestWithin (room - 1) entries
  | .tagged _ y => nestsWithin room y
  | _ => true

/-- The same of every item. -/
def itemsNestWithin (room : Nat) : List Yaml → Bool
  | [] => true
  | y :: rest => nestsWithin room y && itemsNestWithin room rest

/-- The same of every key and value. -/
def entriesNestWithin (room : Nat) : List (Yaml × Yaml) → Bool
  | [] => true
  | (k, y) :: rest => nestsWithin room k && nestsWithin room y && entriesNestWithin room rest

end

/-- No two entries have the same key. -/
def distinctKeys : List (Yaml × Yaml) → Bool
  | [] => true
  | (k, _) :: rest => !rest.any (·.1 == k) && distinctKeys rest

end Yaml

end Cohort
