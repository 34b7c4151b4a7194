import Cohort.Json
import Cohort.Decimal.Reader

/-! # Decoding documents

A record is an object; fields it does not know are ignored. It may also be written as the array of
its fields in order, in which case the last ones may be left out like any field that may be absent.
Decoding fails or succeeds as a whole. -/

namespace Cohort.Json

/-- A way to read a value off a document. -/
abbrev Decoder (α : Type) := Json → Option α

/-- The members of a record with the given fields. -/
def record? (fields : List String) : Json → Option (List (String × Json))
  | .object members => some members
  | .array items => if items.length ≤ fields.length then some (fields.zip items) else none
  | _ => none

/-- A field that must be there. -/
def required (d : Decoder α) (members : List (String × Json)) (name : String) : Option α :=
  (members.lookup name).bind d

/-- A field that may be absent or null. -/
def optional (d : Decoder α) (members : List (String × Json)) (name : String) :
    Option (Option α) :=
  match members.lookup name with
  | none => some none
  | some .null => some none
  | some v => (d v).map some

/-- A field that may be absent, but not null. -/
def defaulted (d : Decoder α) (default : α) (members : List (String × Json)) (name : String) :
    Option α :=
  match members.lookup name with
  | none => some default
  | some v => d v

/-- A boolean. -/
def bool? : Decoder Bool
  | .bool b => some b
  | _ => none

/-- A whole number of thirty-two bits; `1.0` is none. -/
def int32? : Decoder Int32
  | .number (.whole n) => Decimal.fit32? n
  | _ => none

/-- A whole number of sixty-four bits; `1.0` is none. -/
def int64? : Decoder Int64
  | .number (.whole n) => Decimal.fit64? n
  | _ => none

/-- Any number, as a float. -/
def float? : Decoder Float
  | .number (.whole n) => some (Float.ofInt n)
  | .number (.float x) => some x
  | _ => none

/-- All items, each decoded. -/
def decodeItems (d : Decoder α) : List Json → Option (List α)
  | [] => some []
  | v :: rest => match d v with
    | none => none
    | some a => (decodeItems d rest).map (a :: ·)

/-- An array of equal items. -/
def list? (d : Decoder α) : Decoder (List α)
  | .array items => decodeItems d items
  | _ => none

/-- An array of strings, as a set. -/
def nameSet? : Decoder NameSet := fun v =>
  (list? string? v).map NameSet.ofList

/-- All members, each decoded. -/
def decodeMembers (d : Decoder α) : List (String × Json) → Option (List (String × α))
  | [] => some []
  | (k, v) :: rest => match d v with
    | none => none
    | some a => (decodeMembers d rest).map ((k, a) :: ·)

/-- An object of equal members. -/
def map? (d : Decoder α) : Decoder (NameMap α)
  | .object members => (decodeMembers d members).map NameMap.ofList
  | _ => none

/-! ## Encoding -/

/-- A member that is there only with a value. -/
def optionalMember (name : String) (e : α → Json) : Option α → List (String × Json)
  | none => []
  | some a => [(name, e a)]

/-- A set of names as an array. -/
def ofNameSet (s : NameSet) : Json :=
  ofNames s.toList

/-- A map as an object. -/
def ofMapWith (e : α → Json) (m : NameMap α) : Json :=
  ofMap (m.map e)

end Cohort.Json
