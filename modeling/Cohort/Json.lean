import Cohort.NameMap

/-! # JSON documents

Artifacts, definitions, payloads and context values all arrive and leave as JSON. A number is
either whole or floating-point, and which of the two it is decides how it compares and prints, so
the two are kept apart. The members of an object are in the order of their names. -/

namespace Cohort

/-- A number of a document: `1` is whole and `1.0` is not. -/
inductive JsonNumber where
  | whole (n : Int)
  | float (x : Float)
deriving Repr, DecidableEq

/-- A document. -/
inductive Json where
  | null
  | bool (b : Bool)
  | number (n : JsonNumber)
  | string (s : String)
  | array (items : List Json)
  | object (members : List (String × Json))
deriving Repr, Inhabited

namespace Json

/-- A whole number. -/
def whole (n : Int) : Json := .number (.whole n)

/-- A floating-point number. -/
def float (x : Float) : Json := .number (.float x)

/-- An object from members in any order; of two with one name the later counts. -/
def ofMembers (members : List (String × Json)) : Json :=
  .object (members.foldl (fun acc m => insertSorted Prod.fst m acc) [])

/-- The object of a map. -/
def ofMap (m : NameMap Json) : Json :=
  .object m.entries

/-- An array of strings. -/
def ofNames (names : List String) : Json :=
  .array (names.map .string)

/-- The value of a member, when there is one. -/
def member? : Json → String → Option Json
  | .object members, name => members.lookup name
  | _, _ => none

/-- The text of a string. -/
def string? : Json → Option String
  | .string s => some s
  | _ => none

/-- The items of an array. -/
def items? : Json → Option (List Json)
  | .array items => some items
  | _ => none

/-- The members of an object. -/
def members? : Json → Option (List (String × Json))
  | .object members => some members
  | _ => none

/-! ## Equality -/

mutual

/-- The documents are equal, decided part by part. -/
def decEq : (v w : Json) → Decidable (v = w)
  | .null, w => match w with
    | .null => isTrue rfl
    | .bool _ | .number _ | .string _ | .array _ | .object _ => isFalse nofun
  | .bool a, w => match w with
    | .bool b => decidable_of_iff (a = b) ⟨congrArg _, Json.bool.inj⟩
    | .null | .number _ | .string _ | .array _ | .object _ => isFalse nofun
  | .number a, w => match w with
    | .number b => decidable_of_iff (a = b) ⟨congrArg _, Json.number.inj⟩
    | .null | .bool _ | .string _ | .array _ | .object _ => isFalse nofun
  | .string a, w => match w with
    | .string b => decidable_of_iff (a = b) ⟨congrArg _, Json.string.inj⟩
    | .null | .bool _ | .number _ | .array _ | .object _ => isFalse nofun
  | .array a, w => match w with
    | .array b =>
      have := decEqItems a b
      decidable_of_iff (a = b) ⟨congrArg _, Json.array.inj⟩
    | .null | .bool _ | .number _ | .string _ | .object _ => isFalse nofun
  | .object a, w => match w with
    | .object b =>
      have := decEqMembers a b
      decidable_of_iff (a = b) ⟨congrArg _, Json.object.inj⟩
    | .null | .bool _ | .number _ | .string _ | .array _ => isFalse nofun

/-- The same of the items of two arrays. -/
def decEqItems : (as bs : List Json) → Decidable (as = bs)
  | [], [] => isTrue rfl
  | [], _ :: _ => isFalse nofun
  | _ :: _, [] => isFalse nofun
  | a :: as, b :: bs =>
    have := decEq a b
    have := decEqItems as bs
    decidable_of_iff (a = b ∧ as = bs) List.cons_eq_cons.symm

/-- The same of the members of two objects. -/
def decEqMembers : (as bs : List (String × Json)) → Decidable (as = bs)
  | [], [] => isTrue rfl
  | [], _ :: _ => isFalse nofun
  | _ :: _, [] => isFalse nofun
  | (k, a) :: as, (l, b) :: bs =>
    have := decEq a b
    have := decEqMembers as bs
    decidable_of_iff ((k = l ∧ a = b) ∧ as = bs) (by rw [List.cons_eq_cons, Prod.mk.injEq])

end

instance : DecidableEq Json := decEq

end Json

end Cohort
