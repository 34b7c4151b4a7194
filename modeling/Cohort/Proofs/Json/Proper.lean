import Cohort.Proofs.Decimal.Rounding
import Cohort.Proofs.Json.Hereditary

/-! # Numbers of documents

    A document holds whole numbers of sixty-four bits, with a sign or without
    one, and finite floats; infinity and not-a-number cannot be written down.
    Whatever is decoded from such a document and written again is such a
    document, since a whole number that is read as a float stays finite. -/

namespace Cohort

/-- A number that a document can hold. -/
def JsonNumber.isProper : JsonNumber → Bool
  | .whole n => decide (-Int.pow 2 63 ≤ n) && decide (n < Int.pow 2 64)
  | .float x => x.isFinite

namespace Json

mutual

/-- All numbers are such that a document can hold them. -/
def isProper : Json → Bool
  | .null => true
  | .bool _ => true
  | .number n => n.isProper
  | .string _ => true
  | .array items => areProper items
  | .object members => haveProper members

/-- The same of all items of an array. -/
def areProper : List Json → Bool
  | [] => true
  | v :: rest => v.isProper && areProper rest

/-- The same of all members of an object. -/
def haveProper : List (String × Json) → Bool
  | [] => true
  | (_, v) :: rest => v.isProper && haveProper rest

end

/-! ## Arrays and objects -/

theorem isProper_array_iff {items : List Json} :
    (array items).isProper = true ↔ ∀ v ∈ items, v.isProper = true := by
  rw [isProper]
  induction items with
  | nil => exact ⟨fun _ => nofun, fun _ => rfl⟩
  | cons v rest ih => rw [areProper, Bool.and_eq_true, ih, List.forall_mem_cons]

theorem isProper_object_iff {members : List (String × Json)} :
    (object members).isProper = true ↔ ∀ m ∈ members, m.2.isProper = true := by
  rw [isProper]
  induction members with
  | nil => exact ⟨fun _ => nofun, fun _ => rfl⟩
  | cons m rest ih => rw [haveProper, Bool.and_eq_true, ih, List.forall_mem_cons]

theorem isProper_ofMap_iff {m : NameMap Json} :
    (ofMap m).isProper = true ↔ ∀ name v, m.get? name = some v → v.isProper = true := by
  rw [ofMap, isProper_object_iff]
  constructor
  · exact fun h name v hv => h (name, v) (NameMap.get?_eq_some_iff.mp hv)
  · exact fun h e he => h e.1 e.2 (NameMap.get?_eq_some_iff.mpr he)

/-! ## Numbers -/

theorem isProper_int64 (n : Int64) : (Json.whole n.toInt).isProper = true := by
  have hle := n.le_toInt
  have hlt := n.toInt_lt
  refine Bool.and_eq_true_iff.mpr ⟨decide_eq_true hle, decide_eq_true (Int.lt_trans hlt ?_)⟩
  decide

theorem isProper_whole_iff {n : Int} :
    (Json.whole n).isProper = true ↔ -2 ^ 63 ≤ n ∧ n < 2 ^ 64 := by
  show (decide (-Int.pow 2 63 ≤ n) && decide (n < Int.pow 2 64)) = true ↔ _
  rw [Bool.and_eq_true, decide_eq_true_iff, decide_eq_true_iff]
  exact Iff.rfl

/-- A number that is read as a float is finite. -/
theorem isFinite_of_float? {v : Json} {x : Float} (hv : v.isProper = true)
    (h : float? v = some x) : x.isFinite = true := by
  cases v with
  | number n =>
      cases n with
      | whole n =>
          obtain ⟨hle, hlt⟩ := isProper_whole_iff.mp hv
          rw [← Option.some.inj h]
          exact Decimal.isFinite_ofInt hle hlt
      | float y =>
          rw [← Option.some.inj h]
          exact hv
  | _ => exact nomatch h

end Json

/-! ## Values -/

namespace Value

open Json (areProper haveProper)

mutual

/-- Every value is written as a document. -/
theorem isProper_toJson : ∀ v : Value, v.toJson.isProper = true
  | .null => rfl
  | .bool _ => rfl
  | .int n => Json.isProper_int64 n
  | .float x => by
      rw [toJson]
      split
      · next hfinite => exact hfinite
      · rfl
  | .string _ => rfl
  | .list items => areProper_toItems items
  | .map entries => haveProper_toMembers entries

theorem areProper_toItems : ∀ items : List Value, areProper (toItems items) = true
  | [] => rfl
  | v :: rest => Bool.and_eq_true_iff.mpr ⟨isProper_toJson v, areProper_toItems rest⟩

theorem haveProper_toMembers : ∀ entries : List (String × Value),
    haveProper (toMembers entries) = true
  | [] => rfl
  | (_, v) :: rest => Bool.and_eq_true_iff.mpr ⟨isProper_toJson v, haveProper_toMembers rest⟩

end

end Value

namespace Json

/-- Whatever is read from a proper document is written as one. -/
theorem hereditary_isProper : Hereditary fun v => v.isProper = true where
  bool _ := rfl
  string _ := rfl
  int64 := isProper_int64
  float := isFinite_of_float?
  array := isProper_array_iff
  member h hmem := isProper_object_iff.mp h _ hmem
  ofMap := isProper_ofMap_iff.mpr
  value _ := (Value.ofJson _).isProper_toJson

end Json

end Cohort
