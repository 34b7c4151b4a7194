import Cohort.Proofs.Json.Decode
import Cohort.Value

/-! # What documents hand on

    What was read from a document is written as a document again, out of parts
    that the first one had and of names, words and numbers.  So there are
    properties that it has if the first one had them, whatever was read.  They
    are handed on from documents to their parts, and from parts to what is made
    up of them. -/

namespace Cohort.Json

/-- A property of documents that is handed on to what is written of them. -/
structure Hereditary (P : Json → Prop) : Prop where
  bool : ∀ b, P (.bool b)
  string : ∀ s, P (.string s)
  int64 : ∀ n : Int64, P (Json.whole n.toInt)
  /-- A number that is read as a float is written as one. -/
  float : ∀ {v x}, P v → float? v = some x → P (Json.float x)
  array : ∀ {items}, P (.array items) ↔ ∀ v ∈ items, P v
  member : ∀ {members name v}, P (.object members) → (name, v) ∈ members → P v
  ofMap : ∀ {m : NameMap Json}, (∀ name v, m.get? name = some v → P v) → P (ofMap m)
  /-- What is read as a value is written as one. -/
  value : ∀ {v}, P v → P (Value.ofJson v).toJson

theorem forall_mem_optionalMember {P : Json → Prop} {α : Type} {name : String} {e : α → Json}
    {o : Option α} :
    (∀ m ∈ optionalMember name e o, P m.2) ↔ ∀ a, o = some a → P (e a) := by
  cases o with
  | none => exact ⟨fun _ => nofun, fun _ => nofun⟩
  | some a => rw [optionalMember, List.forall_mem_singleton]; simp

namespace Hereditary

variable {P : Json → Prop} (hP : Hereditary P) {α : Type}

include hP

/-! ## What is made up -/

theorem int32 (n : Int32) : P (Json.whole n.toInt) :=
  Int32.toInt_toInt64 n ▸ hP.int64 n.toInt64

theorem ofMapWith {e : α → Json} {m : NameMap α}
    (h : ∀ name a, m.get? name = some a → P (e a)) : P (ofMapWith e m) := by
  refine hP.ofMap fun name v hv => ?_
  rw [NameMap.get?_map] at hv
  obtain ⟨a, ha, rfl⟩ := Option.map_eq_some_iff.mp hv
  exact h name a ha

/-- A record has it when its members do. -/
theorem ofMembers {members : List (String × Json)} (h : ∀ m ∈ members, P m.2) :
    P (ofMembers members) := by
  rw [ofMembers_eq]
  refine hP.ofMap fun name v hv => ?_
  rw [NameMap.get?_ofList] at hv
  exact h (name, v) (List.mem_reverse.mp (mem_of_lookup_eq_some hv))

/-- An object of one member has it when the member does. -/
theorem single {name : String} {v : Json} (h : P v) : P (.object [(name, v)]) :=
  hP.ofMembers (List.forall_mem_singleton.mpr h : ∀ m ∈ [(name, v)], P m.2)

/-- An array has it when its items do. -/
theorem map {e : α → Json} {xs : List α} (h : ∀ a ∈ xs, P (e a)) : P (Json.array (xs.map e)) := by
  refine hP.array.mpr fun v hv => ?_
  obtain ⟨a, ha, rfl⟩ := List.mem_map.mp hv
  exact h a ha

theorem ofNames (names : List String) : P (ofNames names) :=
  hP.map fun s _ => hP.string s

/-! ## What was read -/

section Read

variable {d : Decoder α} {v : Json}

/-- The members of a record have it, however the record is written. -/
theorem of_record? {fields : List String} {members : List (String × Json)} (hv : P v)
    (h : record? fields v = some members) {name : String} {w : Json}
    (hw : members.lookup name = some w) : P w := by
  have hmem := mem_of_lookup_eq_some hw
  cases v with
  | object ms =>
      cases h
      exact hP.member hv hmem
  | array items =>
      rw [record?] at h
      split at h
      · cases h
        exact hP.array.mp hv w (List.of_mem_zip hmem).2
      · exact nomatch h
  | _ => exact nomatch h

/-- The parts of a list that was read come from documents that have it. -/
theorem exists_of_list? {xs : List α} (hv : P v) (h : list? d v = some xs) {x : α}
    (hx : x ∈ xs) : ∃ w, P w ∧ d w = some x := by
  obtain ⟨items, rfl, hitems⟩ := exists_items_of_list? h
  obtain ⟨w, hw, hread⟩ := hitems x hx
  exact ⟨w, hP.array.mp hv w hw, hread⟩

/-- The values of a map that was read come from documents that have it. -/
theorem exists_of_map? {m : NameMap α} (hv : P v) (h : map? d v = some m) {name : String}
    {a : α} (ha : m.get? name = some a) : ∃ w, P w ∧ d w = some a := by
  obtain ⟨members, rfl, hmembers⟩ := exists_members_of_map? h
  obtain ⟨w, hw, hread⟩ := hmembers name a ha
  exact ⟨w, hP.member hv hw, hread⟩

end Read

end Hereditary

end Cohort.Json
