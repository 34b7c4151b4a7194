/-! # Maps and sets of names

Tests, buckets, constants and payload fields are looked up by name and always shown in the order
of their names. Both structures keep their entries strictly increasing, so there is one
representation for each map and each set, and the order of an answer never depends on how it was
built. Names are compared by code points. -/

namespace Cohort

/-! ## Sorted insertion -/

/-- Puts an element at its place, in front of the greater ones; an element with the same name is
replaced. -/
def insertSorted {α : Type} (key : α → String) (x : α) : List α → List α
  | [] => [x]
  | y :: ys =>
      if key x < key y then x :: y :: ys
      else if key y < key x then y :: insertSorted key x ys
      else x :: ys

/-- Strictly increasing names. -/
def Increasing {α : Type} (key : α → String) (xs : List α) : Prop :=
  xs.Pairwise fun a b => key a < key b

/-- What is in the list afterwards was there before, or is the new element. -/
theorem mem_of_mem_insertSorted {α : Type} {key : α → String} {x z : α} {ys : List α}
    (h : z ∈ insertSorted key x ys) : z = x ∨ z ∈ ys := by
  induction ys with
  | nil => simpa [insertSorted] using h
  | cons y ys ih =>
      rw [insertSorted] at h
      split at h
      · simpa using h
      · split at h
        · rcases List.mem_cons.mp h with rfl | h
          · exact Or.inr (List.mem_cons_self)
          · exact (ih h).imp_right (List.mem_cons_of_mem _)
        · rcases List.mem_cons.mp h with rfl | h
          · exact Or.inl rfl
          · exact Or.inr (List.mem_cons_of_mem _ h)

/-- Two names neither of which precedes the other are equal. -/
theorem name_eq_of_not_lt {a b : String} (h₁ : ¬ a < b) (h₂ : ¬ b < a) : a = b :=
  String.le_antisymm h₂ h₁

/-- Insertion keeps the names increasing. -/
theorem Increasing.insertSorted {α : Type} {key : α → String} (x : α) {ys : List α}
    (h : Increasing key ys) : Increasing key (insertSorted key x ys) := by
  induction ys with
  | nil => exact List.pairwise_singleton _ _
  | cons y ys ih =>
      have hy : ∀ z ∈ ys, key y < key z := fun z hz => List.rel_of_pairwise_cons h hz
      rw [Cohort.insertSorted]
      split
      · next hlt =>
          refine List.Pairwise.cons (fun z hz => ?_) h
          rcases List.mem_cons.mp hz with rfl | hz
          · exact hlt
          · exact String.lt_trans hlt (hy z hz)
      · next hnlt =>
          split
          · next hgt =>
              refine List.Pairwise.cons (fun z hz => ?_) (ih h.of_cons)
              rcases mem_of_mem_insertSorted hz with rfl | hz
              · exact hgt
              · exact hy z hz
          · next hngt =>
              have he : key x = key y := name_eq_of_not_lt hnlt hngt
              exact List.Pairwise.cons (fun z hz => he ▸ hy z hz) h.of_cons

/-! ## Maps -/

/-- Values under distinct names, in the order of the names. -/
structure NameMap (α : Type) where
  entries : List (String × α)
  increasing : Increasing Prod.fst entries

namespace NameMap

variable {α β : Type}

/-- Equal entries make equal maps. -/
theorem ext {m n : NameMap α} (h : m.entries = n.entries) : m = n := by
  cases m; cases n; cases h; rfl

instance [DecidableEq α] : DecidableEq (NameMap α) := fun m n =>
  decidable_of_iff (m.entries = n.entries) ⟨ext, fun h => h ▸ rfl⟩

/-- The map without entries. -/
def empty : NameMap α := ⟨[], List.Pairwise.nil⟩

instance : Inhabited (NameMap α) := ⟨empty⟩

/-- Sets the value under a name. -/
def insert (m : NameMap α) (name : String) (value : α) : NameMap α :=
  ⟨insertSorted Prod.fst (name, value) m.entries, m.increasing.insertSorted _⟩

/-- The map of a list of entries; of two entries with one name the later counts. -/
def ofList (es : List (String × α)) : NameMap α :=
  es.foldl (fun m e => m.insert e.1 e.2) empty

/-- The value under a name. -/
def get? (m : NameMap α) (name : String) : Option α :=
  m.entries.lookup name

/-- Some value stands under the name. -/
def contains (m : NameMap α) (name : String) : Bool :=
  (m.get? name).isSome

/-- The names, in order. -/
def names (m : NameMap α) : List String :=
  m.entries.map Prod.fst

/-- The number of entries. -/
def size (m : NameMap α) : Nat :=
  m.entries.length

/-- No entry at all. -/
def isEmpty (m : NameMap α) : Bool :=
  m.entries.isEmpty

/-- The entries that satisfy `p`. -/
def filter (p : String → α → Bool) (m : NameMap α) : NameMap α :=
  ⟨m.entries.filter fun e => p e.1 e.2, m.increasing.filter _⟩

/-- The map without a name. -/
def erase (m : NameMap α) (name : String) : NameMap α :=
  m.filter fun n _ => n != name

/-- The map with every value changed. -/
def map (f : α → β) (m : NameMap α) : NameMap β :=
  ⟨m.entries.map fun e => (e.1, f e.2),
    List.pairwise_map.mpr (m.increasing.imp fun h => h)⟩

/-- The map with every value changed, in a way that may depend on its name. -/
def mapNamed (f : String → α → β) (m : NameMap α) : NameMap β :=
  ⟨m.entries.map fun e => (e.1, f e.1 e.2),
    List.pairwise_map.mpr (m.increasing.imp fun h => h)⟩

/-- Both maps; under a name of both, the value of the second. -/
def union (m n : NameMap α) : NameMap α :=
  n.entries.foldl (fun acc e => acc.insert e.1 e.2) m

end NameMap

/-! ## Sets -/

/-- Distinct names in order. -/
structure NameSet where
  toList : List String
  increasing : Increasing id toList

namespace NameSet

/-- Sets with the same names are equal. -/
theorem ext_toList {s t : NameSet} (h : s.toList = t.toList) : s = t := by
  cases s; cases t; cases h; rfl

instance : DecidableEq NameSet := fun s t =>
  decidable_of_iff (s.toList = t.toList) ⟨ext_toList, fun h => h ▸ rfl⟩

/-- The set without names. -/
def empty : NameSet := ⟨[], List.Pairwise.nil⟩

instance : Inhabited NameSet := ⟨empty⟩

instance : Membership String NameSet := ⟨fun s name => name ∈ s.toList⟩

instance (name : String) (s : NameSet) : Decidable (name ∈ s) :=
  inferInstanceAs (Decidable (name ∈ s.toList))

/-- Adds a name. -/
def insert (s : NameSet) (name : String) : NameSet :=
  ⟨insertSorted id name s.toList, s.increasing.insertSorted name⟩

/-- The names of a list. -/
def ofList (names : List String) : NameSet :=
  names.foldl insert empty

/-- Membership as a test. -/
def contains (s : NameSet) (name : String) : Bool :=
  s.toList.contains name

/-- The names of both sets. -/
def union (s t : NameSet) : NameSet :=
  t.toList.foldl insert s

/-- The names that satisfy `p`. -/
def filter (p : String → Bool) (s : NameSet) : NameSet :=
  ⟨s.toList.filter p, s.increasing.filter _⟩

/-- No name at all. -/
def isEmpty (s : NameSet) : Bool :=
  s.toList.isEmpty

/-- The number of names. -/
def size (s : NameSet) : Nat :=
  s.toList.length

/-- Some name is in both sets. -/
def intersects (s t : NameSet) : Bool :=
  s.toList.any t.contains

end NameSet

/-- The names of a map, as a set. -/
def NameMap.nameSet {α : Type} (m : NameMap α) : NameSet :=
  ⟨m.names, List.pairwise_map.mpr m.increasing⟩

end Cohort
