import Mathlib.Data.List.Nodup
import Mathlib.Data.List.Perm.Subperm
import Cohort.NameMap

/-! # Looking names up

    A map of names is determined by its lookups, and a set of names by its
    members.  Every operation on them is described here by what it does to
    `get?` and to membership; nothing later opens the sorted lists behind
    them again. -/

namespace Cohort

variable {α β : Type}

/-! ## Sorted insertion -/

/-- What is inserted is there afterwards. -/
theorem mem_insertSorted_self {key : α → String} {x : α} (ys : List α) :
    x ∈ insertSorted key x ys := by
  induction ys with
  | nil => exact List.mem_cons_self
  | cons y ys ih =>
      rw [insertSorted]
      split
      · exact List.mem_cons_self
      · split
        · exact List.mem_cons_of_mem _ ih
        · exact List.mem_cons_self

/-- What has another name than the new element stays. -/
theorem mem_insertSorted_of_mem {key : α → String} {x z : α} {ys : List α}
    (hz : z ∈ ys) (hne : key z ≠ key x) : z ∈ insertSorted key x ys := by
  induction ys with
  | nil => exact nomatch hz
  | cons y ys ih =>
      rw [insertSorted]
      split
      · exact List.mem_cons_of_mem _ hz
      · next hlt =>
          split
          · rcases List.mem_cons.mp hz with rfl | hz
            · exact List.mem_cons_self
            · exact List.mem_cons_of_mem _ (ih hz)
          · next hgt =>
              rcases List.mem_cons.mp hz with rfl | hz
              · exact absurd (name_eq_of_not_lt hgt hlt) hne
              · exact List.mem_cons_of_mem _ hz

/-- Increasing names are distinct. -/
theorem Increasing.nodup {key : α → String} {xs : List α}
    (h : Increasing key xs) : (xs.map key).Nodup :=
  List.pairwise_map.mpr (h.imp fun hlt => String.ne_of_lt hlt)

/-- Increasing names make one list of the same elements. -/
theorem Increasing.eq_of_mem_iff {key : α → String} {xs ys : List α}
    (hx : Increasing key xs) (hy : Increasing key ys) (h : ∀ x, x ∈ xs ↔ x ∈ ys) :
    xs = ys := by
  refine List.Perm.eq_of_pairwise ?_ hx hy ?_
  · intro a b _ _ hab hba
    exact absurd (String.lt_trans hab hba) (String.lt_irrefl _)
  · exact (List.perm_ext_iff_of_nodup (List.Nodup.of_map _ hx.nodup)
      (List.Nodup.of_map _ hy.nodup)).mpr h

/-- What a lookup finds is there. -/
theorem mem_of_lookup_eq_some {es : List (String × α)} {name : String} {v : α}
    (h : es.lookup name = some v) : (name, v) ∈ es := by
  obtain ⟨before, after, he, -⟩ := List.lookup_eq_some_iff.mp h
  rw [he]
  exact List.mem_append.mpr (Or.inr List.mem_cons_self)

/-- Under distinct names a lookup finds whatever is there. -/
theorem lookup_eq_some_iff_mem {es : List (String × α)} (hnodup : (es.map Prod.fst).Nodup)
    {name : String} {v : α} : es.lookup name = some v ↔ (name, v) ∈ es := by
  constructor
  · exact mem_of_lookup_eq_some
  · intro h
    cases hl : es.lookup name with
    | none =>
        have hno : (name != name) = true := List.lookup_eq_none_iff.mp hl _ h
        exact absurd rfl (bne_iff_ne.mp hno)
    | some w =>
        exact congrArg (fun e => some e.2)
          (List.inj_on_of_nodup_map hnodup (mem_of_lookup_eq_some hl) h rfl)

/-! ## Maps -/

namespace NameMap

/-- A lookup finds the entries of the map. -/
theorem get?_eq_some_iff {m : NameMap α} {name : String} {v : α} :
    m.get? name = some v ↔ (name, v) ∈ m.entries :=
  lookup_eq_some_iff_mem m.increasing.nodup

/-- A name without an entry is not found. -/
theorem get?_eq_none_iff {m : NameMap α} {name : String} :
    m.get? name = none ↔ ∀ v, (name, v) ∉ m.entries := by
  constructor
  · intro h v hv
    rw [get?_eq_some_iff.mpr hv] at h
    exact nomatch h
  · intro h
    cases hg : m.get? name with
    | none => rfl
    | some v => exact absurd (get?_eq_some_iff.mp hg) (h v)

theorem contains_iff {m : NameMap α} {name : String} :
    m.contains name = true ↔ ∃ v, m.get? name = some v :=
  Option.isSome_iff_exists

theorem contains_eq_false_iff {m : NameMap α} {name : String} :
    m.contains name = false ↔ m.get? name = none :=
  Option.isSome_eq_false_iff.trans Option.isNone_iff_eq_none

theorem mem_names_iff {m : NameMap α} {name : String} :
    name ∈ m.names ↔ m.contains name = true := by
  rw [contains_iff]
  constructor
  · intro h
    obtain ⟨⟨n, v⟩, he, rfl⟩ := List.mem_map.mp h
    exact ⟨v, get?_eq_some_iff.mpr he⟩
  · rintro ⟨v, hv⟩
    exact List.mem_map.mpr ⟨(name, v), get?_eq_some_iff.mp hv, rfl⟩

theorem nodup_names (m : NameMap α) : m.names.Nodup :=
  m.increasing.nodup

/-- Maps with the same lookups are equal. -/
theorem ext_get? {m n : NameMap α} (h : ∀ name, m.get? name = n.get? name) :
    m = n := by
  refine ext (m.increasing.eq_of_mem_iff n.increasing ?_)
  rintro ⟨name, v⟩
  rw [← get?_eq_some_iff, ← get?_eq_some_iff, h]

@[simp] theorem get?_empty (name : String) :
    (empty : NameMap α).get? name = none := rfl

/-- An insertion changes the lookup of its own name only. -/
theorem get?_insert (m : NameMap α) (name : String) (value : α) (k : String) :
    (m.insert name value).get? k = if k = name then some value else m.get? k := by
  by_cases hk : k = name
  · subst hk
    rw [if_pos rfl]
    exact get?_eq_some_iff.mpr (mem_insertSorted_self _)
  · rw [if_neg hk]
    cases hg : m.get? k with
    | some v =>
        exact get?_eq_some_iff.mpr
          (mem_insertSorted_of_mem (get?_eq_some_iff.mp hg) hk)
    | none =>
        refine get?_eq_none_iff.mpr ?_
        intro v hv
        rcases mem_of_mem_insertSorted hv with he | hv
        · exact hk (congrArg Prod.fst he)
        · exact get?_eq_none_iff.mp hg v hv

@[simp] theorem get?_insert_self (m : NameMap α) (name : String) (value : α) :
    (m.insert name value).get? name = some value := by
  rw [get?_insert, if_pos rfl]

theorem get?_insert_ne (m : NameMap α) {name k : String} (value : α)
    (h : k ≠ name) : (m.insert name value).get? k = m.get? k := by
  rw [get?_insert, if_neg h]

/-- One value is set under many names. -/
theorem get?_foldl_insert (m : NameMap α) (names : List String) (value : α)
    (k : String) : (names.foldl (fun m name => m.insert name value) m).get? k
      = if k ∈ names then some value else m.get? k := by
  induction names generalizing m with
  | nil => rw [List.foldl_nil, if_neg List.not_mem_nil]
  | cons name rest ih =>
      rw [List.foldl_cons, ih, get?_insert]
      by_cases hk : k = name
      · subst hk
        rw [if_pos rfl, if_pos List.mem_cons_self, ite_self]
      · rw [if_neg hk]
        simp only [List.mem_cons, hk, false_or]

/-- A list of entries is looked up from its end. -/
theorem get?_ofList (es : List (String × α)) (name : String) :
    (ofList es).get? name = es.reverse.lookup name := by
  have hfold : ∀ m : NameMap α,
      (es.foldl (fun m e => m.insert e.1 e.2) m).get? name
        = (es.reverse.lookup name).or (m.get? name) := by
    induction es with
    | nil => exact fun _ => rfl
    | cons e rest ih =>
        intro m
        rw [List.foldl_cons, ih, get?_insert, List.reverse_cons, List.lookup_append,
          Option.or_assoc]
        by_cases hname : name = e.1
        · rw [if_pos hname, hname, List.lookup_cons_self, Option.some_or]
        · rw [if_neg hname, List.lookup_cons, beq_false_of_ne hname]
          rfl
  exact (hfold empty).trans Option.or_none

/-- The entries of a map, in any order, make up the map. -/
theorem ofList_of_perm {es : List (String × α)} {m : NameMap α} (h : es.Perm m.entries) :
    ofList es = m := by
  refine ext_get? ?_
  intro name
  have hnodup : (es.reverse.map Prod.fst).Nodup := by
    rw [List.map_reverse, List.nodup_reverse]
    exact (h.map Prod.fst).nodup_iff.mpr m.nodup_names
  refine Option.ext ?_
  intro v
  rw [get?_ofList, lookup_eq_some_iff_mem hnodup, List.mem_reverse, h.mem_iff, get?_eq_some_iff]

@[simp] theorem ofList_entries (m : NameMap α) : ofList m.entries = m :=
  ofList_of_perm (List.Perm.refl _)

/-- What is found in the map of a list is in the list. -/
theorem mem_of_get?_ofList {es : List (String × α)} {name : String} {v : α}
    (h : (ofList es).get? name = some v) : (name, v) ∈ es := by
  rw [get?_ofList] at h
  exact List.mem_reverse.mp (mem_of_lookup_eq_some h)

/-- A filter keeps the entries that satisfy its test, as they are. -/
theorem get?_filter_eq_some_iff {p : String → α → Bool} {m : NameMap α}
    {name : String} {v : α} :
    (m.filter p).get? name = some v ↔ m.get? name = some v ∧ p name v = true := by
  rw [get?_eq_some_iff, get?_eq_some_iff]
  exact List.mem_filter

theorem get?_filter (p : String → α → Bool) (m : NameMap α) (name : String) :
    (m.filter p).get? name = (m.get? name).filter (p name) := by
  refine Option.ext ?_
  intro v
  rw [get?_filter_eq_some_iff, Option.filter_eq_some_iff]

/-- Names that are not kept are gone, and nothing else. -/
theorem get?_filter_names (keep : String → Bool) (m : NameMap α) (name : String) :
    (m.filter fun name _ => keep name).get? name
      = if keep name then m.get? name else none := by
  rw [get?_filter]
  cases m.get? name with
  | none => exact (ite_self none).symm
  | some v => rfl

theorem contains_filter (p : String → α → Bool) (m : NameMap α) (name : String) :
    (m.filter p).contains name = (m.get? name).any (p name) := by
  rw [contains, get?_filter, Option.isSome_filter]

/-- Erasing a name changes the lookup of that name only. -/
theorem get?_erase (m : NameMap α) (name k : String) :
    (m.erase name).get? k = if k = name then none else m.get? k := by
  rw [erase, get?_filter_names fun k => k != name]
  by_cases hk : k = name
  · subst hk
    rw [if_pos rfl, bne_self_eq_false, if_neg Bool.false_ne_true]
  · rw [if_neg hk, if_pos (bne_iff_ne.mpr hk)]

theorem get?_mapNamed (f : String → α → β) (m : NameMap α) (name : String) :
    (m.mapNamed f).get? name = (m.get? name).map (f name) := by
  refine Option.ext ?_
  intro w
  rw [get?_eq_some_iff, Option.map_eq_some_iff]
  constructor
  · intro h
    obtain ⟨⟨n, v⟩, hv, he⟩ := List.mem_map.mp h
    obtain ⟨rfl, rfl⟩ := Prod.mk.inj he
    exact ⟨v, get?_eq_some_iff.mpr hv, rfl⟩
  · rintro ⟨v, hv, rfl⟩
    exact List.mem_map.mpr ⟨(name, v), get?_eq_some_iff.mp hv, rfl⟩

theorem get?_map (f : α → β) (m : NameMap α) (name : String) :
    (m.map f).get? name = (m.get? name).map f :=
  get?_mapNamed (fun _ => f) m name

theorem map_map {γ : Type} (f : α → β) (g : β → γ) (m : NameMap α) :
    (m.map f).map g = m.map fun a => g (f a) :=
  ext List.map_map

/-- A filter that every entry passes changes nothing. -/
theorem filter_eq_self {p : String → α → Bool} {m : NameMap α}
    (h : ∀ name v, m.get? name = some v → p name v = true) : m.filter p = m :=
  ext (List.filter_eq_self.mpr fun e he => h e.1 e.2 (get?_eq_some_iff.mpr he))

theorem isEmpty_iff {m : NameMap α} : m.isEmpty = true ↔ m = empty := by
  rw [isEmpty, List.isEmpty_iff]
  constructor
  · exact fun h => ext h
  · rintro rfl
    rfl

theorem isEmpty_map (f : α → β) (m : NameMap α) : (m.map f).isEmpty = m.isEmpty :=
  List.isEmpty_map

/-- A map in which no name is found is empty. -/
theorem eq_empty_of_get? {m : NameMap α} (h : ∀ name, m.get? name = none) :
    m = empty :=
  ext_get? fun name => (h name).trans (get?_empty name).symm

end NameMap

/-! ## Sets -/

namespace NameSet

theorem contains_iff {s : NameSet} {name : String} :
    s.contains name = true ↔ name ∈ s :=
  List.contains_iff_mem

theorem contains_eq_false_iff {s : NameSet} {name : String} :
    s.contains name = false ↔ name ∉ s := by
  rw [← contains_iff, Bool.not_eq_true]

theorem nodup_toList (s : NameSet) : s.toList.Nodup :=
  List.map_id s.toList ▸ s.increasing.nodup

@[simp] theorem not_mem_empty (name : String) : name ∉ empty :=
  List.not_mem_nil

@[simp] theorem mem_insert {s : NameSet} {name k : String} :
    k ∈ s.insert name ↔ k = name ∨ k ∈ s := by
  constructor
  · exact mem_of_mem_insertSorted
  · rintro (rfl | h)
    · exact mem_insertSorted_self _
    · by_cases hk : k = name
      · subst hk
        exact mem_insertSorted_self _
      · exact mem_insertSorted_of_mem h hk

/-- Adding names one after the other adds just these. -/
theorem mem_foldl_insert {names : List String} {s : NameSet} {k : String} :
    k ∈ names.foldl insert s ↔ k ∈ s ∨ k ∈ names := by
  induction names generalizing s with
  | nil => simp
  | cons name names ih =>
      rw [List.foldl_cons, ih, mem_insert, List.mem_cons]
      tauto

@[simp] theorem mem_union {s t : NameSet} {k : String} :
    k ∈ s.union t ↔ k ∈ s ∨ k ∈ t :=
  mem_foldl_insert

@[simp] theorem mem_ofList {names : List String} {k : String} :
    k ∈ ofList names ↔ k ∈ names := by
  rw [ofList, mem_foldl_insert]
  simp

/-- Sets of the same names are equal. -/
theorem ext_mem {s t : NameSet} (h : ∀ k, k ∈ s ↔ k ∈ t) : s = t :=
  ext_toList (s.increasing.eq_of_mem_iff t.increasing h)

/-- The names of a set make up the set. -/
@[simp] theorem ofList_toList (s : NameSet) : ofList s.toList = s :=
  ext_mem fun _ => mem_ofList

theorem mem_filter {p : String → Bool} {s : NameSet} {k : String} :
    k ∈ s.filter p ↔ k ∈ s ∧ p k = true :=
  List.mem_filter

theorem contains_filter (p : String → Bool) (s : NameSet) (k : String) :
    (s.filter p).contains k = (s.contains k && p k) := by
  rw [Bool.eq_iff_iff, contains_iff, mem_filter, Bool.and_eq_true, contains_iff]

/-- A new name makes the set larger by one. -/
theorem size_insert {s : NameSet} {name : String} (h : name ∉ s) :
    (s.insert name).size = s.size + 1 := by
  have hperm : (s.insert name).toList.Perm (name :: s.toList) := by
    refine (List.perm_ext_iff_of_nodup (nodup_toList _)
      (List.nodup_cons.mpr ⟨h, nodup_toList s⟩)).mpr ?_
    intro k
    exact mem_insert.trans List.mem_cons.symm
  exact hperm.length_eq

end NameSet

theorem NameMap.mem_nameSet {m : NameMap α} {name : String} :
    name ∈ m.nameSet ↔ m.contains name = true :=
  NameMap.mem_names_iff

theorem NameMap.contains_nameSet (m : NameMap α) (name : String) :
    m.nameSet.contains name = m.contains name :=
  Bool.eq_iff_iff.mpr (NameSet.contains_iff.trans NameMap.mem_nameSet)

/-- Distinct names of a map that are as many as the map has are all of them. -/
theorem NameMap.mem_of_size_le {m : NameMap α} {names : List String}
    (hnodup : names.Nodup) (hsub : ∀ n ∈ names, m.contains n = true)
    (hsize : m.size ≤ names.length) {n : String} (hn : m.contains n = true) :
    n ∈ names := by
  have hlen : m.names.length ≤ names.length := by
    rw [NameMap.names, List.length_map]
    exact hsize
  have hperm : names.Perm m.names :=
    (List.subperm_of_subset hnodup fun n hn =>
      NameMap.mem_names_iff.mpr (hsub n hn)).perm_of_length_le hlen
  exact hperm.mem_iff.mpr (NameMap.mem_names_iff.mpr hn)

end Cohort
