import Cohort.Json.Decode
import Cohort.Proofs.Decimal.Digits
import Cohort.Proofs.Names

/-! # Reading what was written

    A record is written as the map of its members, so a field is read by one
    lookup, wherever its member was written.  A list, a set or a map is read
    back when its parts are.  What a part is read back as need not be the part
    itself: it may have lost something on the way, and then the whole has lost
    the same. -/

namespace Cohort.Json

variable {α β : Type} {d : Decoder β} {e : α → Json} {f : α → β}

/-! ## Numbers -/

@[simp] theorem int64?_whole (n : Int64) : int64? (Json.whole n.toInt) = some n :=
  Decimal.fit64?_toInt n

@[simp] theorem int32?_whole (n : Int32) : int32? (Json.whole n.toInt) = some n :=
  Decimal.fit32?_toInt n

/-! ## Lists, sets and maps -/

theorem decodeItems_map {xs : List α} (h : ∀ a ∈ xs, d (e a) = some (f a)) :
    decodeItems d (xs.map e) = some (xs.map f) := by
  induction xs with
  | nil => rfl
  | cons a rest ih =>
      obtain ⟨ha, hrest⟩ := List.forall_mem_cons.mp h
      simp only [List.map_cons, decodeItems, ha, ih hrest, Option.map_some]

/-- A list is read back item by item. -/
theorem list?_array {xs : List α} (h : ∀ a ∈ xs, d (e a) = some (f a)) :
    list? d (.array (xs.map e)) = some (xs.map f) :=
  decodeItems_map h

/-- A list whose items are read back as they were is read back as it was. -/
theorem list?_array_self {d : Decoder α} (h : ∀ a, d (e a) = some a) (xs : List α) :
    list? d (.array (xs.map e)) = some xs := by
  rw [list?_array fun a _ => h a, List.map_id']

@[simp] theorem list?_ofNames (names : List String) :
    list? string? (ofNames names) = some names :=
  list?_array_self (e := Json.string) (fun _ => rfl) names

@[simp] theorem nameSet?_ofNameSet (s : NameSet) : nameSet? (ofNameSet s) = some s := by
  rw [nameSet?, ofNameSet, list?_ofNames, Option.map_some, NameSet.ofList_toList]

theorem decodeMembers_map {es : List (String × α)}
    (h : ∀ x ∈ es, d (e x.2) = some (f x.2)) :
    decodeMembers d (es.map fun x => (x.1, e x.2))
      = some (es.map fun x => (x.1, f x.2)) := by
  induction es with
  | nil => rfl
  | cons x rest ih =>
      obtain ⟨hx, hrest⟩ := List.forall_mem_cons.mp h
      simp only [List.map_cons, decodeMembers, hx, ih hrest, Option.map_some]

/-- A map is read back value by value. -/
theorem map?_ofMapWith {m : NameMap α}
    (h : ∀ name a, m.get? name = some a → d (e a) = some (f a)) :
    map? d (ofMapWith e m) = some (m.map f) := by
  have hmembers : decodeMembers d (m.map e).entries = some (m.map f).entries :=
    decodeMembers_map fun x hx => h x.1 x.2 (NameMap.get?_eq_some_iff.mpr hx)
  show (decodeMembers d (m.map e).entries).map NameMap.ofList = _
  rw [hmembers, Option.map_some, NameMap.ofList_entries]

@[simp] theorem map?_ofMap (m : NameMap Json) : map? some (ofMap m) = some m := by
  have hsame : m.map id = m := NameMap.ext (List.map_id' m.entries)
  have hread : map? some (ofMapWith id m) = some (m.map id) := map?_ofMapWith fun _ _ _ => rfl
  rw [ofMapWith, hsame] at hread
  exact hread

/-! ## What was read

    The parts of a list or a map that was read come from parts of its
    document. -/

theorem exists_of_decodeItems {items : List Json} {xs : List β}
    (h : decodeItems d items = some xs) {x : β} (hx : x ∈ xs) :
    ∃ v ∈ items, d v = some x := by
  induction items generalizing xs with
  | nil =>
      cases h
      exact nomatch hx
  | cons v rest ih =>
      rw [decodeItems] at h
      cases hv : d v with
      | none =>
          rw [hv] at h
          exact nomatch h
      | some y =>
          rw [hv] at h
          obtain ⟨ys, hys, rfl⟩ := Option.map_eq_some_iff.mp h
          rcases List.mem_cons.mp hx with rfl | hx
          · exact ⟨v, List.mem_cons_self, hv⟩
          · obtain ⟨w, hw, hread⟩ := ih hys hx
            exact ⟨w, List.mem_cons_of_mem _ hw, hread⟩

theorem exists_items_of_list? {v : Json} {xs : List β} (h : list? d v = some xs) :
    ∃ items, v = .array items ∧ ∀ x ∈ xs, ∃ w ∈ items, d w = some x := by
  cases v with
  | array items => exact ⟨items, rfl, fun _ hx => exists_of_decodeItems h hx⟩
  | _ => exact nomatch h

theorem exists_of_decodeMembers {members : List (String × Json)} {es : List (String × β)}
    (h : decodeMembers d members = some es) {x : String × β} (hx : x ∈ es) :
    ∃ v, (x.1, v) ∈ members ∧ d v = some x.2 := by
  induction members generalizing es with
  | nil =>
      cases h
      exact nomatch hx
  | cons m rest ih =>
      obtain ⟨name, v⟩ := m
      rw [decodeMembers] at h
      cases hv : d v with
      | none =>
          rw [hv] at h
          exact nomatch h
      | some y =>
          rw [hv] at h
          obtain ⟨ys, hys, rfl⟩ := Option.map_eq_some_iff.mp h
          rcases List.mem_cons.mp hx with rfl | hx
          · exact ⟨v, List.mem_cons_self, hv⟩
          · obtain ⟨w, hw, hread⟩ := ih hys hx
            exact ⟨w, List.mem_cons_of_mem _ hw, hread⟩

theorem exists_members_of_map? {v : Json} {m : NameMap β} (h : map? d v = some m) :
    ∃ members, v = .object members ∧
      ∀ name a, m.get? name = some a → ∃ w, (name, w) ∈ members ∧ d w = some a := by
  cases v with
  | object members =>
      refine ⟨members, rfl, fun name a ha => ?_⟩
      obtain ⟨es, hes, rfl⟩ := Option.map_eq_some_iff.mp h
      rw [NameMap.get?_ofList] at ha
      exact exists_of_decodeMembers hes (List.mem_reverse.mp (mem_of_lookup_eq_some ha))
  | _ => exact nomatch h

/-- A field that must be there was read from a member. -/
theorem exists_of_required {members : List (String × Json)} {name : String} {a : β}
    (h : required d members name = some a) :
    ∃ v, members.lookup name = some v ∧ d v = some a :=
  Option.bind_eq_some_iff.mp h

/-- An optional field with a value was read from a member that is not null. -/
theorem exists_of_optional {members : List (String × Json)} {name : String} {a : β}
    (h : optional d members name = some (some a)) :
    ∃ v, members.lookup name = some v ∧ v ≠ .null ∧ d v = some a := by
  rw [optional] at h
  split at h
  · exact nomatch Option.some.inj h
  · exact nomatch Option.some.inj h
  · next v hnull hv =>
      obtain ⟨b, hb, hsame⟩ := Option.map_eq_some_iff.mp h
      exact ⟨v, hv, hnull, hb.trans hsame⟩

/-- A field with a default has it, or was read from a member. -/
theorem eq_or_exists_of_defaulted {members : List (String × Json)} {name : String}
    {default a : β} (h : defaulted d default members name = some a) :
    a = default ∨ ∃ v, members.lookup name = some v ∧ d v = some a := by
  rw [defaulted] at h
  split at h
  · exact Or.inl (Option.some.inj h).symm
  · next v hv => exact Or.inr ⟨v, hv, h⟩

/-! ## Records -/

/-- A record is the map of its members. -/
theorem ofMembers_eq (members : List (String × Json)) :
    ofMembers members = ofMap (NameMap.ofList members) := by
  have hfold : ∀ m : NameMap Json,
      members.foldl (fun acc x => insertSorted Prod.fst x acc) m.entries
        = (members.foldl (fun m x => m.insert x.1 x.2) m).entries := by
    induction members with
    | nil => exact fun _ => rfl
    | cons x rest ih => exact fun m => ih (m.insert x.1 x.2)
  exact congrArg Json.object (hfold NameMap.empty)

/-- The members that a record is read from. -/
theorem record?_ofMembers (fields : List String) (members : List (String × Json)) :
    record? fields (ofMembers members) = some (NameMap.ofList members).entries := by
  rw [ofMembers_eq]
  rfl

/-- The last of the members with a name is found. -/
theorem lookup_members (members : List (String × Json)) (name : String) :
    (NameMap.ofList members).entries.lookup name = members.reverse.lookup name :=
  NameMap.get?_ofList members name

/-- A record is an object with its members, up to their order. -/
theorem exists_object (members : List (String × Json)) :
    ∃ m, ofMembers members = .object m ∧
      ∀ name, m.lookup name = members.reverse.lookup name :=
  ⟨_, ofMembers_eq members, lookup_members members⟩

theorem reverse_optionalMember (name : String) (o : Option α) :
    (optionalMember name e o).reverse = optionalMember name e o := by
  cases o with
  | none => rfl
  | some a => rfl

theorem lookup_optionalMember (name k : String) (o : Option α) :
    (optionalMember name e o).lookup k = if k == name then o.map e else none := by
  cases o with
  | none => exact (ite_self none).symm
  | some a =>
      rw [optionalMember, List.lookup_cons]
      cases k == name with
      | true => rfl
      | false => rfl

/-- Reads the member of a field that may be absent or null. -/
def optionalOf (d : Decoder α) : Option Json → Option (Option α)
  | none => some none
  | some .null => some none
  | some v => (d v).map some

theorem optional_eq (d : Decoder α) (members : List (String × Json)) (name : String) :
    optional d members name = optionalOf d (members.lookup name) := rfl

/-- A member that is left out without a value is read back as no value. -/
theorem optionalOf_map (hnull : ∀ a, e a ≠ .null) (h : ∀ a, d (e a) = some (f a))
    (o : Option α) : optionalOf d (o.map e) = some (o.map f) := by
  cases o with
  | none => rfl
  | some a =>
      have hread : (d (e a)).map some = some (some (f a)) := by rw [h, Option.map_some]
      rw [Option.map_some, Option.map_some, ← hread]
      cases hv : e a with
      | null => exact absurd hv (hnull a)
      | bool b => rfl
      | number n => rfl
      | string s => rfl
      | array items => rfl
      | object members => rfl

theorem optionalOf_map_self {d : Decoder α} (hnull : ∀ a, e a ≠ .null)
    (h : ∀ a, d (e a) = some a) (o : Option α) : optionalOf d (o.map e) = some o := by
  rw [optionalOf_map hnull h, Option.map_id']

theorem optionalOf_string (o : Option String) :
    optionalOf string? (o.map Json.string) = some o :=
  optionalOf_map_self (e := Json.string) nofun (fun _ => rfl) o

end Cohort.Json
