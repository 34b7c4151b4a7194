import Cohort.Artifact.Loading
import Cohort.Proofs.Definition.Document

/-! # What is written has the shape

    The shape of artifacts and the types of their parts were written apart.
    Where the shape asks for more, an artifact that was loaded has it, since
    its document had the shape: buckets, parents and types have names, and
    lengths are parts of one.  Everything else that the shape asks for comes
    with the types, so the document of an artifact with these properties has
    the shape again. -/

namespace Cohort

open Json

/-! ## Loading -/

/-- A document is loaded when it has the shape of an artifact and reads as one. -/
theorem Artifact.ofDocument_eq_ok_iff {w : Wording} {source : String} {v : Json} {a : Artifact} :
    ofDocument w source v = .ok a
      ↔ Shape.artifact.accepts v = true ∧ Artifact.ofJson? v = some a := by
  rw [ofDocument]
  cases Shape.artifact.accepts v with
  | false => exact ⟨nofun, nofun⟩
  | true =>
      cases Artifact.ofJson? v with
      | none => exact ⟨nofun, nofun⟩
      | some b => simp

/-! ## Documents of a shape -/

namespace Shape

variable {members : List (String × Shape)} {names : List String}

theorem acceptsMembers_cons {name : String} {s : Shape} {ms : List (String × Json)} :
    acceptsMembers ((name, s) :: members) ms
      = ((match ms.lookup name with
          | none => true
          | some v => s.accepts v) && acceptsMembers members ms) := rfl

theorem acceptsMembers_iff {ms : List (String × Json)} :
    acceptsMembers members ms = true ↔
      ∀ e ∈ members, ∀ v, ms.lookup e.1 = some v → e.2.accepts v = true := by
  induction members with
  | nil => exact ⟨fun _ => nofun, fun _ => rfl⟩
  | cons e rest ih =>
      obtain ⟨name, s⟩ := e
      rw [acceptsMembers_cons, Bool.and_eq_true, ih, List.forall_mem_cons]
      refine and_congr_left fun _ => ?_
      cases ms.lookup name with
      | none => exact ⟨fun _ => nofun, fun _ => rfl⟩
      | some v => simp

/-- An object has its required members, and each member has its shape. -/
theorem accepts_object_iff {ms : List (String × Json)} :
    (object names members).accepts (.object ms) = true ↔
      (∀ name ∈ names, (ms.lookup name).isSome = true) ∧
        ∀ e ∈ members, ∀ v, ms.lookup e.1 = some v → e.2.accepts v = true := by
  rw [← acceptsMembers_iff, ← List.all_eq_true, ← Bool.and_eq_true]
  exact Iff.rfl

/-- The same for a record that is written member by member. -/
theorem accepts_ofMembers_iff {ms : List (String × Json)} :
    (object names members).accepts (ofMembers ms) = true ↔
      (∀ name ∈ names, (ms.reverse.lookup name).isSome = true) ∧
        ∀ e ∈ members, ∀ v, ms.reverse.lookup e.1 = some v → e.2.accepts v = true := by
  rw [ofMembers_eq, ofMap, accepts_object_iff]
  simp only [lookup_members]

/-- Only objects have the shape of objects. -/
theorem exists_of_accepts_object {v : Json} (h : (object names members).accepts v = true) :
    ∃ ms, v = .object ms ∧
      ∀ e ∈ members, ∀ w, ms.lookup e.1 = some w → e.2.accepts w = true := by
  cases v with
  | object ms => exact ⟨ms, rfl, (accepts_object_iff.mp h).2⟩
  | _ => exact nomatch h

theorem accepts_nullable_iff {s : Shape} {v : Json} :
    (nullable s).accepts v = true ↔ v = .null ∨ s.accepts v = true := by
  by_cases hnull : v = .null
  · rw [hnull]
    exact ⟨fun _ => Or.inl rfl, fun _ => rfl⟩
  · rw [or_iff_right hnull]
    cases v with
    | null => exact absurd rfl hnull
    | _ => exact Iff.rfl

theorem accepts_array_iff {s : Shape} {items : List Json} :
    (array s).accepts (.array items) = true ↔ ∀ v ∈ items, s.accepts v = true :=
  List.all_eq_true

/-- A list that is written item by item. -/
theorem accepts_map {α : Type} {s : Shape} {e : α → Json} {xs : List α}
    (h : ∀ a ∈ xs, s.accepts (e a) = true) : (array s).accepts (.array (xs.map e)) = true := by
  refine accepts_array_iff.mpr fun v hv => ?_
  obtain ⟨a, ha, rfl⟩ := List.mem_map.mp hv
  exact h a ha

/-- A member that is written only with a value. -/
theorem accepts_optional {α : Type} {s : Shape} {e : α → Json} {o : Option α}
    (h : ∀ a, o = some a → s.accepts (e a) = true) (v : Json) (hv : o.map e = some v) :
    (nullable s).accepts v = true := by
  obtain ⟨a, ha, rfl⟩ := Option.map_eq_some_iff.mp hv
  exact accepts_nullable_iff.mpr (Or.inr (h a ha))

theorem accepts_dictionary_iff {s : Shape} {ms : List (String × Json)} :
    (dictionary s).accepts (.object ms) = true ↔ ∀ e ∈ ms, s.accepts e.2 = true :=
  List.all_eq_true

theorem accepts_whole (n : Int) : integer.accepts (Json.whole n) = true := rfl

theorem accepts_bool (b : Bool) : boolean.accepts (.bool b) = true := rfl

theorem accepts_text (s : String) : text.accepts (.string s) = true :=
  decide_eq_true (Nat.zero_le _)

theorem accepts_optionalText (s : String) : optionalText.accepts (.string s) = true :=
  accepts_nullable_iff.mpr (Or.inr (accepts_text s))

theorem accepts_texts (names : List String) : (array text).accepts (ofNames names) = true :=
  accepts_map (e := Json.string) fun s _ => accepts_text s

/-- A name is any text but the empty one. -/
theorem accepts_name_iff {s : String} :
    (string 1).accepts (.string s) = true ↔ s ≠ "" := by
  show decide (1 ≤ s.toList.length) = true ↔ _
  rw [decide_eq_true_iff, Nat.succ_le_iff, List.length_pos_iff]
  exact not_congr String.toList_eq_nil_iff

end Shape

/-! ## Parts of a definition -/

section Records

open Shape

attribute [local simp] accepts_ofMembers_iff reverse_optionalMember lookup_optionalMember
  List.lookup_append List.lookup_cons accepts_whole accepts_bool accepts_text
  accepts_optionalText accepts_texts

theorem Payload.accepts_toJson (p : Payload) : Shape.payload.accepts p.toJson = true := by
  cases p with
  | double x => rfl
  | doubles xs => exact accepts_map (s := number) (e := Json.float) fun _ _ => rfl
  | long n => rfl
  | longs ns =>
      exact accepts_map (s := integer) (e := fun n : Int64 => Json.whole n.toInt) fun _ _ => rfl
  | text s => exact accepts_text s
  | texts ss => exact accepts_texts ss
  | map m => exact accepts_dictionary_iff.mpr fun _ _ => rfl
  | document v => rfl

theorem Bucket.accepts_toJson {b : Bucket} (hname : b.name ≠ "") :
    Shape.bucket.accepts b.toJson = true := by
  have hname := accepts_name_iff.mpr hname
  have hpayload : ∀ p, b.payload = some p →
      (nullable Shape.payload).accepts p.toJson = true :=
    fun p _ => accepts_nullable_iff.mpr (Or.inr p.accepts_toJson)
  simpa [Shape.bucket, Bucket.toJson, hname] using hpayload

/-- The length is a part of one. -/
def Range.IsPart (r : Range) : Prop :=
  (JsonNumber.float r.length).isProportion = true

theorem Range.accepts_toJson {r : Range} (h : r.IsPart) :
    Shape.range.accepts r.toJson = true := by
  have hlength : proportion.accepts (Json.float r.length) = true := h
  simp [Shape.range, Range.toJson, hlength]

theorem Allocation.accepts_toJson {a : Allocation} (h : ∀ r ∈ a.ranges, r.IsPart) :
    Shape.allocation.accepts a.toJson = true := by
  have hranges := accepts_map (s := Shape.range) (e := Range.toJson)
    fun r hr => Range.accepts_toJson (h r hr)
  simp [Shape.allocation, Allocation.toJson, hranges]

theorem Dependency.accepts_toJson {d : Dependency} (hname : d.testName ≠ "") :
    Shape.dependency.accepts d.toJson = true := by
  have hname := accepts_name_iff.mpr hname
  simp [Shape.dependency, Dependency.toJson, hname]

theorem ExperimentConfig.accepts_toJson (c : ExperimentConfig) :
    Shape.experimentConfig.accepts c.toJson = true := by
  simp [Shape.experimentConfig, ExperimentConfig.toJson]

theorem Audit.accepts_toJson (a : Audit) : Shape.audit.accepts a.toJson = true := by
  simp [Shape.audit, Audit.toJson]

/-! ## Definitions and artifacts -/

/-- A type that is read from its own name has one. -/
theorem TestType.Named.name_ne_empty {t : TestType} (h : t.Named) : t.name ≠ "" := by
  intro hempty
  rw [TestType.Named, hempty] at h
  cases h

/-- What the shape asks of a definition besides the types of its parts. -/
structure Definition.Shaped (d : Definition) : Prop where
  named : d.testType.Named
  buckets : ∀ b ∈ d.buckets, b.name ≠ ""
  dependsOn : ∀ dep, d.dependsOn = some dep → dep.testName ≠ ""
  lengths : ∀ a ∈ d.allocations, ∀ r ∈ a.ranges, r.IsPart

theorem Definition.Shaped.accepts_toJson {d : Definition} (h : d.Shaped) :
    Shape.definition.accepts d.toJson = true := by
  have htype := accepts_name_iff.mpr h.named.name_ne_empty
  have hbuckets := accepts_map (s := Shape.bucket) (e := Bucket.toJson)
    fun b hb => Bucket.accepts_toJson (h.buckets b hb)
  have hallocations := accepts_map (s := Shape.allocation) (e := Allocation.toJson)
    fun a ha => Allocation.accepts_toJson (h.lengths a ha)
  have hdependsOn := accepts_optional (s := Shape.dependency) (e := Dependency.toJson)
    fun dep hdep => Dependency.accepts_toJson (h.dependsOn dep hdep)
  have hconfig := accepts_optional (s := Shape.experimentConfig) (e := ExperimentConfig.toJson)
    fun (c : ExperimentConfig) (_ : d.payloadExperimentConfig = some c) => c.accepts_toJson
  have htext (o : Option String) := accepts_optional (s := text) (e := Json.string)
    fun s (_ : o = some s) => accepts_text s
  have hconstants (m : NameMap Value) :
      (dictionary anything).accepts (ofMapWith Value.toJson m) = true :=
    accepts_dictionary_iff.mpr fun _ _ => rfl
  have htags : (array text).accepts (ofNameSet d.metaTags) = true := accepts_texts _
  obtain ⟨m, hm, hfields⟩ := d.exists_members
  rw [hm, Shape.definition, accepts_object_iff]
  constructor
  · simp only [List.forall_mem_cons, hfields, Option.isSome_some, List.not_mem_nil,
      false_implies, implies_true, and_self]
  · simp only [List.forall_mem_cons, hfields, Option.some.injEq, forall_eq', accepts_text,
      accepts_bool, htype, hbuckets, hallocations, hconstants, htags, true_and]
    -- what is left are the members that may be missing
    refine ⟨htext _, hdependsOn, htext _, hconfig, fun _ hmem => ?_⟩
    cases hmem

theorem Artifact.accepts_toJson {a : Artifact}
    (h : ∀ n d, a.tests.get? n = some d → d.Shaped) :
    Shape.artifact.accepts a.toJson = true := by
  have htests : (dictionary Shape.definition).accepts (ofMapWith Definition.toJson a.tests)
      = true := by
    refine accepts_dictionary_iff.mpr fun e he => ?_
    have hget := NameMap.get?_eq_some_iff.mpr he
    rw [NameMap.get?_map] at hget
    obtain ⟨d, hd, hjson⟩ := Option.map_eq_some_iff.mp hget
    rw [← hjson]
    exact (h e.1 d hd).accepts_toJson
  have haudit := a.audit.accepts_toJson
  simp [Shape.artifact, Artifact.toJson, haudit, htests]

end Records

/-! ## What was read from the shape -/

section Read

open Shape

variable {v : Json}

theorem Shape.string_ne_empty {s : String} (hv : (string 1).accepts v = true)
    (h : string? v = some s) : s ≠ "" := by
  cases v with
  | string t =>
      cases h
      exact accepts_name_iff.mp hv
  | _ => exact nomatch h

theorem Bucket.name_ne_empty {b : Bucket} (hv : Shape.bucket.accepts v = true)
    (h : Bucket.ofJson? v = some b) : b.name ≠ "" := by
  -- a record may also be written as an array, but that has not the shape
  obtain ⟨m, hm, h⟩ := Option.bind_eq_some_iff.mp h
  obtain ⟨name, hname, h⟩ := Option.bind_eq_some_iff.mp h
  iterate 3 obtain ⟨_, -, h⟩ := Option.bind_eq_some_iff.mp h
  cases h
  obtain ⟨ms, rfl, hms⟩ := exists_of_accepts_object hv
  cases hm
  obtain ⟨w, hw, hread⟩ := exists_of_required hname
  exact string_ne_empty (hms ("name", string 1) (by simp) w hw) hread

theorem Dependency.testName_ne_empty {d : Dependency} (hv : Shape.dependency.accepts v = true)
    (h : Dependency.ofJson? v = some d) : d.testName ≠ "" := by
  obtain ⟨m, hm, h⟩ := Option.bind_eq_some_iff.mp h
  obtain ⟨name, hname, h⟩ := Option.bind_eq_some_iff.mp h
  obtain ⟨_, -, h⟩ := Option.bind_eq_some_iff.mp h
  cases h
  obtain ⟨ms, rfl, hms⟩ := exists_of_accepts_object hv
  cases hm
  obtain ⟨w, hw, hread⟩ := exists_of_required hname
  exact string_ne_empty (hms ("testName", string 1) (by simp) w hw) hread

/-- A whole number that is a part of one is zero or one, and so is its float. -/
theorem Shape.isProportion_of_float? {x : Float} (hv : proportion.accepts v = true)
    (h : float? v = some x) : (JsonNumber.float x).isProportion = true := by
  cases v with
  | number n =>
      cases n with
      | whole n =>
          have hpart : (JsonNumber.whole n).isProportion = true := hv
          have hbounds : 0 ≤ n ∧ n ≤ 1 := by
            simpa [JsonNumber.isProportion] using hpart
          have hcases : n = 0 ∨ n = 1 := by omega
          cases h
          rcases hcases with rfl | rfl
          · rfl
          · rfl
      | float y =>
          cases h
          exact hv
  | _ => cases h

theorem Range.isPart {r : Range} (hv : Shape.range.accepts v = true)
    (h : Range.ofJson? v = some r) : r.IsPart := by
  obtain ⟨m, hm, h⟩ := Option.bind_eq_some_iff.mp h
  obtain ⟨_, -, h⟩ := Option.bind_eq_some_iff.mp h
  obtain ⟨length, hlength, h⟩ := Option.bind_eq_some_iff.mp h
  cases h
  obtain ⟨ms, rfl, hms⟩ := exists_of_accepts_object hv
  cases hm
  obtain ⟨w, hw, hread⟩ := exists_of_required hlength
  exact isProportion_of_float? (hms ("length", proportion) (by simp) w hw) hread

/-- What was read from a list of one shape was read from documents of that shape. -/
theorem Shape.exists_of_list? {α : Type} {d : Decoder α} {s : Shape} {xs : List α}
    (hv : (array s).accepts v = true) (h : list? d v = some xs) {x : α} (hx : x ∈ xs) :
    ∃ w, s.accepts w = true ∧ d w = some x := by
  obtain ⟨items, rfl, hitems⟩ := exists_items_of_list? h
  obtain ⟨w, hw, hread⟩ := hitems x hx
  exact ⟨w, accepts_array_iff.mp hv w hw, hread⟩

theorem Allocation.areParts {a : Allocation} (hv : Shape.allocation.accepts v = true)
    (h : Allocation.ofJson? v = some a) : ∀ r ∈ a.ranges, r.IsPart := by
  obtain ⟨m, hm, h⟩ := Option.bind_eq_some_iff.mp h
  obtain ⟨_, -, h⟩ := Option.bind_eq_some_iff.mp h
  obtain ⟨ranges, hranges, h⟩ := Option.bind_eq_some_iff.mp h
  iterate 2 obtain ⟨_, -, h⟩ := Option.bind_eq_some_iff.mp h
  cases h
  obtain ⟨ms, rfl, hms⟩ := exists_of_accepts_object hv
  cases hm
  obtain ⟨w, hw, hread⟩ := exists_of_required hranges
  intro r hr
  obtain ⟨u, hu, hrange⟩ :=
    exists_of_list? (hms ("ranges", array Shape.range) (by simp) w hw) hread hr
  exact Range.isPart hu hrange

theorem Definition.shaped_of_ofJson? {d : Definition} (hv : Shape.definition.accepts v = true)
    (h : Definition.ofJson? v = some d) : d.Shaped := by
  obtain ⟨ms, rfl, hms⟩ := exists_of_accepts_object hv
  obtain ⟨m, hm, -, hdependsOn, hbuckets, hallocations, -⟩ := Definition.exists_fields h
  cases hm
  refine ⟨Definition.named_of_ofJson? h, ?_, ?_, ?_⟩
  · intro b hb
    obtain ⟨w, hw, hread⟩ := exists_of_required hbuckets
    obtain ⟨u, hu, hbucket⟩ :=
      exists_of_list? (hms ("buckets", array Shape.bucket) (by simp) w hw) hread hb
    exact Bucket.name_ne_empty hu hbucket
  · intro dep hdep
    rw [hdep] at hdependsOn
    obtain ⟨w, hw, hnull, hread⟩ := exists_of_optional hdependsOn
    have haccepts := accepts_nullable_iff.mp
      (hms ("dependsOn", nullable Shape.dependency) (by simp) w hw)
    exact Dependency.testName_ne_empty (haccepts.resolve_left hnull) hread
  · intro a ha
    obtain ⟨w, hw, hread⟩ := exists_of_required hallocations
    obtain ⟨u, hu, hallocation⟩ :=
      exists_of_list? (hms ("allocations", array Shape.allocation) (by simp) w hw) hread ha
    exact Allocation.areParts hu hallocation

/-- The documents that the tests of an artifact were read from. -/
theorem Artifact.exists_tests {a : Artifact} (h : Artifact.ofJson? v = some a) :
    ∃ m, record? ["audit", "tests"] v = some m ∧
      defaulted (map? Definition.ofJson?) NameMap.empty m "tests" = some a.tests := by
  obtain ⟨m, hm, h⟩ := Option.bind_eq_some_iff.mp h
  obtain ⟨audit, -, h⟩ := Option.bind_eq_some_iff.mp h
  obtain ⟨tests, htests, h⟩ := Option.bind_eq_some_iff.mp h
  cases h
  exact ⟨m, hm, htests⟩

theorem Artifact.shaped_of_ofJson? {a : Artifact} (hv : Shape.artifact.accepts v = true)
    (h : Artifact.ofJson? v = some a) {n : String} {d : Definition}
    (hd : a.tests.get? n = some d) : d.Shaped := by
  obtain ⟨ms, rfl, hms⟩ := exists_of_accepts_object hv
  obtain ⟨m, hm, htests⟩ := Artifact.exists_tests h
  cases hm
  rcases eq_or_exists_of_defaulted htests with hempty | ⟨w, hw, hread⟩
  · rw [hempty, NameMap.get?_empty] at hd
    exact nomatch hd
  · have haccepts := hms ("tests", dictionary Shape.definition) (by simp) w hw
    obtain ⟨members, rfl, hmembers⟩ := exists_members_of_map? hread
    obtain ⟨u, hu, hdefinition⟩ := hmembers n d hd
    exact Definition.shaped_of_ofJson? (accepts_dictionary_iff.mp haccepts (n, u) hu) hdefinition

end Read

end Cohort
