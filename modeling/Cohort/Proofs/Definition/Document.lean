import Mathlib.Tactic.SplitIfs
import Cohort.Definition.Document
import Cohort.Proofs.Json.Decode

/-! # Definitions that are written and read again

    Every part of a definition is read back from its own document as it was,
    with two exceptions.  A test type has several names and is written under
    the first of them, so it comes back when it was read from a document
    itself.  A constant is read without a declaration, so it comes back as
    whatever its document looks like: it has settled.  A definition that has
    settled is written as it was before, so nothing more is ever lost. -/

namespace Cohort

open Json

/-! ## Test types -/

namespace Text

/-- Upper case moves the small letters of ASCII, all by the same distance. -/
theorem toNat_toUpper (c : Char) :
    c.toUpper.toNat = if 97 ≤ c.toNat ∧ c.toNat ≤ 122 then c.toNat - 32 else c.toNat := by
  by_cases hlower : 'a'.val ≤ c.val ∧ c.val ≤ 'z'.val
  · have hupper : c.toUpper.val = c.val + ('A'.val - 'a'.val) := by
      delta Char.toUpper
      rw [dif_pos hlower]
    have hbounds : 97 ≤ c.toNat ∧ c.toNat ≤ 122 := hlower
    have hshift : ('A'.val - 'a'.val).toNat = 2 ^ 32 - 32 := rfl
    have hlt := c.val.toNat_lt
    rw [if_pos hbounds, Char.toNat, hupper, UInt32.toNat_add, hshift]
    rw [Char.toNat] at hbounds ⊢
    omega
  · have hsame : c.toUpper = c := by
      delta Char.toUpper
      rw [dif_neg hlower]
    have hbounds : ¬ (97 ≤ c.toNat ∧ c.toNat ≤ 122) := hlower
    rw [hsame, if_neg hbounds]

theorem toUpper_toUpper (c : Char) : c.toUpper.toUpper = c.toUpper := by
  refine Char.toNat_inj.mp ?_
  rw [toNat_toUpper c.toUpper, if_neg]
  rw [toNat_toUpper]
  split <;> omega

theorem isBlank_of_letter {c : Char} (hle : 65 ≤ c.toNat) (hge : c.toNat ≤ 122) :
    isBlank c = false := by
  simp only [isBlank, Bool.or_eq_false_iff, Bool.and_eq_false_iff, decide_eq_false_iff_not,
    beq_eq_false_iff_ne]
  omega

/-- Upper case makes no letter a blank. -/
theorem isBlank_toUpper (c : Char) : isBlank c.toUpper = isBlank c := by
  have hupper := toNat_toUpper c
  split at hupper
  · rw [isBlank_of_letter (c := c) (by omega) (by omega),
      isBlank_of_letter (by omega) (by omega)]
  · rw [Char.toNat_inj.mp hupper]

theorem isBlankText_asciiUpper (s : String) :
    isBlankText (asciiUpper s) = isBlankText s := by
  rw [isBlankText, isBlankText, asciiUpper, String.toList_ofList, List.all_map]
  exact congrArg s.toList.all (funext isBlank_toUpper)

theorem asciiUpper_asciiUpper (s : String) : asciiUpper (asciiUpper s) = asciiUpper s := by
  rw [asciiUpper, asciiUpper, String.toList_ofList, List.map_map]
  exact congrArg (fun f => String.ofList (s.toList.map f))
    (funext toUpper_toUpper)

end Text

namespace TestType

/-- The type is read from its own name. -/
def Named (t : TestType) : Prop :=
  ofJson? (.string t.name) = some t

theorem named_ofName {name : String} (h : Text.isBlankText name = false) :
    (ofName name).Named := by
  rw [ofName]
  split_ifs with huser haccount hemail hrandom hpage hcompany
  · rfl
  · rfl
  · rfl
  · rfl
  · rfl
  · rfl
  · -- the kept name is in upper case already, and still none of the others
    show (if Text.isBlankText (Text.asciiUpper name) = true then none
      else some (ofName (Text.asciiUpper name))) = some (custom (Text.asciiUpper name))
    rw [Text.isBlankText_asciiUpper, h, if_neg Bool.false_ne_true, ofName,
      Text.asciiUpper_asciiUpper, if_neg huser, if_neg haccount, if_neg hemail,
      if_neg hrandom, if_neg hpage, if_neg hcompany]

/-- A type that was read is read from its own name as well. -/
theorem named_of_ofJson? {v : Json} {t : TestType} (h : ofJson? v = some t) : t.Named := by
  obtain ⟨name, -, hname⟩ := Option.bind_eq_some_iff.mp h
  split at hname
  · exact nomatch hname
  · next hblank =>
      rw [← Option.some.inj hname]
      exact named_ofName (Bool.eq_false_iff.mpr hblank)

end TestType

/-! ## Parts of a definition -/

theorem Payload.ofJson?_toJson (p : Payload) : Payload.ofJson? p.toJson = some p := by
  cases p with
  | double x => rfl
  | doubles xs =>
      show (list? float? (.array (xs.map Json.float))).map Payload.doubles = _
      rw [list?_array_self (e := Json.float) (fun _ => rfl), Option.map_some]
  | long n =>
      show (int64? (Json.whole n.toInt)).map Payload.long = _
      rw [int64?_whole, Option.map_some]
  | longs ns =>
      show (list? int64? (.array (ns.map fun n => Json.whole n.toInt))).map Payload.longs = _
      rw [list?_array_self (e := fun n : Int64 => Json.whole n.toInt) int64?_whole,
        Option.map_some]
  | text s => rfl
  | texts ss =>
      show (list? string? (ofNames ss)).map Payload.texts = _
      rw [list?_ofNames, Option.map_some]
  | map m =>
      show (map? some (ofMap m)).map Payload.map = _
      rw [map?_ofMap, Option.map_some]
  | document v => rfl

section Records

attribute [local simp] record?_ofMembers required optional_eq defaulted lookup_members
  reverse_optionalMember lookup_optionalMember optionalOf_string List.lookup_append
  List.lookup_cons string?

theorem Bucket.ofJson?_toJson (b : Bucket) : Bucket.ofJson? b.toJson = some b := by
  have hpayload := optionalOf_map_self (e := Payload.toJson) nofun Payload.ofJson?_toJson
    b.payload
  simp [Bucket.ofJson?, Bucket.toJson, hpayload]

theorem Range.ofJson?_toJson (r : Range) : Range.ofJson? r.toJson = some r := by
  simp [Range.ofJson?, Range.toJson, float?, Json.float]

theorem Allocation.ofJson?_toJson (a : Allocation) :
    Allocation.ofJson? a.toJson = some a := by
  have hranges := list?_array_self (e := Range.toJson) Range.ofJson?_toJson a.ranges
  simp [Allocation.ofJson?, Allocation.toJson, hranges]

theorem Dependency.ofJson?_toJson (d : Dependency) :
    Dependency.ofJson? d.toJson = some d := by
  simp [Dependency.ofJson?, Dependency.toJson]

theorem ExperimentConfig.ofJson?_toJson (c : ExperimentConfig) :
    ExperimentConfig.ofJson? c.toJson = some c := by
  simp [ExperimentConfig.ofJson?, ExperimentConfig.toJson]

theorem Audit.ofJson?_toJson (a : Audit) : Audit.ofJson? a.toJson = some a := by
  simp [Audit.ofJson?, Audit.toJson]

end Records

/-! ## Constants -/

namespace Value

/-- The value that the document of a value holds. -/
def settled (v : Value) : Value :=
  ofJson v.toJson

mutual

/-- A value that has settled is written as before. -/
theorem toJson_settled : ∀ v : Value, v.settled.toJson = v.toJson
  | .null => rfl
  | .bool _ => rfl
  | .int n => by
      rw [settled, toJson, ofJson, ofNumber, Decimal.fit64?_toInt]
      rfl
  | .float x => by
      rw [settled, toJson]
      split
      · next hfinite => rw [ofJson, ofNumber, toJson, if_pos hfinite]
      · rfl
  | .string _ => rfl
  | .list items => congrArg Json.array (toItems_settled items)
  | .map entries => congrArg Json.object (toMembers_settled entries)

theorem toItems_settled : ∀ items : List Value,
    toItems (ofItems (toItems items)) = toItems items
  | [] => rfl
  | v :: rest => by
      have hv := toJson_settled v
      rw [settled] at hv
      rw [toItems, ofItems, toItems, hv, toItems_settled rest]

theorem toMembers_settled : ∀ entries : List (String × Value),
    toMembers (ofMembers (toMembers entries)) = toMembers entries
  | [] => rfl
  | (k, v) :: rest => by
      have hv := toJson_settled v
      rw [settled] at hv
      rw [toMembers, ofMembers, toMembers, hv, toMembers_settled rest]

end

end Value

/-! ## Definitions and artifacts -/

/-- The definition with its constants settled. -/
def Definition.settled (d : Definition) : Definition :=
  { d with
    constants := d.constants.map Value.settled
    specialConstants := d.specialConstants.map Value.settled }

theorem Definition.toJson_settled (d : Definition) : d.settled.toJson = d.toJson := by
  have hconstants (m : NameMap Value) :
      ofMapWith Value.toJson (m.map Value.settled) = ofMapWith Value.toJson m := by
    rw [ofMapWith, NameMap.map_map]
    exact congrArg (fun e => ofMap (m.map e)) (funext Value.toJson_settled)
  rw [toJson, toJson, settled, hconstants, hconstants]

/-- The members that a definition is written with, up to their order. -/
theorem Definition.exists_members (d : Definition) :
    ∃ m, d.toJson = .object m ∧
      m.lookup "version" = some (.string d.version) ∧
      m.lookup "testType" = some (.string d.testType.name) ∧
      m.lookup "salt" = some (.string d.salt) ∧
      m.lookup "rule" = d.rule.map Json.string ∧
      m.lookup "dependsOn" = d.dependsOn.map Dependency.toJson ∧
      m.lookup "buckets" = some (.array (d.buckets.map Bucket.toJson)) ∧
      m.lookup "allocations" = some (.array (d.allocations.map Allocation.toJson)) ∧
      m.lookup "constants" = some (ofMapWith Value.toJson d.constants) ∧
      m.lookup "specialConstants" = some (ofMapWith Value.toJson d.specialConstants) ∧
      m.lookup "description" = d.description.map Json.string ∧
      m.lookup "silent" = some (.bool d.silent) ∧
      m.lookup "metaTags" = some (ofNameSet d.metaTags) ∧
      m.lookup "dynamic" = some (.bool d.dynamic) ∧
      m.lookup "evaluateForIncognitoUsers" = some (.bool d.evaluateForIncognitoUsers) ∧
      m.lookup "payloadExperimentConfig"
        = d.payloadExperimentConfig.map ExperimentConfig.toJson := by
  -- the members stay a variable: written out, they would be copied into every field
  obtain ⟨m, hm, hlookup⟩ := exists_object _
  refine ⟨m, hm, ?_⟩
  simp [hlookup, reverse_optionalMember, lookup_optionalMember, List.lookup_append,
    List.lookup_cons]

/-- A definition is read back with its constants settled. -/
theorem Definition.ofJson?_toJson {d : Definition} (htype : d.testType.Named) :
    Definition.ofJson? d.toJson = some d.settled := by
  rw [TestType.Named] at htype
  have hbuckets := list?_array_self (e := Bucket.toJson) Bucket.ofJson?_toJson d.buckets
  have hallocations :=
    list?_array_self (e := Allocation.toJson) Allocation.ofJson?_toJson d.allocations
  have hconstants (m : NameMap Value) :
      map? (some ∘ Value.ofJson) (ofMapWith Value.toJson m) = some (m.map Value.settled) :=
    map?_ofMapWith fun _ _ _ => rfl
  have hdependsOn :=
    optionalOf_map_self (e := Dependency.toJson) nofun Dependency.ofJson?_toJson d.dependsOn
  have hconfig := optionalOf_map_self (e := ExperimentConfig.toJson) nofun
    ExperimentConfig.ofJson?_toJson d.payloadExperimentConfig
  obtain ⟨m, hm, hfields⟩ := d.exists_members
  rw [hm, Definition.ofJson?, record?, Option.bind_eq_bind, Option.bind_some]
  simp only [required, optional_eq, defaulted, hfields, Option.bind_some, optionalOf_string,
    nameSet?_ofNameSet, htype, hbuckets, hallocations, hconstants, hdependsOn, hconfig]
  rfl

/-- The members that the parts of a definition were read from. -/
theorem Definition.exists_fields {v : Json} {d : Definition}
    (h : Definition.ofJson? v = some d) :
    ∃ m, record? Definition.fields v = some m ∧
      required TestType.ofJson? m "testType" = some d.testType ∧
      optional Dependency.ofJson? m "dependsOn" = some d.dependsOn ∧
      required (list? Bucket.ofJson?) m "buckets" = some d.buckets ∧
      required (list? Allocation.ofJson?) m "allocations" = some d.allocations ∧
      defaulted (map? (some ∘ Value.ofJson)) NameMap.empty m "constants" = some d.constants ∧
      defaulted (map? (some ∘ Value.ofJson)) NameMap.empty m "specialConstants"
        = some d.specialConstants := by
  obtain ⟨m, hm, h⟩ := Option.bind_eq_some_iff.mp h
  obtain ⟨_, -, h⟩ := Option.bind_eq_some_iff.mp h
  obtain ⟨testType, htype, h⟩ := Option.bind_eq_some_iff.mp h
  obtain ⟨_, -, h⟩ := Option.bind_eq_some_iff.mp h
  obtain ⟨_, -, h⟩ := Option.bind_eq_some_iff.mp h
  obtain ⟨dependsOn, hdependsOn, h⟩ := Option.bind_eq_some_iff.mp h
  obtain ⟨buckets, hbuckets, h⟩ := Option.bind_eq_some_iff.mp h
  obtain ⟨allocations, hallocations, h⟩ := Option.bind_eq_some_iff.mp h
  obtain ⟨constants, hconstants, h⟩ := Option.bind_eq_some_iff.mp h
  obtain ⟨specialConstants, hspecial, h⟩ := Option.bind_eq_some_iff.mp h
  -- the rest is read as it is
  iterate 6 obtain ⟨_, -, h⟩ := Option.bind_eq_some_iff.mp h
  cases h
  exact ⟨m, hm, htype, hdependsOn, hbuckets, hallocations, hconstants, hspecial⟩

/-- The type of a definition that was read is read from its own name. -/
theorem Definition.named_of_ofJson? {v : Json} {d : Definition}
    (h : Definition.ofJson? v = some d) : d.testType.Named := by
  obtain ⟨m, -, htype, -⟩ := Definition.exists_fields h
  obtain ⟨w, -, hread⟩ := exists_of_required htype
  exact TestType.named_of_ofJson? hread

namespace Artifact

/-- The artifact with the constants of its definitions settled. -/
def settled (a : Artifact) : Artifact :=
  { a with tests := a.tests.map Definition.settled }

theorem toJson_settled (a : Artifact) : a.settled.toJson = a.toJson := by
  have htests : ofMapWith Definition.toJson (a.tests.map Definition.settled)
      = ofMapWith Definition.toJson a.tests := by
    rw [ofMapWith, NameMap.map_map]
    exact congrArg (fun e => ofMap (a.tests.map e)) (funext Definition.toJson_settled)
  rw [toJson, toJson, settled, htests]

/-- An artifact is read back with its constants settled. -/
theorem ofJson?_toJson {a : Artifact}
    (htypes : ∀ n d, a.tests.get? n = some d → d.testType.Named) :
    Artifact.ofJson? a.toJson = some a.settled := by
  have htests : map? Definition.ofJson? (ofMapWith Definition.toJson a.tests)
      = some (a.tests.map Definition.settled) :=
    map?_ofMapWith fun n d hd => Definition.ofJson?_toJson (htypes n d hd)
  simp [Artifact.ofJson?, Artifact.toJson, record?_ofMembers, required, defaulted,
    lookup_members, List.lookup_cons, Audit.ofJson?_toJson, htests, settled]

end Artifact

end Cohort
