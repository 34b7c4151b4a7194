import Cohort.Proofs.Artifact.Shape
import Cohort.Proofs.Definition.Hereditary
import Cohort.Proofs.Json.Proper

/-! # Artifacts that are loaded, written and loaded again

    A document may say the same in several ways: fields may be absent or null,
    test types go by several names, and whole numbers stand for floats.
    Loading forgets which way was chosen, and writing always chooses the same
    one.  What was loaded is therefore loaded from its own document again,
    provided that constants come back, since they are read without a
    declaration.  Those of a loaded artifact do: their numbers have the kind
    that they are read as. -/

namespace Cohort

open Json

/-! ## Constants -/

namespace Value

theorem settled_ofNumber {n : JsonNumber} (hn : n.isProper = true) :
    (ofNumber n).settled = ofNumber n := by
  cases n with
  | whole n =>
      rw [ofNumber]
      cases hfit : Decimal.fit64? n with
      | some i =>
          rw [settled, toJson, ofJson, ofNumber, Decimal.fit64?_toInt]
      | none =>
          -- the number was rounded, and its float is written as one
          obtain ⟨hle, hlt⟩ := isProper_whole_iff.mp hn
          have hfinite := Decimal.isFinite_ofInt hle hlt
          rw [settled, toJson, if_pos hfinite, ofJson, ofNumber]
  | float x =>
      have hfinite : x.isFinite = true := hn
      rw [ofNumber, settled, toJson, if_pos hfinite, ofJson, ofNumber]

mutual

/-- A value that was read from a document has settled. -/
theorem settled_ofJson : ∀ {v : Json}, v.isProper = true → (ofJson v).settled = ofJson v
  | .null, _ => rfl
  | .bool _, _ => rfl
  | .number _, h => settled_ofNumber h
  | .string _, _ => rfl
  | .array _, h => congrArg Value.list (settled_ofItems h)
  | .object _, h => congrArg Value.map (settled_ofMembers h)

theorem settled_ofItems : ∀ {items : List Json}, areProper items = true →
    ofItems (toItems (ofItems items)) = ofItems items
  | [], _ => rfl
  | v :: rest, h => by
      obtain ⟨hv, hrest⟩ := Bool.and_eq_true_iff.mp h
      have hsettled := settled_ofJson hv
      rw [settled] at hsettled
      rw [ofItems, toItems, ofItems, hsettled, settled_ofItems hrest]

theorem settled_ofMembers : ∀ {members : List (String × Json)}, haveProper members = true →
    ofMembers (toMembers (ofMembers members)) = ofMembers members
  | [], _ => rfl
  | (k, v) :: rest, h => by
      obtain ⟨hv, hrest⟩ := Bool.and_eq_true_iff.mp h
      have hsettled := settled_ofJson hv
      rw [settled] at hsettled
      rw [ofMembers, toMembers, ofMembers, hsettled, settled_ofMembers hrest]

end

end Value

/-! ## What was read from proper documents -/

section Read

variable {v : Json}

/-- Constants that were read have settled. -/
theorem settled_constants {m : List (String × Json)} {name : String} {constants : NameMap Value}
    (hm : ∀ w, m.lookup name = some w → w.isProper = true)
    (h : defaulted (map? (some ∘ Value.ofJson)) NameMap.empty m name = some constants) :
    constants.map Value.settled = constants := by
  refine NameMap.ext_get? fun k => ?_
  rw [NameMap.get?_map]
  cases hk : constants.get? k with
  | none => rfl
  | some c =>
      rcases eq_or_exists_of_defaulted h with rfl | ⟨w, hw, hread⟩
      · rw [NameMap.get?_empty] at hk
        exact nomatch hk
      · obtain ⟨u, hu, hc⟩ := hereditary_isProper.exists_of_map? (hm w hw) hread hk
        rw [← Option.some.inj hc, Option.map_some, Value.settled_ofJson hu]

/-- A definition that was read has settled. -/
theorem Definition.settled_eq {d : Definition} (hv : v.isProper = true)
    (h : Definition.ofJson? v = some d) : d.settled = d := by
  obtain ⟨m, hm, -, -, -, -, hconstants, hspecial⟩ := Definition.exists_fields h
  rw [settled, settled_constants (fun _ => hereditary_isProper.of_record? hv hm) hconstants,
    settled_constants (fun _ => hereditary_isProper.of_record? hv hm) hspecial]

end Read

/-! ## Artifacts -/

namespace Artifact

variable {v : Json} {a : Artifact}

/-- The tests of an artifact were read from proper documents. -/
theorem exists_proper (hv : v.isProper = true) (h : Artifact.ofJson? v = some a) {n : String}
    {d : Definition} (hd : a.tests.get? n = some d) :
    ∃ w, w.isProper = true ∧ Definition.ofJson? w = some d := by
  obtain ⟨m, hm, htests⟩ := Artifact.exists_tests h
  rcases eq_or_exists_of_defaulted htests with hempty | ⟨w, hw, hread⟩
  · rw [hempty, NameMap.get?_empty] at hd
    exact nomatch hd
  · exact hereditary_isProper.exists_of_map? (hereditary_isProper.of_record? hv hm hw) hread hd

theorem settled_eq (hv : v.isProper = true) (h : Artifact.ofJson? v = some a) :
    a.settled = a := by
  have htests : a.tests.map Definition.settled = a.tests := by
    refine NameMap.ext_get? fun n => ?_
    rw [NameMap.get?_map]
    cases hn : a.tests.get? n with
    | none => rfl
    | some d =>
        obtain ⟨w, hw, hread⟩ := exists_proper hv h hn
        rw [Option.map_some, Definition.settled_eq hw hread]
  rw [settled, htests]

theorem isProper_toJson (hv : v.isProper = true) (h : Artifact.ofJson? v = some a) :
    a.toJson.isProper = true := by
  refine hereditary_isProper.artifact fun n d hd => ?_
  obtain ⟨w, hw, hread⟩ := exists_proper hv h hd
  exact hereditary_isProper.definition hw hread

/-- **WHAT WAS LOADED IS LOADED AGAIN**: an artifact is written as a document that
    is loaded as the same artifact, so whatever is written from then on is the
    same document. -/
theorem ofDocument_toJson {w : Wording} {source : String} (hv : v.isProper = true)
    (h : ofDocument w source v = .ok a) :
    a.toJson.isProper = true ∧
    (∀ source', ofDocument w source' a.toJson = .ok a) ∧
    ∀ source' b, ofDocument w source' a.toJson = .ok b → b.toJson = a.toJson := by
  obtain ⟨haccepts, hread⟩ := ofDocument_eq_ok_iff.mp h
  have hshaped : ∀ n d, a.tests.get? n = some d → d.Shaped :=
    fun _ _ hd => shaped_of_ofJson? haccepts hread hd
  have hagain : ofJson? a.toJson = some a := by
    rw [ofJson?_toJson fun n d hd => (hshaped n d hd).named, settled_eq hv hread]
  have hload : ∀ source', ofDocument w source' a.toJson = .ok a :=
    fun _ => ofDocument_eq_ok_iff.mpr ⟨accepts_toJson hshaped, hagain⟩
  refine ⟨isProper_toJson hv hread, hload, ?_⟩
  intro source' b hb
  rw [hload source'] at hb
  cases hb
  rfl

/-! ## A document that is written differently -/

/-- A document that leaves out what it can, calls the type by another name and
    writes whole numbers for floats. -/
def looseDocument : Json :=
  .object [
    ("audit", .object [("version", .string "7")]),
    ("tests", .object [("child", .object [
      ("allocations", .array [.object [
        ("ranges", .array [.object [("bucketValue", .number (.whole 0)),
          ("length", .number (.whole 1))]]),
        ("rule", .null)]]),
      ("buckets", .array [.object [
        ("name", .string "a"),
        ("payload", .object [("doubleArray", .array [.number (.whole 2)])]),
        ("value", .number (.whole 0))]]),
      ("constants", .object [("LIMIT", .number (.whole 9223372036854775808)),
        ("PLANS", .array [.number (.whole 1), .number (.float 0.5), .null])]),
      ("dependsOn", .object [("bucketValue", .number (.whole 1)), ("testName", .string "root")]),
      ("metaTags", .array [.string "ui", .string "beta", .string "ui"]),
      ("salt", .string "s"),
      ("testType", .string "authenticated_user")])])]

/-- The same in the one way that documents are written. -/
def strictDocument : Json :=
  .object [
    ("audit", .object [("updated", .number (.whole 0)), ("updatedBy", .string ""),
      ("version", .string "7")]),
    ("tests", .object [("child", .object [
      ("allocations", .array [.object [
        ("id", .string ""),
        ("ranges", .array [.object [("bucketValue", .number (.whole 0)),
          ("length", .number (.float 1.0))]])]]),
      ("buckets", .array [.object [
        ("name", .string "a"),
        ("payload", .object [("doubleArray", .array [.number (.float 2.0)])]),
        ("value", .number (.whole 0))]]),
      ("constants", .object [("LIMIT", .number (.float 9223372036854775808.0)),
        ("PLANS", .array [.number (.whole 1), .number (.float 0.5), .null])]),
      ("dependsOn", .object [("bucketValue", .number (.whole 1)), ("testName", .string "root")]),
      ("dynamic", .bool false),
      ("evaluateForIncognitoUsers", .bool false),
      ("metaTags", .array [.string "beta", .string "ui"]),
      ("salt", .string "s"),
      ("silent", .bool false),
      ("specialConstants", .object []),
      ("testType", .string "ACCOUNT"),
      ("version", .string "")])])]

theorem looseDocument_loads :
    (ofDocument .plain "matrix" looseDocument).toOption.map Artifact.toJson
      = some strictDocument := by
  decide +kernel

/-- Once it is written the document stays as it is. -/
theorem strictDocument_stays : looseDocument.isProper = true ∧
    ∃ a, ofDocument .plain "matrix" looseDocument = .ok a ∧ a.toJson = strictDocument ∧
      a.toJson.isProper = true ∧
      (∀ source', ofDocument .plain source' a.toJson = .ok a) ∧
      ∀ source' b, ofDocument .plain source' a.toJson = .ok b → b.toJson = a.toJson := by
  have hproper : looseDocument.isProper = true := rfl
  have hwritten := looseDocument_loads
  cases hload : ofDocument .plain "matrix" looseDocument with
  | error e =>
      rw [hload] at hwritten
      exact nomatch hwritten
  | ok a =>
      rw [hload] at hwritten
      exact ⟨hproper, a, rfl, Option.some.inj hwritten, ofDocument_toJson hproper hload⟩

end Artifact

end Cohort
