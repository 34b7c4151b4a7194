import Cohort.Proofs.Definition.Document
import Cohort.Proofs.Json.Hereditary

/-! # What definitions hand on

    A definition is written out of the parts that it was read from.  So a
    property that is handed on from documents to what is written of them is one
    of the document of a definition, if the definition was read from a document
    with this property, and one of the document of an artifact of such
    definitions. -/

namespace Cohort.Json.Hereditary

variable {P : Json → Prop} (hP : Hereditary P) {v : Json}

include hP

theorem payload {p : Payload} (hv : P v) (h : Payload.ofJson? v = some p) : P p.toJson := by
  have hcontent : P p.content := by
    unfold Payload.ofJson? at h
    split at h
    · next kind w =>
        have hw : P w := hP.member hv List.mem_cons_self
        -- a case for each kind, in the order in which they are tried
        split_ifs at h
        · obtain ⟨x, hx, rfl⟩ := Option.map_eq_some_iff.mp h
          exact hP.float hw hx
        · obtain ⟨xs, hxs, rfl⟩ := Option.map_eq_some_iff.mp h
          refine hP.map (e := Json.float) fun x hx => ?_
          obtain ⟨u, hu, hread⟩ := hP.exists_of_list? hw hxs hx
          exact hP.float hu hread
        · obtain ⟨n, -, rfl⟩ := Option.map_eq_some_iff.mp h
          exact hP.int64 n
        · obtain ⟨ns, -, rfl⟩ := Option.map_eq_some_iff.mp h
          exact hP.map (e := fun n : Int64 => Json.whole n.toInt) fun n _ => hP.int64 n
        · obtain ⟨s, -, rfl⟩ := Option.map_eq_some_iff.mp h
          exact hP.string s
        · obtain ⟨ss, -, rfl⟩ := Option.map_eq_some_iff.mp h
          exact hP.ofNames ss
        · obtain ⟨m, hm, rfl⟩ := Option.map_eq_some_iff.mp h
          refine hP.ofMap fun name a ha => ?_
          obtain ⟨u, hu, hread⟩ := hP.exists_of_map? hw hm ha
          exact Option.some.inj hread ▸ hu
        · cases h
          exact hw
    · exact nomatch h
  exact hP.single hcontent

theorem bucket {b : Bucket} (hv : P v) (h : Bucket.ofJson? v = some b) : P b.toJson := by
  obtain ⟨m, hm, h⟩ := Option.bind_eq_some_iff.mp h
  iterate 3 obtain ⟨_, -, h⟩ := Option.bind_eq_some_iff.mp h
  obtain ⟨payload, hpayload, h⟩ := Option.bind_eq_some_iff.mp h
  cases h
  refine hP.ofMembers ?_
  simp only [List.forall_mem_append, List.forall_mem_cons, forall_mem_optionalMember]
  refine ⟨⟨⟨hP.string _, hP.int32 _, nofun⟩, fun _ _ => hP.string _⟩, ?_⟩
  intro p hp
  rw [hp] at hpayload
  obtain ⟨w, hw, -, hread⟩ := exists_of_optional hpayload
  exact hP.payload (hP.of_record? hv hm hw) hread

theorem range {r : Range} (hv : P v) (h : Range.ofJson? v = some r) : P r.toJson := by
  obtain ⟨m, hm, h⟩ := Option.bind_eq_some_iff.mp h
  obtain ⟨_, -, h⟩ := Option.bind_eq_some_iff.mp h
  obtain ⟨length, hlength, h⟩ := Option.bind_eq_some_iff.mp h
  cases h
  obtain ⟨w, hw, hread⟩ := exists_of_required hlength
  have hfloat : P (Json.float length) := hP.float (hP.of_record? hv hm hw) hread
  refine hP.ofMembers ?_
  simp only [List.forall_mem_cons]
  exact ⟨hP.int32 _, hfloat, nofun⟩

theorem allocation {a : Allocation} (hv : P v) (h : Allocation.ofJson? v = some a) :
    P a.toJson := by
  obtain ⟨m, hm, h⟩ := Option.bind_eq_some_iff.mp h
  obtain ⟨_, -, h⟩ := Option.bind_eq_some_iff.mp h
  obtain ⟨ranges, hranges, h⟩ := Option.bind_eq_some_iff.mp h
  iterate 2 obtain ⟨_, -, h⟩ := Option.bind_eq_some_iff.mp h
  cases h
  obtain ⟨w, hw, hread⟩ := exists_of_required hranges
  have hitems : P (Json.array (ranges.map Range.toJson)) := by
    refine hP.map fun r hr => ?_
    obtain ⟨u, hu, hrange⟩ := hP.exists_of_list? (hP.of_record? hv hm hw) hread hr
    exact hP.range hu hrange
  refine hP.ofMembers ?_
  simp only [List.forall_mem_append, List.forall_mem_cons, forall_mem_optionalMember]
  exact ⟨⟨fun _ _ => hP.string _, hitems, hP.string _, nofun⟩, fun _ _ => hP.string _⟩

theorem dependency (d : Dependency) : P d.toJson := by
  refine hP.ofMembers ?_
  simp only [List.forall_mem_cons]
  exact ⟨hP.string _, hP.int32 _, nofun⟩

theorem experimentConfig (c : ExperimentConfig) : P c.toJson := by
  refine hP.ofMembers ?_
  simp only [List.forall_mem_append, List.forall_mem_cons, forall_mem_optionalMember]
  exact ⟨fun _ _ => hP.string _, hP.ofNames _, nofun⟩

theorem audit (a : Audit) : P a.toJson := by
  refine hP.ofMembers ?_
  simp only [List.forall_mem_cons]
  exact ⟨hP.string _, hP.int64 _, hP.string _, nofun⟩

/-- Constants are written as they were read. -/
theorem constants {m : List (String × Json)} {name : String} {constants : NameMap Value}
    (hm : ∀ w, m.lookup name = some w → P w)
    (h : defaulted (map? (some ∘ Value.ofJson)) NameMap.empty m name = some constants) :
    P (Json.ofMapWith Value.toJson constants) := by
  refine hP.ofMapWith fun k c hk => ?_
  obtain rfl | ⟨w, hw, hread⟩ := eq_or_exists_of_defaulted h
  · rw [NameMap.get?_empty] at hk
    exact nomatch hk
  · obtain ⟨u, hu, hc⟩ := hP.exists_of_map? (hm w hw) hread hk
    exact Option.some.inj hc ▸ hP.value hu

theorem definition {d : Definition} (hv : P v) (h : Definition.ofJson? v = some d) :
    P d.toJson := by
  obtain ⟨m, hm, -, -, hbuckets, hallocations, hconstants, hspecial⟩ :=
    Definition.exists_fields h
  have hbuckets : P (Json.array (d.buckets.map Bucket.toJson)) := by
    obtain ⟨w, hw, hread⟩ := exists_of_required hbuckets
    refine hP.map fun b hb => ?_
    obtain ⟨u, hu, hbucket⟩ := hP.exists_of_list? (hP.of_record? hv hm hw) hread hb
    exact hP.bucket hu hbucket
  have hallocations : P (Json.array (d.allocations.map Allocation.toJson)) := by
    obtain ⟨w, hw, hread⟩ := exists_of_required hallocations
    refine hP.map fun a ha => ?_
    obtain ⟨u, hu, hallocation⟩ := hP.exists_of_list? (hP.of_record? hv hm hw) hread ha
    exact hP.allocation hu hallocation
  have hconstants := hP.constants (fun _ => hP.of_record? hv hm) hconstants
  have hspecial := hP.constants (fun _ => hP.of_record? hv hm) hspecial
  refine hP.ofMembers ?_
  simp only [List.forall_mem_append, List.forall_mem_cons, forall_mem_optionalMember]
  refine ⟨⟨⟨⟨?_, fun _ _ => hP.string _⟩, fun dep _ => hP.dependency dep⟩,
    fun _ _ => hP.string _⟩, fun c _ => hP.experimentConfig c⟩
  exact ⟨hP.string _, hP.string _, hP.string _, hbuckets, hallocations, hconstants, hspecial,
    hP.bool _, hP.ofNames _, hP.bool _, hP.bool _, nofun⟩

/-- The document of an artifact has it when those of the definitions do. -/
theorem artifact {a : Artifact} (h : ∀ n d, a.tests.get? n = some d → P d.toJson) :
    P a.toJson := by
  refine hP.ofMembers ?_
  simp only [List.forall_mem_cons]
  exact ⟨hP.audit a.audit, hP.ofMapWith h, nofun⟩

end Cohort.Json.Hereditary
