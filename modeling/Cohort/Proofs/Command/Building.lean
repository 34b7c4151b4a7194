import Cohort.Command
import Cohort.Pattern.Engine
import Cohort.Proofs.Artifact.Shape
import Cohort.Proofs.Catalogue
import Cohort.Proofs.Consistency.Acceptance
import Cohort.Proofs.Feed.Preparation
import Cohort.Proofs.Json.Written
import Cohort.Yaml.Reader

/-! # Artifacts that are built and then validated

    An artifact is built from definitions that were verified one by one.  What
    is written is read back as it was, and a definition is in order after the
    round trip as it was before, so validation has nothing to say about any
    definition by itself.  Dependencies, however, are not looked at when an
    artifact is built: whatever is wrong with them is found by those who
    validate or load it.  All this holds whichever library reads YAML, and
    whatever time rules are told. -/

namespace Cohort

open Consistency

/-! ## Definitions that have settled -/

section Settled

variable {l : Rule.Library} (l' : Rule.Library) {d : Definition} {rule : Option String}

/-- Where rules are only parsed, neither constants nor functions matter for them. -/
theorem Consistency.ruleAccepted_settled
    (h : RuleAccepted l Provided.syntaxOnly d rule) :
    RuleAccepted l' Provided.syntaxOnly d.settled rule := by
  intro text htext hblank
  obtain ⟨e, he, -⟩ := h text htext hblank
  exact ⟨e, he, nofun⟩

theorem Consistency.Accepted.settled (h : Accepted l Provided.syntaxOnly d) :
    Accepted l' Provided.syntaxOnly d.settled where
  buckets_ne_nil := h.buckets_ne_nil
  distinct := h.distinct
  rule := ruleAccepted_settled l' h.rule
  allocations_ne_nil := h.allocations_ne_nil
  allocation a ha :=
    have haccepted := h.allocation a ha
    { ranges_ne_nil := haccepted.ranges_ne_nil
      declared := haccepted.declared
      isLength := haccepted.isLength
      total := haccepted.total
      rule := ruleAccepted_settled l' haccepted.rule }
  blankOnlyLast := h.blankOnlyLast
  payloads := h.payloads

/-- Settling the constants of a definition brings up no problem. -/
theorem Consistency.fine_settled {n : String} (h : Fine l Provided.syntaxOnly n d) :
    Fine l' Provided.syntaxOnly n d.settled :=
  (fine_iff_accepted l' _ n _).mpr (((fine_iff_accepted l _ n d).mp h).settled l')

end Settled

namespace Command

variable {w : Wording} {yaml : YamlReader} {l : Rule.Library} {root : String}
  {files : Except String (List SourceFile)} {out version author : String} {updated : Int64}
  {a : Artifact}

/-! ## Building -/

/-- What is built is a catalogue without problems, written and read again. -/
theorem exists_of_build (h : build w yaml l root files out version author updated = .ok a) :
    ∃ c, Catalogue.ofDirectory w yaml root files = .ok c ∧ c.problems l = [] ∧
      Artifact.ofDocument w out (assemble c version author updated).toJson = .ok a := by
  rw [build] at h
  cases hc : Catalogue.ofDirectory w yaml root files with
  | error e =>
      rw [hc] at h
      cases h
  | ok c =>
      rw [hc] at h
      cases hproblems : c.problems l with
      | cons problem rest =>
          simp only [hproblems] at h
          cases h
      | nil =>
          simp only [hproblems] at h
          cases hread : Artifact.ofDocument w out (assemble c version author updated).toJson with
          | error e =>
              rw [hread] at h
              cases h
          | ok b =>
              rw [hread] at h
              exact ⟨c, rfl, hproblems, hread.trans (congrArg Except.ok (Except.ok.inj h))⟩

/-- It is the artifact of the catalogue, with its constants settled. -/
theorem eq_settled_of_read {c : Catalogue} (hc : Catalogue.ofDirectory w yaml root files = .ok c)
    (hread : Artifact.ofDocument w out (assemble c version author updated).toJson = .ok a) :
    a = (assemble c version author updated).settled := by
  have hnamed : ∀ n d, (assemble c version author updated).tests.get? n = some d →
      d.testType.Named :=
    fun _ _ hd => (Catalogue.allRead_ofDirectory hc).named hd
  obtain ⟨-, hjson⟩ := Artifact.ofDocument_eq_ok_iff.mp hread
  rw [Artifact.ofJson?_toJson hnamed] at hjson
  exact (Option.some.inj hjson).symm

/-- It is written as the artifact of the catalogue is. -/
theorem toJson_of_read {c : Catalogue} (hc : Catalogue.ofDirectory w yaml root files = .ok c)
    (hread : Artifact.ofDocument w out (assemble c version author updated).toJson = .ok a) :
    a.toJson = (assemble c version author updated).toJson := by
  rw [eq_settled_of_read hc hread, Artifact.toJson_settled]

/-- **WHAT IS BUILT IS LOADED**: the document of an artifact that was built is
    loaded as that artifact. -/
theorem ofDocument_of_build (h : build w yaml l root files out version author updated = .ok a)
    (source : String) : Artifact.ofDocument w source a.toJson = .ok a := by
  obtain ⟨c, hc, -, hread⟩ := exists_of_build h
  rw [toJson_of_read hc hread]
  exact Artifact.ofDocument_eq_ok_iff.mpr (Artifact.ofDocument_eq_ok_iff.mp hread)

/-- The members of its document are in order. -/
theorem isOrdered_of_build (h : build w yaml l root files out version author updated = .ok a) :
    a.toJson.IsOrdered := by
  obtain ⟨c, hc, -, hread⟩ := exists_of_build h
  rw [toJson_of_read hc hread]
  exact Json.hereditary_isOrdered.artifact fun _ _ hd =>
    (Catalogue.allRead_ofDirectory hc).isOrdered hd

/-- **WHAT IS WRITTEN IS READ**, if numbers and nesting let it: the text of the
    file is read as the document. -/
theorem parse?_written_of_build
    (h : build w yaml l root files out version author updated = .ok a)
    (hback : a.toJson.ReadsBack) : Json.parse? (written a) = some a.toJson := by
  rw [written, Json.parse?_pretty hback, Json.normal_of_isOrdered (isOrdered_of_build h)]

theorem ofFile_of_build (h : build w yaml l root files out version author updated = .ok a)
    {text : String} (htext : Json.parse? text = some a.toJson) (source : String) :
    Artifact.ofFile w source (.ok text) = .ok a := by
  rw [Artifact.ofFile, Artifact.ofText, htext]
  exact ofDocument_of_build h source

/-- **NOTHING IS WRONG WITH A DEFINITION**: what is built holds definitions in
    order. -/
theorem fine_of_build (h : build w yaml l root files out version author updated = .ok a)
    (l' : Rule.Library) (n : String) (d : Definition) (hd : a.tests.get? n = some d) :
    Fine l' Provided.syntaxOnly n d := by
  obtain ⟨c, hc, hproblems, hread⟩ := exists_of_build h
  obtain rfl := eq_settled_of_read hc hread
  have hmap : ((assemble c version author updated).tests.map Definition.settled).get? n
      = some d := hd
  rw [NameMap.get?_map] at hmap
  obtain ⟨d', hd', rfl⟩ := Option.map_eq_some_iff.mp hmap
  exact fine_settled l' (Catalogue.fine_of_problems_eq_nil hproblems hd')

/-! ## Validating -/

/-- Without a specification, validation passes when verification finds nothing. -/
theorem error_validate_eq_none_iff {r : PatternLibrary} {source : String}
    {content : Except String String} (hload : Artifact.ofFile w source content = .ok a)
    (s : Session) :
    (validate w l r source content none s).1.error = none
      ↔ (verifyAll l Provided.syntaxOnly source a).value = NameMap.empty := by
  have hsubjects : subjects w source content none = .ok (a, none) := by
    rw [subjects, hload]
    rfl
  have hverdict : (validate w l r source content none s).1.error
      = reportError source ⟨((verifyAll l Provided.syntaxOnly source a s).1).map .inconsistent,
          NameSet.empty, NameMap.empty⟩ := by
    rw [validate, hsubjects]
    rfl
  rw [hverdict, steady_verifyAll l Provided.syntaxOnly source a s, ← NameMap.isEmpty_iff,
    reportError, Specification.Report.hasInvalid, NameMap.isEmpty_map]
  cases (verifyAll l Provided.syntaxOnly source a).value.isEmpty with
  | true => exact ⟨fun _ => rfl, fun _ => rfl⟩
  | false => exact ⟨nofun, nofun⟩

/-- **DEPENDENCIES ARE ALL THAT CAN BE WRONG** with an artifact that was built,
    whichever library reads YAML and whatever functions rules have later.

    Its document is loaded as that artifact.  The text of its file is read as
    the document when all numbers and the nesting of the document let it, and
    so is a text of the document that lists members in another order.
    Verification finds the broken dependencies and nothing else; validation of
    a text that is read as the document passes just when all dependencies are
    in order; and a client that loads the artifact keeps just the tests whose
    dependencies are. -/
theorem built_fails_by_dependencies
    (h : build w yaml l root files out version author updated = .ok a) :
    (∀ source, Artifact.ofDocument w source a.toJson = .ok a) ∧
    (a.toJson.ReadsBack → Json.parse? (written a) = some a.toJson) ∧
    (∀ v : Json, v.normal = a.toJson → v.ReadsBack → Json.parse? v.pretty = some a.toJson) ∧
    (∀ (l' : Rule.Library) source s, (verifyAll l' Provided.syntaxOnly source a s).1
      = (brokenDependencies a.tests NameSet.empty).mapNamed
          fun n b => ⟨n, source, .dependency b⟩) ∧
    (∀ (l' : Rule.Library) (r : PatternLibrary) source text,
      Json.parse? text = some a.toJson → ∀ s,
        (validate w l' r source (.ok text) none s).1.error = none
          ↔ ∀ n, a.tests.contains n = true → DependenciesInOrder a.tests n) ∧
    (∀ (l' : Rule.Library) path s n d,
      (Feed.dropInvalidTests l' path a s).1.tests.get? n = some d
        ↔ a.tests.get? n = some d ∧ DependenciesInOrder a.tests n) := by
  have hservable : ∀ (l' : Rule.Library) n, Servable (Fine l' Provided.syntaxOnly) a.tests n
      ↔ DependenciesInOrder a.tests n :=
    fun l' _ => servable_iff_dependenciesInOrder (fine_of_build h l')
  refine ⟨ofDocument_of_build h, parse?_written_of_build h, ?_, ?_, ?_, ?_⟩
  · intro v hv hback
    rw [Json.parse?_pretty hback, hv]
  · intro l' source s
    exact fst_verifyAll_of_fine l' Provided.syntaxOnly source a (fine_of_build h l') s
  · intro l' r source text htext s
    rw [error_validate_eq_none_iff (ofFile_of_build h htext source), verifyAll_eq_empty_iff]
    exact forall_congr' fun n => imp_congr_right fun _ => hservable l' n
  · intro l' path s n d
    rw [Feed.fst_dropInvalidTests, Feed.get?_kept_eq_some_iff]
    exact and_congr_right fun _ => hservable l' n

/-! ## A test alone in its directory -/

/-- The definition of a test with one bucket, and what its file says of its
    dependency.  The bucket, the allocation and its range are written as the
    lists of their fields. -/
def loneDefinition (dependency : String) : String :=
  "\x7b\"testType\":\"user\",\"salt\":\"s\",\"buckets\":[[\"a\",0]]," ++
  "\"allocations\":[[null,[[0,1]]]]" ++ dependency ++ "\x7d"

/-- What is built of the test alone. -/
def loneBuild (dependency : String) : Except CommandError Artifact :=
  build .plain Yaml.read Resolver.plainLibrary "definitions"
    (.ok [SourceFile.ofPath "t.json" (.ok (loneDefinition dependency))]) "matrix" "1" "ann" 0

/-- The build succeeds, what is written can be read, and there is one test with
    the given dependency. -/
def LoneBuilt (dependency : String) (parent : Option Dependency) : Prop :=
  ((loneBuild dependency).toOption.map fun a =>
      (a.toJson.readsBackWithin Json.maxDepth,
        a.tests.entries.map fun e => (e.1, e.2.dependsOn)))
    = some (true, [("t", parent)])

theorem LoneBuilt.exists_artifact {dependency : String} {parent : Option Dependency}
    (h : LoneBuilt dependency parent) :
    ∃ a, loneBuild dependency = .ok a ∧ a.toJson.ReadsBack ∧
      a.tests.contains "t" = true ∧
      ∀ n d, a.tests.get? n = some d → n = "t" ∧ d.dependsOn = parent := by
  cases hbuild : loneBuild dependency with
  | error e =>
      rw [LoneBuilt, hbuild] at h
      cases h
  | ok a =>
      rw [LoneBuilt, hbuild] at h
      obtain ⟨hback, hentries⟩ := Prod.mk.inj (Option.some.inj h)
      refine ⟨a, rfl, hback, ?_, ?_⟩
      · rw [← NameMap.mem_names_iff, NameMap.names]
        have hnames := congrArg (List.map Prod.fst) hentries
        rw [List.map_map] at hnames
        rw [show a.tests.entries.map Prod.fst = ["t"] from hnames]
        exact List.mem_singleton_self _
      · intro n d hd
        have hmem := List.mem_map_of_mem (f := fun e => (e.1, e.2.dependsOn))
          (NameMap.get?_eq_some_iff.mp hd)
        rw [hentries] at hmem
        exact Prod.mk.inj (List.mem_singleton.mp hmem)

theorem loneBuilt_root : LoneBuilt "" none := by
  rw [LoneBuilt]
  decide +kernel

/-- What a file says of a parent that is not there. -/
def goneParent : String := ",\"dependsOn\":\x7b\"testName\":\"gone\",\"bucketValue\":0\x7d"

theorem loneBuilt_orphan : LoneBuilt goneParent (some ⟨"gone", 0⟩) := by
  rw [LoneBuilt]
  decide +kernel

/-- The test alone is built, and nothing is found wrong with what is written of it. -/
theorem lone_root_passes : ∃ a, loneBuild "" = .ok a ∧
    Artifact.ofDocument .plain "matrix" a.toJson = .ok a ∧
    Json.parse? (written a) = some a.toJson ∧
    (verifyAll Resolver.plainLibrary Provided.syntaxOnly "matrix" a Session.fresh).1
      = (brokenDependencies a.tests NameSet.empty).mapNamed
          (fun n b => ⟨n, "matrix", .dependency b⟩) ∧
    (validate .plain Resolver.plainLibrary Pattern.Engine.library "matrix" (.ok (written a)) none
      Session.fresh).1.error = none ∧
    ∃ d, (Feed.dropInvalidTests Resolver.plainLibrary "matrix" a
      Session.fresh).1.tests.get? "t" = some d := by
  obtain ⟨a, hbuild, hback, hcontains, honly⟩ := loneBuilt_root.exists_artifact
  obtain ⟨hdocument, hwritten, -, hverify, hvalidate, hkept⟩ :=
    built_fails_by_dependencies hbuild
  have horder : ∀ n, a.tests.contains n = true → DependenciesInOrder a.tests n := by
    intro n hn
    obtain ⟨d, hd⟩ := NameMap.contains_iff.mp hn
    have hnone := (honly n d hd).2
    refine Servable.intro hd trivial ?_ ?_
    · rw [ownBrokenDependency, hnone]
    · intro p hp
      rw [Definition.parentName?, hnone] at hp
      cases hp
  obtain ⟨d, hd⟩ := NameMap.contains_iff.mp hcontains
  exact ⟨a, hbuild, hdocument "matrix", hwritten hback, hverify _ "matrix" Session.fresh,
    (hvalidate _ _ "matrix" _ (hwritten hback) Session.fresh).mpr horder,
    d, (hkept _ "matrix" Session.fresh "t" d).mpr ⟨hd, horder "t" hcontains⟩⟩

/-- **A PARENT THAT IS NOT THERE**: the test is built all the same, and refused as
    soon as what was written is validated. -/
theorem lone_orphan_builds_and_fails : ∃ a, loneBuild goneParent = .ok a ∧
    Json.parse? (written a) = some a.toJson ∧
    (verifyAll Resolver.plainLibrary Provided.syntaxOnly "matrix" a).value
      ≠ NameMap.empty ∧
    (validate .plain Resolver.plainLibrary Pattern.Engine.library "matrix" (.ok (written a)) none
      Session.fresh).1.error ≠ none := by
  obtain ⟨a, hbuild, hback, hcontains, honly⟩ := loneBuilt_orphan.exists_artifact
  have hread : Json.parse? (written a) = some a.toJson := parse?_written_of_build hbuild hback
  have hnot : (verifyAll Resolver.plainLibrary Provided.syntaxOnly "matrix" a).value
      ≠ NameMap.empty := by
    intro hempty
    obtain ⟨d, hd⟩ := NameMap.contains_iff.mp hcontains
    have hservable := (verifyAll_eq_empty_iff _ _ _ _).mp hempty "t" hcontains
    have hparent : DependsOn a.tests "t" "gone" := by
      rw [dependsOn_iff_of_get? hd, Definition.parentName?, (honly "t" d hd).2]
      rfl
    -- the parent would have to be a test
    obtain ⟨e, he⟩ := NameMap.contains_iff.mp (hservable.parent hparent).contains
    exact absurd (honly "gone" e he).1 (by decide)
  refine ⟨a, hbuild, hread, hnot, ?_⟩
  rw [Ne, error_validate_eq_none_iff (ofFile_of_build hbuild hread "matrix")]
  exact hnot

end Command

end Cohort
