import Cohort.Catalogue
import Cohort.Proofs.Consistency
import Cohort.Proofs.Definition.Hereditary
import Cohort.Proofs.Json.Ordered

/-! # What a directory yields

    A catalogue grows file by file, and a file adds nothing but the definition
    that was read from its document.  So whatever is in the catalogue of a
    directory was read from some document, whichever library reads YAML, and a
    catalogue without problems holds definitions in order. -/

namespace Cohort.Catalogue

/-- The steps of what succeeds have succeeded. -/
theorem exists_of_bind {ε α β : Type} {x : Except ε α} {f : α → Except ε β} {b : β}
    (h : x >>= f = .ok b) : ∃ a, x = .ok a ∧ f a = .ok b := by
  cases x with
  | error e => cases h
  | ok a => exact ⟨a, rfl, h⟩

variable {w : Wording} {yaml : YamlReader} {c c' : Catalogue} {root path : String}
  {name : List Char} {v : Json} {f : SourceFile}

/-- Every definition was read from a document, which has its members in order. -/
def AllRead (c : Catalogue) : Prop :=
  ∀ n e, c.get? n = some e → ∃ v : Json, v.IsOrdered ∧ Definition.ofJson? v = some e.definition

theorem isOrdered_of_yamlDocument {text : String} (h : yamlDocument w yaml path text = .ok v) :
    v.IsOrdered := by
  rw [yamlDocument] at h
  split at h
  · cases h
  · split_ifs at h
    split at h
    · cases h
    · next hjson =>
        cases h
        exact Yaml.isOrdered_of_toJson? _ hjson

theorem isOrdered_of_jsonDocument {text : String} (h : jsonDocument w text = .ok v) :
    v.IsOrdered := by
  rw [jsonDocument] at h
  split at h
  · cases h
  · next hjson =>
      cases h
      exact Json.isOrdered_of_parse? hjson

/-- The document of a file has its members in order, in YAML as in JSON. -/
theorem isOrdered_of_document? {content : Except String String} {suffix : Option (List Char)}
    (h : document? w yaml path content suffix = .ok (some v)) : v.IsOrdered := by
  rw [document?] at h
  -- by suffix: a refused one, the two of definitions, and any other
  split at h
  · cases h
  · obtain ⟨text, -, h⟩ := exists_of_bind h
    obtain ⟨u, hu, ⟨⟩⟩ := exists_of_bind h
    exact isOrdered_of_yamlDocument hu
  · obtain ⟨text, -, h⟩ := exists_of_bind h
    obtain ⟨u, hu, ⟨⟩⟩ := exists_of_bind h
    exact isOrdered_of_jsonDocument hu
  · cases h

/-- A document that is added is that of a definition, which stands under the name
    of the file afterwards. -/
theorem exists_of_add (h : c.add w path name v = .ok c') :
    ∃ d, Definition.ofJson? v = some d ∧ c' = c.insert (String.ofList name) ⟨path, d⟩ := by
  rw [add] at h
  split at h
  · exact nomatch h
  · cases hread : Definition.ofJson? v with
    | none =>
        rw [hread] at h
        exact nomatch h
    | some d =>
        rw [hread] at h
        refine ⟨d, rfl, ?_⟩
        cases hfirst : c.get? (String.ofList name) with
        | some first =>
            simp only [hfirst] at h
            exact nomatch h
        | none =>
            simp only [hfirst] at h
            exact (Except.ok.inj h).symm

theorem AllRead.add (hc : AllRead c) (hv : v.IsOrdered) (h : c.add w path name v = .ok c') :
    AllRead c' := by
  obtain ⟨d, hread, rfl⟩ := exists_of_add h
  intro n e he
  rw [NameMap.get?_insert] at he
  split at he
  · cases he
    exact ⟨v, hv, hread⟩
  · exact hc n e he

/-- **ONE MORE FILE**: it is passed over, or its definition is added. -/
theorem AllRead.addFile (hc : AllRead c) (h : Catalogue.addFile w yaml root c f = .ok c') :
    AllRead c' := by
  obtain ⟨found, hfound, h⟩ := exists_of_bind h
  cases found with
  | none =>
      cases h
      exact hc
  | some v => exact hc.add (isOrdered_of_document? hfound) h

/-- File after file, every definition was read. -/
theorem AllRead.foldlM {files : List SourceFile} (hc : AllRead c)
    (h : files.foldlM (Catalogue.addFile w yaml root) c = .ok c') : AllRead c' := by
  induction files generalizing c with
  | nil =>
      cases h
      exact hc
  | cons f rest ih =>
      rw [List.foldlM_cons] at h
      obtain ⟨next, hadd, h⟩ := exists_of_bind h
      exact ih (hc.addFile hadd) h

/-- **A WHOLE DIRECTORY**: every definition of its catalogue was read. -/
theorem allRead_ofDirectory {files : Except String (List SourceFile)}
    (h : ofDirectory w yaml root files = .ok c) : AllRead c := by
  cases files with
  | error detail => exact nomatch h
  | ok files =>
      have hempty : AllRead (NameMap.empty : Catalogue) := fun n e he => by
        rw [NameMap.get?_empty] at he
        exact nomatch he
      exact AllRead.foldlM hempty h

/-! ## The definitions -/

theorem get?_tests (c : Catalogue) (n : String) :
    c.tests.get? n = (c.get? n).map (·.definition) :=
  NameMap.get?_map _ c n

/-- The types of the definitions are read from their own names. -/
theorem AllRead.named (hc : AllRead c) {n : String} {d : Definition}
    (hd : c.tests.get? n = some d) : d.testType.Named := by
  rw [get?_tests] at hd
  obtain ⟨e, he, rfl⟩ := Option.map_eq_some_iff.mp hd
  obtain ⟨v, -, hv⟩ := hc n e he
  exact Definition.named_of_ofJson? hv

/-- The definitions are written with their members in order. -/
theorem AllRead.isOrdered (hc : AllRead c) {n : String} {d : Definition}
    (hd : c.tests.get? n = some d) : d.toJson.IsOrdered := by
  rw [get?_tests] at hd
  obtain ⟨e, he, rfl⟩ := Option.map_eq_some_iff.mp hd
  obtain ⟨v, hordered, hv⟩ := hc n e he
  exact Json.hereditary_isOrdered.definition hordered hv

variable {l : Rule.Library}

theorem problem?_eq (l : Rule.Library) (n : String) (e : DefinitionFile) :
    problem? l (n, e) = Consistency.ownProblem l Provided.syntaxOnly e.path n e.definition := by
  rw [problem?, Consistency.ownProblem]
  cases (Consistency.verify l Provided.syntaxOnly e.path n e.definition).value with
  | error problem => rfl
  | ok _ => rfl

/-- **NO PROBLEM**: every definition of the catalogue is in order. -/
theorem fine_of_problems_eq_nil (h : c.problems l = []) {n : String} {d : Definition}
    (hd : c.tests.get? n = some d) : Consistency.Fine l Provided.syntaxOnly n d := by
  rw [get?_tests] at hd
  obtain ⟨e, he, rfl⟩ := Option.map_eq_some_iff.mp hd
  have hnone := List.filterMap_eq_nil_iff.mp h (n, e) (NameMap.get?_eq_some_iff.mp he)
  rw [problem?_eq] at hnone
  exact (Consistency.ownProblem_eq_none_iff l Provided.syntaxOnly e.path).mp hnone

end Cohort.Catalogue
