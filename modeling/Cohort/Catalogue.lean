import Cohort.Consistency
import Cohort.Definition.Document
import Cohort.Json.Reader
import Cohort.Wording

/-! # Catalogues of definitions

Definitions are kept in a directory, one test a file: `<test>.yaml` or `<test>.json`, in directories
below it as one likes. A catalogue is what such a directory holds. The files are read in the order
of a walk through the directory, and the first problem found is the one reported. YAML is read by a
library. Whether the definitions are consistent is asked afterwards, and then all problems are
reported at once. -/

namespace Cohort

/-! ## Directories -/

/-- The content of a file under its path, part by part; or the message that says why it cannot be
read. -/
structure SourceFile where
  parts : List String
  content : Except String String

/-- The order of a walk: the entries of a directory by name, each followed by what it holds. -/
def walksBefore : List String → List String → Bool
  | [], _ => true
  | _ :: _, [] => false
  | a :: as, b :: bs => decide (a < b) || (a == b && walksBefore as bs)

/-- A file with a path that is parted by slashes. -/
def SourceFile.ofPath (path : String) (content : Except String String) : SourceFile :=
  ⟨(Text.pieces (· == '/') path.toList).map String.ofList, content⟩

/-- The path below a directory. -/
def SourceFile.pathBelow (root : String) (f : SourceFile) : String :=
  f.parts.foldl (fun path part => path ++ "/" ++ part) root

/-- The name of a file without its suffix, and the suffix behind the last point. A point at the
beginning of a name begins no suffix. -/
def splitSuffix (name : List Char) : List Char × Option (List Char) :=
  let suffix := (name.reverse.takeWhile (· != '.')).reverse
  match name.reverse.dropWhile (· != '.') with
  | _ :: stem => if stem.isEmpty then (name, none) else (stem.reverse, some suffix)
  | [] => (name, none)

/-! ## Errors -/

/-- Why a directory holds no catalogue. -/
inductive CatalogueError where
  | noDirectory (detail : String)
  | unreadable (detail : String)
  | wrongSuffix (path : String)
  | notYaml (path detail : String)
  | noMapping (path : String)
  | notJson (detail : String)
  | badName (name path : String)
  | badDefinition (path detail : String)
  | duplicate (test first second : String)
deriving Repr, DecidableEq

/-- The message of an error. -/
def CatalogueError.message : CatalogueError → String
  | .noDirectory detail => "Directory walk error: " ++ detail
  | .unreadable detail => "I/O error: " ++ detail
  | .wrongSuffix path => "Invalid file " ++ path ++ ": expected .yaml, found .yml"
  | .notYaml path detail => "YAML parse error in " ++ path ++ ": " ++ detail
  | .noMapping path => "Invalid YAML structure in " ++ path ++ ": expected a mapping"
  | .notJson detail => "JSON error: " ++ detail
  | .badName name path =>
      "Invalid test name '" ++ name ++ "' in " ++ path ++ ": use letters, digits and '_'"
  | .badDefinition path detail => "Invalid definition in " ++ path ++ ": " ++ detail
  | .duplicate test first second =>
      "Duplicate test '" ++ test ++ "' defined in " ++ first ++ " and " ++ second

/-! ## Reading -/

/-- What reads a text as YAML, or refuses it with a message of its own. -/
abbrev YamlReader := String → Except String Yaml

/-- A definition and the file it was read from. -/
structure DefinitionFile where
  path : String
  definition : Definition

/-- The definitions of a directory by test. -/
abbrev Catalogue := NameMap DefinitionFile

namespace Catalogue

/-- The document that a text writes in YAML. -/
def yamlDocument (w : Wording) (yaml : YamlReader) (path text : String) :
    Except CatalogueError Json :=
  match yaml text with
  | .error detail => .error (.notYaml path detail)
  | .ok y =>
      if !y.isMapping then .error (.noMapping path)
      else match y.toJson? with
        | none => .error (.notJson (w.keys y))
        | some v => .ok v

/-- The document that a text writes in JSON. -/
def jsonDocument (w : Wording) (text : String) : Except CatalogueError Json :=
  match Json.parse? text with
  | none => .error (.notJson (w.notJson text))
  | some v => .ok v

/-- The document of a file, unless its suffix is none of a definition. -/
def document? (w : Wording) (yaml : YamlReader) (path : String) (content : Except String String)
    (suffix : Option (List Char)) : Except CatalogueError (Option Json) :=
  match suffix.map String.ofList with
  | some "yml" => .error (.wrongSuffix path)
  | some "yaml" => do
      let text ← content.mapError .unreadable
      let v ← yamlDocument w yaml path text
      .ok (some v)
  | some "json" => do
      let text ← content.mapError .unreadable
      let v ← jsonDocument w text
      .ok (some v)
  | _ => .ok none

/-- Letters, digits and underscores of ASCII make up the name of a test. -/
def isTestName (name : List Char) : Bool :=
  !name.isEmpty && name.all fun c => c.isAlphanum || c == '_'

theorem ne_nil_of_isTestName {name : List Char} (h : isTestName name = true) : name ≠ [] := by
  rintro rfl
  exact nomatch h

theorem nameChar_of_isTestName {name : List Char} (h : isTestName name = true) {c : Char}
    (hc : c ∈ name) : (c.isAlphanum || c == '_') = true :=
  List.all_eq_true.mp (Bool.and_eq_true_iff.mp h).2 c hc

/-- Adds the definition of a document to a catalogue. -/
def add (w : Wording) (c : Catalogue) (path : String) (name : List Char) (v : Json) :
    Except CatalogueError Catalogue :=
  let test := String.ofList name
  if !isTestName name then .error (.badName test path)
  else match Definition.ofJson? v with
    | none => .error (.badDefinition path (w.definition v))
    | some d => match c.get? test with
      | some first => .error (.duplicate test first.path path)
      | none => .ok (c.insert test ⟨path, d⟩)

/-- Adds the definition of a file to a catalogue; other files are passed over. -/
def addFile (w : Wording) (yaml : YamlReader) (root : String) (c : Catalogue) (f : SourceFile) :
    Except CatalogueError Catalogue := do
  let path := f.pathBelow root
  let (name, suffix) := splitSuffix (f.parts.getLastD "").toList
  let v ← document? w yaml path f.content suffix
  match v with
  | none => .ok c
  | some v => c.add w path name v

/-- The catalogue of a directory, which may not be there. -/
def ofDirectory (w : Wording) (yaml : YamlReader) (root : String)
    (files : Except String (List SourceFile)) : Except CatalogueError Catalogue :=
  match files with
  | .error detail => .error (.noDirectory detail)
  | .ok files =>
      (files.mergeSort fun f g => walksBefore f.parts g.parts).foldlM (addFile w yaml root)
        NameMap.empty

/-- The definitions by test. -/
def tests (c : Catalogue) : Tests :=
  c.map (·.definition)

/-! ## Consistency -/

/-- The problem of a definition, if it has one. -/
def problem? (l : Rule.Library) (e : String × DefinitionFile) : Option IncompatibleTest :=
  match (Consistency.verify l Provided.syntaxOnly e.2.path e.1 e.2.definition).value with
  | .error problem => some problem
  | .ok _ => none

/-- Every definition that is not consistent, dependencies apart. -/
def problems (l : Rule.Library) (c : Catalogue) : List IncompatibleTest :=
  c.entries.filterMap (problem? l)

end Catalogue

end Cohort
