import Cohort.Definition.Document
import Cohort.Pattern.Library

/-! # Dynamic filters

A client names the tests it needs, and may also ask for tests it does not know yet: every test that
some filter matches is included besides. Filters are declared in documents and compiled once, name
patterns by a library. The patterns behind tags are managed elsewhere and may be exchanged while
filters are in use. -/

namespace Cohort

/-! ## Declarations -/

/-- A filter as it is declared. -/
inductive FilterSpec where
  | matchAll
  | testNames (names : NameSet)
  /-- The whole name of the test matches the pattern. -/
  | namePattern (regex : String)
  | nameStart (start : String)
  | metaTags (tags : NameSet)
  /-- The payloads of the test belong to an experiment in one of the namespaces. -/
  | namespaces (spaces : NameSet)
  /-- The whole name of the test matches a pattern kept under one of the tags. -/
  | tag (tags : NameSet)
deriving DecidableEq

namespace FilterSpec

open Json

/-- The kind of a filter, as documents name it. -/
def kind : FilterSpec → String
  | .matchAll => "match_all"
  | .testNames _ => "test_names"
  | .namePattern _ => "name_pattern"
  | .nameStart _ => "name_prefix"
  | .metaTags _ => "meta_tags_filter"
  | .namespaces _ => "namespaces_filter"
  | .tag _ => "tag"

/-- The kind of a declaration and what stands beside it. -/
def tagged? : Json → Option (String × Json)
  | .object members => (required string? members "type").map fun kind => (kind, .object members)
  | .array (.string kind :: rest) => some (kind, .array rest)
  | _ => none

/-- Reads a declaration. -/
def ofJson? (v : Json) : Option FilterSpec :=
  (tagged? v).bind fun (kind, v) =>
    if kind = "match_all" then (record? [] v).map fun _ => .matchAll
    else if kind = "test_names" then
      (record? ["names"] v).bind fun m => (required nameSet? m "names").map .testNames
    else if kind = "name_pattern" then
      (record? ["regex"] v).bind fun m => (required string? m "regex").map .namePattern
    else if kind = "name_prefix" then
      (record? ["prefix"] v).bind fun m => (required string? m "prefix").map .nameStart
    else if kind = "meta_tags_filter" then
      (record? ["meta_tags"] v).bind fun m => (required nameSet? m "meta_tags").map .metaTags
    else if kind = "namespaces_filter" then
      (record? ["namespaces"] v).bind fun m => (required nameSet? m "namespaces").map .namespaces
    else if kind = "tag" then
      (record? ["tags"] v).bind fun m => (required nameSet? m "tags").map .tag
    else none

/-- A declaration as a document. -/
def toJson (s : FilterSpec) : Json :=
  ofMembers (("type", .string s.kind) :: match s with
    | .matchAll => []
    | .testNames names => [("names", ofNameSet names)]
    | .namePattern regex => [("regex", .string regex)]
    | .nameStart start => [("prefix", .string start)]
    | .metaTags tags => [("meta_tags", ofNameSet tags)]
    | .namespaces spaces => [("namespaces", ofNameSet spaces)]
    | .tag tags => [("tags", ofNameSet tags)])

end FilterSpec

/-! ## Errors -/

/-- Why filters cannot be used. -/
inductive ConfigurationError where
  | emptyFilter (kind field : String)
  /-- The library refuses the pattern, with a message of its own. -/
  | invalidPattern (pattern detail : String)
  | noPatternSource
deriving Repr, DecidableEq

/-- The message of an error. -/
def ConfigurationError.message : ConfigurationError → String
  | .emptyFilter kind field => kind ++ " filter requires a non-empty " ++ field
  | .invalidPattern pattern detail => "Invalid pattern '" ++ pattern ++ "': " ++ detail
  | .noPatternSource => "tag filter requires a pattern source, none is registered"

/-! ## Patterns of tags -/

/-- A compiled pattern: the test whether it is found in a name. -/
abbrev NamePattern := String → Bool

/-- A pattern that has to match whole names. -/
def namePattern (r : PatternLibrary) (text : String) : Except ConfigurationError NamePattern :=
  (r.compileWhole text).mapError (.invalidPattern text)

/-- The patterns kept under each tag. -/
abbrev TagPatterns := NameMap (List NamePattern)

/-- The patterns of a list, the first bad one refused. -/
def namePatterns (r : PatternLibrary) : List String → Except ConfigurationError (List NamePattern)
  | [] => .ok []
  | t :: rest => do
      let p ← namePattern r t
      let ps ← namePatterns r rest
      .ok (p :: ps)

/-- Compiles entries of a mapping from tags to patterns, in order. -/
def tagEntries (r : PatternLibrary) : List (String × List String) →
    Except ConfigurationError (List (String × List NamePattern))
  | [] => .ok []
  | (tag, texts) :: rest => do
      let ps ← namePatterns r texts
      let others ← tagEntries r rest
      .ok ((tag, ps) :: others)

/-- Compiles a mapping from tags to patterns. -/
def TagPatterns.compile (r : PatternLibrary) (m : NameMap (List String)) :
    Except ConfigurationError TagPatterns :=
  (tagEntries r m.entries).map NameMap.ofList

/-- All patterns kept under some of the tags. -/
def TagPatterns.ofTags (ps : TagPatterns) (tags : NameSet) : List NamePattern :=
  tags.toList.flatMap fun tag => (ps.get? tag).getD []

/-! ## Compiled filters -/

/-- A compiled filter. -/
inductive Filter where
  | matchAll
  | testNames (names : NameSet)
  | namePattern (p : NamePattern)
  | nameStart (start : String)
  | metaTags (tags : NameSet)
  | namespaces (spaces : NameSet)
  | tag (tags : NameSet)

namespace Filter

/-- Compiles a declaration; `hasSource` says whether there are patterns for tags. -/
def compile (r : PatternLibrary) (hasSource : Bool) : FilterSpec → Except ConfigurationError Filter
  | .matchAll => .ok .matchAll
  | .testNames names =>
      if names.isEmpty then .error (.emptyFilter "test_names" "names") else .ok (.testNames names)
  | .namePattern regex =>
      if regex.isEmpty then .error (.emptyFilter "name_pattern" "regex")
      else (Cohort.namePattern r regex).map .namePattern
  | .nameStart start =>
      if start.isEmpty then .error (.emptyFilter "name_prefix" "prefix") else .ok (.nameStart start)
  | .metaTags tags =>
      if tags.isEmpty then .error (.emptyFilter "meta_tags_filter" "meta_tags")
      else .ok (.metaTags tags)
  | .namespaces spaces =>
      if spaces.isEmpty then .error (.emptyFilter "namespaces_filter" "namespaces")
      else .ok (.namespaces spaces)
  | .tag tags =>
      if tags.isEmpty then .error (.emptyFilter "tag" "tags")
      else if hasSource then .ok (.tag tags)
      else .error .noPatternSource

/-- The filter matches a test, given the patterns of tags. -/
def accepts (source : TagPatterns) (name : String) (d : Definition) : Filter → Bool
  | .matchAll => true
  | .testNames names => names.contains name
  | .namePattern p => p name
  | .nameStart start => Text.startsWith start.toList name.toList
  | .metaTags tags => tags.intersects d.metaTags
  | .namespaces spaces => d.namespaces.any spaces.contains
  | .tag tags => (source.ofTags tags).any (· name)

/-- The filter asks for namespaces. -/
def isNamespaces : Filter → Bool
  | .namespaces _ => true
  | _ => false

end Filter

/-- Compiled filters; a test is included if any of them matches. -/
structure DynamicFilters where
  filters : List Filter
  /-- The patterns of tags, if there are any. -/
  source : Option TagPatterns

/-- The tests that filters include besides those required. -/
structure DynamicTests where
  names : NameSet
  /-- Those of them that a filter for namespaces matches. -/
  namespaceMatched : NameSet

/-- No test is included. -/
def DynamicTests.none : DynamicTests := ⟨NameSet.empty, NameSet.empty⟩

namespace DynamicFilters

/-- No filters. -/
def none : DynamicFilters := ⟨[], Option.none⟩

/-- Compiles declarations in order. -/
def compileAll (r : PatternLibrary) (hasSource : Bool) :
    List FilterSpec → Except ConfigurationError (List Filter)
  | [] => .ok []
  | s :: rest => do
      let f ← Filter.compile r hasSource s
      let fs ← compileAll r hasSource rest
      .ok (f :: fs)

/-- Compiles declarations for a source of tag patterns. -/
def compile (r : PatternLibrary) (source : Option TagPatterns) (specs : List FilterSpec) :
    Except ConfigurationError DynamicFilters :=
  (compileAll r source.isSome specs).map fun fs => ⟨fs, source⟩

/-- Exchanges the patterns of tags, where there are any. -/
def exchange (f : DynamicFilters) (patterns : TagPatterns) : DynamicFilters :=
  { f with source := f.source.map fun _ => patterns }

/-- There are no filters. -/
def isEmpty (f : DynamicFilters) : Bool :=
  f.filters.isEmpty

/-- Some of the filters that satisfy `p` matches the test. -/
def anyAccepts (f : DynamicFilters) (p : Filter → Bool) (name : String) (d : Definition) : Bool :=
  f.filters.any fun filter => p filter && filter.accepts (f.source.getD NameMap.empty) name d

/-- The tests that are included besides those required. -/
def determine (f : DynamicFilters) (tests : Tests) (required : NameSet) : DynamicTests :=
  let matching (p : Filter → Bool) : NameSet :=
    (tests.filter fun name d => !required.contains name && f.anyAccepts p name d).nameSet
  ⟨matching fun _ => true, matching Filter.isNamespaces⟩

/-- The filters as a diagnosis shows them. -/
def diagnostic (f : DynamicFilters) : String :=
  "DynamicFilters \x7b filters: " ++ toString f.filters.length ++ " \x7d"

/-- The source of patterns as a diagnosis shows it. -/
def sourceDiagnostic (source : Option TagPatterns) : String :=
  "FilterRegistry \x7b pattern_source: " ++ (if source.isSome then "true" else "false") ++ " \x7d"

end DynamicFilters

end Cohort
