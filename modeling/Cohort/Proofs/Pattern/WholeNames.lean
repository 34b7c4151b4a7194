import Cohort.Filter
import Cohort.Proofs.Names
import Cohort.Proofs.Pattern.Lawful
import Cohort.Proofs.Rule.Calls
import Cohort.Proofs.Rule.Grammar.Steps

/-! # Name patterns match whole names

    Filters and rules have a library compile the text of a name pattern between
    anchors, and so it has to match names from the first character to the last.
    With a library of a lawful syntax that is true of every text that is a
    pattern of its own.  It is not true of a text that closes the group around
    it: such a text is no pattern, and it is accepted if what stands behind opens
    a group again. -/

namespace Cohort

open Rule (exists_ok_of_bind)

variable {r : PatternLibrary}

/-! ## Patterns of tags -/

theorem namePattern_eq_ok_iff {text : String} {q : NamePattern} :
    namePattern r text = .ok q ↔ r.compileWhole text = .ok q := by
  rw [namePattern]
  cases r.compileWhole text <;> simp [Except.mapError]

/-- What the library makes of a text between the anchors, if it accepts it. -/
def PatternLibrary.whole? (r : PatternLibrary) (text : String) : Option NamePattern :=
  (r.compileWhole text).toOption

theorem PatternLibrary.whole?_eq_some_iff {text : String} {q : NamePattern} :
    r.whole? text = some q ↔ r.compileWhole text = .ok q := by
  rw [whole?]
  cases r.compileWhole text <;> simp [Except.toOption]

/-- The patterns of a list, when none of its texts is refused. -/
theorem of_namePatterns {texts : List String} {ps : List NamePattern}
    (h : namePatterns r texts = .ok ps) :
    ps = texts.filterMap r.whole? ∧ ∀ text ∈ texts, (r.whole? text).isSome := by
  induction texts generalizing ps with
  | nil =>
      obtain ⟨⟩ := h
      exact ⟨rfl, fun _ hmem => nomatch hmem⟩
  | cons text texts ih =>
      obtain ⟨p, hp, h⟩ := exists_ok_of_bind h
      obtain ⟨rest, hrest, ⟨⟩⟩ := exists_ok_of_bind h
      obtain ⟨heq, hsome⟩ := ih hrest
      have hp : r.whole? text = some p :=
        PatternLibrary.whole?_eq_some_iff.mpr (namePattern_eq_ok_iff.mp hp)
      rw [List.filterMap_cons_some hp, ← heq]
      exact ⟨rfl, List.forall_mem_cons.mpr ⟨by rw [hp]; rfl, hsome⟩⟩

theorem of_tagEntries {es : List (String × List String)} {out : List (String × List NamePattern)}
    (h : tagEntries r es = .ok out) :
    out = es.map (fun e => (e.1, e.2.filterMap r.whole?)) ∧
      ∀ e ∈ es, ∀ text ∈ e.2, (r.whole? text).isSome := by
  induction es generalizing out with
  | nil =>
      obtain ⟨⟩ := h
      exact ⟨rfl, fun _ hmem => nomatch hmem⟩
  | cons e es ih =>
      obtain ⟨ps, hps, h⟩ := exists_ok_of_bind h
      obtain ⟨rest, hrest, ⟨⟩⟩ := exists_ok_of_bind h
      obtain ⟨heq, hsome⟩ := ih hrest
      obtain ⟨htexts, hall⟩ := of_namePatterns hps
      rw [List.map_cons, ← htexts, ← heq]
      exact ⟨rfl, List.forall_mem_cons.mpr ⟨hall, hsome⟩⟩

/-- The patterns kept under a tag are those of its texts. -/
theorem TagPatterns.of_compile {m : NameMap (List String)} {ps : TagPatterns}
    (h : TagPatterns.compile r m = .ok ps) :
    ps = m.map (fun texts => texts.filterMap r.whole?) ∧
      ∀ tag texts, m.get? tag = some texts → ∀ text ∈ texts, (r.whole? text).isSome := by
  rw [TagPatterns.compile] at h
  cases hout : tagEntries r m.entries with
  | error e =>
      rw [hout] at h
      exact nomatch h
  | ok out =>
      rw [hout] at h
      obtain ⟨⟩ := h
      obtain ⟨rfl, hsome⟩ := of_tagEntries hout
      exact ⟨NameMap.ofList_entries (m.map _), fun tag texts htexts =>
        hsome (tag, texts) (NameMap.get?_eq_some_iff.mp htexts)⟩

namespace Filter

variable {source : TagPatterns} {name : String} {d : Definition}

/-- A filter for tags matches what a text kept under one of the tags finds. -/
theorem accepts_tag_iff {m : NameMap (List String)} (h : TagPatterns.compile r m = .ok source)
    {tags : NameSet} : (Filter.tag tags).accepts source name d = true ↔
      ∃ tag ∈ tags, ∃ texts, m.get? tag = some texts ∧ ∃ text ∈ texts, ∃ q,
        r.whole? text = some q ∧ q name = true := by
  have hget (tag : String) : source.get? tag =
      (m.get? tag).map fun texts => texts.filterMap r.whole? := by
    rw [(TagPatterns.of_compile h).1, NameMap.get?_map]
  rw [accepts, TagPatterns.ofTags, List.any_eq_true]
  simp only [List.mem_flatMap, hget]
  constructor
  · rintro ⟨q, ⟨tag, htag, hq⟩, hfound⟩
    cases htexts : m.get? tag with
    | none => simp [htexts] at hq
    | some texts =>
        rw [htexts, Option.map_some, Option.getD_some] at hq
        obtain ⟨text, htext, hcompiled⟩ := List.mem_filterMap.mp hq
        exact ⟨tag, htag, texts, htexts, text, htext, q, hcompiled, hfound⟩
  · rintro ⟨tag, htag, texts, htexts, text, htext, q, hcompiled, hfound⟩
    refine ⟨q, ⟨tag, htag, ?_⟩, hfound⟩
    rw [htexts, Option.map_some, Option.getD_some]
    exact List.mem_filterMap.mpr ⟨text, htext, hcompiled⟩

end Filter

/-! ## Whole names -/

open Rule.Standard (call?)

open Rule.Strings (text)

theorem call?_matches_of_compiled {now : Int64} {s pattern : Value} {q : NamePattern}
    (hq : r.compileWhole (text pattern) = .ok q) :
    call? r now "matrix:matches" [s, pattern] = some (.ok (.bool (q (text s)))) := by
  rw [Rule.Standard.call?_matches, Rule.Standard.isMatch, hq]

section

variable {Flags Atom Operator : Type} {S : Pattern.Syntax Flags Atom Operator}
  (hS : S.Lawful) (hr : S.Describes r)

include hS hr

theorem matches_describesWhole {now : Int64} {s pattern v : Value}
    (hopen : ¬S.ClosesOutside (text pattern))
    (h : call? r now "matrix:matches" [s, pattern] = some (.ok v)) :
    ∃ found, v = .bool found ∧ S.DescribesWhole (text pattern) (text s) found := by
  cases hq : r.compileWhole (text pattern) with
  | error detail =>
      rw [Rule.Standard.call?_matches, Rule.Standard.isMatch, hq] at h
      exact nomatch h
  | ok q =>
      rw [call?_matches_of_compiled hq] at h
      obtain ⟨⟩ := h
      exact ⟨_, rfl, hS.describesWhole hr hopen hq (text s)⟩

theorem filter_describesWhole {hasSource : Bool} {regex : String} {filter : Filter}
    (hopen : ¬S.ClosesOutside regex)
    (h : Filter.compile r hasSource (.namePattern regex) = .ok filter) (source : TagPatterns)
    (name : String) (d : Definition) :
    S.DescribesWhole regex name (filter.accepts source name d) := by
  rw [Filter.compile] at h
  split at h
  case isTrue => exact nomatch h
  case isFalse =>
    cases hq : namePattern r regex with
    | error e =>
        rw [hq] at h
        exact nomatch h
    | ok q =>
        rw [hq] at h
        obtain ⟨⟩ := h
        exact hS.describesWhole hr hopen (namePattern_eq_ok_iff.mp hq) name

/-- A tag stands for the names that one of its texts matches as a whole. -/
theorem tag_accepts_whole {m : NameMap (List String)} {source : TagPatterns}
    (h : TagPatterns.compile r m = .ok source) {tags : NameSet}
    (hopen : ∀ tag ∈ tags, ∀ texts, m.get? tag = some texts → ∀ regex ∈ texts,
      ¬S.ClosesOutside regex) {name : String} {d : Definition} :
    (Filter.tag tags).accepts source name d = true ↔
      ∃ tag ∈ tags, ∃ texts, m.get? tag = some texts ∧ ∃ regex ∈ texts,
        S.DescribesWhole regex name true := by
  have hsome := (TagPatterns.of_compile h).2
  have hdescribes {tag texts regex q} (htag : tag ∈ tags) (htexts : m.get? tag = some texts)
      (hregex : regex ∈ texts) (hq : r.whole? regex = some q) :
      S.DescribesWhole regex name (q name) :=
    hS.describesWhole hr (hopen tag htag texts htexts regex hregex)
      (PatternLibrary.whole?_eq_some_iff.mp hq) name
  rw [Filter.accepts_tag_iff h]
  constructor
  · rintro ⟨tag, htag, texts, htexts, regex, hregex, q, hq, hfound⟩
    have hwhole := hdescribes htag htexts hregex hq
    rw [hfound] at hwhole
    exact ⟨tag, htag, texts, htexts, regex, hregex, hwhole⟩
  · rintro ⟨tag, htag, texts, htexts, regex, hregex, hwhole⟩
    obtain ⟨q, hq⟩ := Option.isSome_iff_exists.mp (hsome tag texts htexts regex hregex)
    exact ⟨tag, htag, texts, htexts, regex, hregex, q, hq,
      (hdescribes htag htexts hregex hq).unique hwhole⟩

end

/-- **NAME PATTERNS MATCH WHOLE NAMES**, unless their text closes the group
    around it, and then it is no pattern and every library of the syntax refuses
    it alone: what an accepted text finds, in a filter as in a rule, is what it
    matches from the first character to the last. -/
theorem accepted_patterns_match_whole {Flags Atom Operator : Type}
    {S : Pattern.Syntax Flags Atom Operator} (hS : S.Lawful) {r : PatternLibrary}
    (hr : S.Describes r) (regex name : String) :
    (S.ClosesOutside regex →
      S.parse? regex = none ∧ ∃ detail, r.compile regex = .error detail) ∧
    (¬S.ClosesOutside regex →
      (∀ q, namePattern r regex = .ok q → S.DescribesWhole regex name (q name)) ∧
      (∀ now s pattern v, text s = name → text pattern = regex →
        call? r now "matrix:matches" [s, pattern] = some (.ok v) →
          ∃ found, v = .bool found ∧ S.DescribesWhole regex name found) ∧
      (∀ hasSource filter, Filter.compile r hasSource (.namePattern regex) = .ok filter →
        ∀ source d, S.DescribesWhole regex name (filter.accepts source name d))) ∧
    (∀ m source, TagPatterns.compile r m = .ok source →
      ∀ tags : NameSet,
        (∀ tag ∈ tags, ∀ texts, m.get? tag = some texts → ∀ regex ∈ texts,
          ¬S.ClosesOutside regex) →
        ∀ d, (Filter.tag tags).accepts source name d = true ↔
          ∃ tag ∈ tags, ∃ texts, m.get? tag = some texts ∧ ∃ regex ∈ texts,
            S.DescribesWhole regex name true) := by
  refine ⟨fun hcloses => ⟨hcloses.parse?_eq_none hS, hcloses.exists_error hS hr⟩,
    fun hopen => ⟨?_, ?_, ?_⟩, ?_⟩
  · intro q hq
    exact hS.describesWhole hr hopen (namePattern_eq_ok_iff.mp hq) name
  · rintro now s pattern v rfl rfl h
    exact matches_describesWhole hS hr hopen h
  · intro hasSource filter h source d
    exact filter_describesWhole hS hr hopen h source name d
  · intro m source h tags hopen d
    exact tag_accepts_whole hS hr h hopen

open Pattern.Engine (grammar library grammar_lawful grammar_describes)

/-- The text `a|bc` finds `bc` and not `abc`, wherever it is used. -/
theorem alternatives_find_whole_names :
    ∃ q source, namePattern library "a|bc" = .ok q ∧ q "bc" = true ∧ q "abc" = false ∧
      ¬grammar.ClosesOutside "a|bc" ∧ grammar.DescribesWhole "a|bc" "abc" (q "abc") ∧
      (∃ found, Value.bool false = .bool found ∧ grammar.DescribesWhole "a|bc" "abc" found) ∧
      (∀ source d,
        grammar.DescribesWhole "a|bc" "abc" ((Filter.namePattern q).accepts source "abc" d)) ∧
      TagPatterns.compile library (NameMap.ofList [("web", ["a|bc"])]) = .ok source ∧
      ∀ d, (Filter.tag (NameSet.ofList ["web"])).accepts source "abc" d = true ↔
        ∃ tag ∈ NameSet.ofList ["web"], ∃ texts,
          (NameMap.ofList [("web", ["a|bc"])]).get? tag = some texts ∧ ∃ regex ∈ texts,
            grammar.DescribesWhole regex "abc" true := by
  have hfinds : ((library.whole? "a|bc").map fun q => (q "bc", q "abc")) = some (true, false) := by
    decide +kernel
  have halone : (grammar.parse? "a|bc").isNone = false := by decide +kernel
  obtain ⟨q, hq, hfound⟩ := Option.map_eq_some_iff.mp hfinds
  have hq := PatternLibrary.whole?_eq_some_iff.mp hq
  obtain ⟨hbc, habc⟩ := Prod.mk.inj hfound
  have hname : namePattern library "a|bc" = .ok q := namePattern_eq_ok_iff.mpr hq
  obtain ⟨hcloses, hdescribes, htagged⟩ :=
    accepted_patterns_match_whole grammar_lawful grammar_describes "a|bc" "abc"
  have hopen : ¬grammar.ClosesOutside "a|bc" := fun hout => by
    rw [(hcloses hout).1] at halone
    exact nomatch halone
  have hcall : call? library 0 "matrix:matches" [.string "abc", .string "a|bc"]
      = some (.ok (.bool false)) := by
    rw [← habc]
    exact call?_matches_of_compiled hq
  have hfilter : Filter.compile library false (.namePattern "a|bc") = .ok (.namePattern q) := by
    rw [Filter.compile, hname]
    rfl
  have hsource : TagPatterns.compile library (NameMap.ofList [("web", ["a|bc"])]) =
      .ok (NameMap.ofList [("web", [q])]) := by
    have hentries : tagEntries library [("web", ["a|bc"])] = .ok [("web", [q])] := by
      rw [tagEntries, namePatterns, hname]
      rfl
    exact congrArg (Except.map NameMap.ofList) hentries
  have hopenTagged : ∀ tag ∈ NameSet.ofList ["web"], ∀ texts,
      (NameMap.ofList [("web", ["a|bc"])]).get? tag = some texts → ∀ regex ∈ texts,
        ¬grammar.ClosesOutside regex := by
    intro tag _ texts htexts regex hregex
    obtain ⟨⟩ := List.mem_singleton.mp (NameMap.mem_of_get?_ofList htexts)
    obtain rfl := List.mem_singleton.mp hregex
    exact hopen
  obtain ⟨hregex, hmatches, hnamed⟩ := hdescribes hopen
  exact ⟨q, _, hname, hbc, habc, hopen, hregex q hname, hmatches 0 _ _ _ rfl rfl hcall,
    hnamed false _ hfilter, hsource, htagged _ _ hsource _ hopenTagged⟩

/-- The text `a)|(b` is no pattern, and yet it is accepted and finds a name that
    only begins with `a`. -/
theorem pasted_parenthesis_is_accepted :
    grammar.parse? "a)|(b" = none ∧
      (∃ q, namePattern library "a)|(b" = .ok q ∧ q "axyz" = true) ∧
      call? library 0 "matrix:matches" [.string "axyz", .string "a)|(b"]
        = some (.ok (.bool true)) := by
  have hfinds : (library.whole? "a)|(b").map (fun q => q "axyz") = some true := by
    decide +kernel
  have halone : (grammar.parse? "a)|(b").isNone = true := by decide +kernel
  obtain ⟨q, hq, hfound⟩ := Option.map_eq_some_iff.mp hfinds
  have hq := PatternLibrary.whole?_eq_some_iff.mp hq
  refine ⟨Option.isNone_iff_eq_none.mp halone, ⟨q, namePattern_eq_ok_iff.mpr hq, hfound⟩, ?_⟩
  rw [← hfound]
  exact call?_matches_of_compiled hq

end Cohort
