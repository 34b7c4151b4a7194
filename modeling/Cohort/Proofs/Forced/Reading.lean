import Mathlib.Data.List.Forall2
import Cohort.Resolution
import Cohort.Proofs.Forced.Elements
import Cohort.Proofs.Names
import Cohort.Proofs.Text.Pieces

/-! # What forced groups can say

    A line of forced groups is read element by element, and the later counts
    before the earlier.  Whatever is forced can be written as such a line, with
    the mode anywhere and blanks around the commas, and is read back, unless a
    name that ends in a digit has a value without a sign; and then something
    else is forced. -/

namespace Cohort.ForceGroups

open Text (Blank Visible)

/-! ## Lines of elements -/

/-- The text of an element with blanks around it. -/
def Element.Padded (e : Element) (cs : List Char) : Prop :=
  ∃ before w after, Blank before ∧ Blank after ∧ e.Spells w ∧ cs = before ++ w ++ after

/-- The text of elements with commas between them. -/
def Spelled (es : List Element) (text : String) : Prop :=
  ∃ parts, List.Forall₂ Element.Padded es parts ∧ text.toList = [','].intercalate parts

/-- The elements of forced groups; the normal mode needs none. -/
def elements (g : ForceGroups) : List Element :=
  g.forced.entries.map (fun e => .force e.1 e.2) ++
    if g.mode = .normal then [] else [.others g.mode]

/-! ## Modes -/

theorem map_toLower_eq {a b : String} (h : Text.equalsIgnoringAsciiCase a b = true) :
    a.toList.map Char.toLower = b.toList.map Char.toLower :=
  beq_iff_eq.mp h

/-- The last character of an element about a test is a digit. -/
theorem endsInDigit_entryText (name : String) (value : Int32) :
    endsInDigit (entryText name value) = true := by
  have hdigits : ∀ n, (Nat.toDigits 10 n).getLast?.any Decimal.isDigit = true := by
    intro n
    rw [List.getLast?_eq_some_getLast Nat.toDigits_ne_nil]
    exact Decimal.isDigit_of_mem_toDigits (List.getLast_mem Nat.toDigits_ne_nil)
  have hnumber : ∀ front : List Char, ∀ n : Nat,
      (front ++ Nat.toDigits 10 n).getLast?.any Decimal.isDigit = true := by
    intro front n
    have hlast := hdigits n
    rw [List.getLast?_append]
    cases hc : (Nat.toDigits 10 n).getLast? with
    | none =>
        rw [hc] at hlast
        exact nomatch hlast
    | some c =>
        rw [hc] at hlast
        exact hlast
  rw [endsInDigit, entryText, String.toList_append]
  by_cases hvalue : 0 ≤ value.toInt
  · rw [Decimal.toList_toString_of_nonneg hvalue]
    exact hnumber _ _
  · rw [Decimal.toList_toString_of_neg (Int.not_le.mp hvalue), ← List.singleton_append,
      ← List.append_assoc]
    exact hnumber _ _

/-- No word for a mode does, whatever the case of its letters. -/
theorem endsInDigit_of_word {mode : DefaultMode} {word w : String} (h : mode.word? = some word)
    (hw : Text.equalsIgnoringAsciiCase w word = true) : endsInDigit w = false := by
  have hword : (word.toList.map Char.toLower).getLast?.any Decimal.isDigit = false := by
    cases mode with
    | normal => exact nomatch h
    | fallback =>
        obtain rfl := Option.some.inj h
        decide
    | minLive =>
        obtain rfl := Option.some.inj h
        decide
  rw [← map_toLower_eq hw, List.getLast?_map] at hword
  rw [endsInDigit]
  cases hlast : w.toList.getLast? with
  | none => rfl
  | some c =>
      rw [hlast] at hword
      cases hdigit : Decimal.isDigit c with
      | false => exact hdigit
      | true =>
          have hlower := Decimal.of_isDigit (P := fun c => Decimal.isDigit c.toLower = true)
            (by decide) hdigit
          exact absurd (hlower.symm.trans hword) (by decide)

theorem ofWord?_entryText (name : String) (value : Int32) :
    DefaultMode.ofWord? (entryText name value) = Option.none := by
  rw [DefaultMode.ofWord?, List.find?_eq_none]
  intro mode _ hany
  obtain ⟨word, hword, hequal⟩ := (Option.any_eq_true _ _).mp hany
  exact nomatch (endsInDigit_of_word hword hequal).symm.trans (endsInDigit_entryText name value)

/-- A mode is known by its word. -/
theorem ofWord?_of_word {mode : DefaultMode} {word w : String} (h : mode.word? = some word)
    (hw : Text.equalsIgnoringAsciiCase w word = true) : DefaultMode.ofWord? w = some mode := by
  cases mode with
  | normal => exact nomatch h
  | fallback =>
      obtain rfl := Option.some.inj h
      exact List.find?_cons_of_pos hw
  | minLive =>
      obtain rfl := Option.some.inj h
      have hother : DefaultMode.fallback.word?.any (Text.equalsIgnoringAsciiCase w) = false := by
        refine Bool.eq_false_iff.mpr fun hfallback => ?_
        exact absurd ((map_toLower_eq hw).symm.trans (map_toLower_eq hfallback)) (by decide)
      rw [DefaultMode.ofWord?, List.find?_cons, hother]
      exact List.find?_cons_of_pos hw

theorem solid_of_word {mode : DefaultMode} {word w : String} (h : mode.word? = some word)
    (hw : Text.equalsIgnoringAsciiCase w word = true) : Solid w.toList := by
  have hall : (word.toList.map Char.toLower).all isEntryChar = true := by
    cases mode with
    | normal => exact nomatch h
    | fallback =>
        obtain rfl := Option.some.inj h
        decide
    | minLive =>
        obtain rfl := Option.some.inj h
        decide
  have hword := List.all_eq_true.mp hall
  rw [← map_toLower_eq hw] at hword
  intro c hc
  have hlower := solid_of_isEntryChar (hword c.toLower (List.mem_map_of_mem hc))
  constructor
  · cases hblank : Text.isBlank c with
    | false => rfl
    | true =>
        have hstays := Text.of_isBlank (P := fun c => Text.isBlank c.toLower = true)
          (by decide) hblank
        exact nomatch hlower.1.symm.trans hstays
  · rintro rfl
    exact hlower.2 rfl

/-! ## Reading elements -/

/-- What is read of an element about a test. -/
def Element.read? : Element → Option (String × Int32)
  | .force name value => splitElement? (entryText name value).toList
  | .others _ => Option.none

/-- The mode that an element sets. -/
def Element.mode? : Element → Option DefaultMode
  | .force _ _ => Option.none
  | .others mode => some mode

theorem Element.Spells.solid {e : Element} {w : List Char} (h : e.Spells w) : Solid w := by
  cases h with
  | @force name h value =>
      intro c hc
      rw [entryText, String.toList_append] at hc
      refine solid_of_isEntryChar ?_
      rcases List.mem_append.mp hc with hc | hc
      · rw [isEntryChar, Catalogue.nameChar_of_isTestName h hc, Bool.true_or]
      · exact isEntryChar_of_mem_toString hc
  | others h hw => exact solid_of_word h hw

/-- Around an element are only blanks. -/
theorem Element.Padded.exists_spells {e : Element} {cs : List Char} (h : e.Padded cs) :
    ',' ∉ cs ∧ e.Spells (Text.trimChars cs) := by
  obtain ⟨before, w, after, hbefore, hafter, hw, rfl⟩ := h
  have hvisible : Visible w := Text.visible_of_forall fun c hc => (hw.solid c hc).1
  have hblank : ∀ {cs : List Char}, Blank cs → ',' ∉ cs := by
    intro cs hcs hc
    exact absurd (hcs ',' hc) (by decide)
  refine ⟨?_, ?_⟩
  · simp only [List.mem_append, not_or]
    exact ⟨⟨hblank hbefore, fun hc => (hw.solid ',' hc).2 rfl⟩, hblank hafter⟩
  · rw [Text.trimChars_around hbefore hafter hvisible]
    exact hw

theorem notMem_of_padded {es : List Element} {parts : List (List Char)}
    (h : List.Forall₂ Element.Padded es parts) : ∀ part ∈ parts, ',' ∉ part := by
  induction h with
  | nil => exact nofun
  | cons hpadded _ ih => exact List.forall_mem_cons.mpr ⟨hpadded.exists_spells.1, ih⟩

/-- One element more is read. -/
theorem addElement_of_spells {e : Element} {w : List Char} (h : e.Spells w) (g : ForceGroups) :
    addElement g w = ⟨e.read?.elim g.forced fun x => g.forced.insert x.1 x.2,
      e.mode?.getD g.mode⟩ := by
  cases h with
  | @force name h value =>
      rw [addElement, String.ofList_toList, ofWord?_entryText, Element.read?]
      cases splitElement? (entryText name value).toList with
      | none => rfl
      | some x => rfl
  | @others mode word w h hw =>
      rw [addElement, String.ofList_toList, ofWord?_of_word h hw]
      rfl

/-- The elements of a text are read one after the other. -/
theorem foldl_addElement {es : List Element} {ws : List (List Char)}
    (h : List.Forall₂ Element.Spells es ws) (g : ForceGroups) :
    ws.foldl addElement g
      = ⟨(es.filterMap Element.read?).foldl (fun m x => m.insert x.1 x.2) g.forced,
        (es.filterMap Element.mode?).getLastD g.mode⟩ := by
  induction h generalizing g with
  | nil => rfl
  | @cons e w es ws hspells hrest ih =>
      rw [List.foldl_cons, ih, addElement_of_spells hspells]
      cases e with
      | force name value =>
          have hmode : (Element.force name value).mode? = Option.none := rfl
          rw [List.filterMap_cons, List.filterMap_cons_none hmode]
          cases (Element.force name value).read? with
          | none => rfl
          | some x => rfl
      | others mode =>
          have hentry : (Element.others mode).read? = Option.none := rfl
          have hmode : (Element.others mode).mode? = some mode := rfl
          rw [List.filterMap_cons_none hentry, List.filterMap_cons_some hmode, List.getLastD_cons]
          rfl

/-- **READING A TEXT OF ELEMENTS**: what is read of the elements counts, the later before the
    earlier, wherever commas and blanks stand. -/
theorem parse_of_spelled {es : List Element} {text : String} (h : Spelled es text) :
    parse text = ⟨NameMap.ofList (es.filterMap Element.read?),
      (es.filterMap Element.mode?).getLastD .normal⟩ := by
  obtain ⟨parts, hparts, htext⟩ := h
  have hread : ∀ {es parts}, List.Forall₂ Element.Padded es parts →
      List.Forall₂ Element.Spells es (parts.map Text.trimChars) := by
    intro es parts hparts
    refine List.forall₂_map_right_iff.mpr (hparts.imp ?_)
    intro e cs hpadded
    exact hpadded.exists_spells.2
  cases hparts with
  | nil =>
      rw [parse, htext]
      rfl
  | @cons e cs es parts hpadded hrest =>
      have hall := List.Forall₂.cons hpadded hrest
      rw [parse, htext,
        Text.pieces_intercalate (notMem_of_padded hall) (List.cons_ne_nil cs parts),
        foldl_addElement (hread hall)]
      rfl

/-! ## Forced groups as a whole -/

/-- All names are those that catalogues have. -/
def Named (g : ForceGroups) : Prop :=
  ∀ name value, g.forced.get? name = some value → Catalogue.isTestName name.toList = true

/-- No digit of a name touches its value. -/
def Parted (g : ForceGroups) : Prop :=
  ∀ name value, g.forced.get? name = some value → endsInDigit name = true → value.toInt < 0

variable {g : ForceGroups} {es : List Element} {text : String}

theorem mem_elements_iff {name : String} {value : Int32} :
    Element.force name value ∈ g.elements ↔ g.forced.get? name = some value := by
  rw [elements, List.mem_append, NameMap.get?_eq_some_iff]
  constructor
  · rintro (h | h)
    · obtain ⟨x, hx, he⟩ := List.mem_map.mp h
      obtain ⟨rfl, rfl⟩ := Element.force.inj he
      exact hx
    · split at h
      · exact nomatch h
      · exact nomatch List.mem_singleton.mp h
  · exact fun h => Or.inl (List.mem_map.mpr ⟨(name, value), h, rfl⟩)

theorem ne_normal_of_mem_elements {mode : DefaultMode} (h : Element.others mode ∈ g.elements) :
    mode ≠ .normal := by
  rcases List.mem_append.mp h with h | h
  · obtain ⟨x, -, he⟩ := List.mem_map.mp h
    exact nomatch he
  · split at h
    · exact nomatch h
    · next hmode =>
        obtain rfl := Element.others.inj (List.mem_singleton.mp h)
        exact hmode

/-- Everything can be written. -/
theorem exists_spelled (h : g.Named) : ∃ text, Spelled g.elements text := by
  have hpadded : ∀ e ∈ g.elements, ∃ cs, e.Padded cs := by
    intro e he
    cases e with
    | force name value =>
        have hname := h name value (mem_elements_iff.mp he)
        exact ⟨_, [], _, [], nofun, nofun, .force hname value, rfl⟩
    | others mode =>
        have hword : ∃ word, mode.word? = some word := by
          cases mode with
          | normal => exact absurd rfl (ne_normal_of_mem_elements he)
          | fallback => exact ⟨_, rfl⟩
          | minLive => exact ⟨_, rfl⟩
        obtain ⟨word, hword⟩ := hword
        exact ⟨_, [], _, [], nofun, nofun, .others hword (beq_self_eq_true _), rfl⟩
  choose! text htext using hpadded
  exact ⟨String.ofList ([','].intercalate (g.elements.map text)), g.elements.map text,
    List.forall₂_map_right_iff.mpr (List.forall₂_same.mpr htext), String.toList_ofList⟩

/-- There is at most one word for a mode, and without one the mode is the normal one. -/
theorem mode_of_perm (h : es.Perm g.elements) :
    (es.filterMap Element.mode?).getLastD .normal = g.mode := by
  have hforced : (g.forced.entries.map fun e => Element.force e.1 e.2).filterMap Element.mode?
      = [] := by
    refine List.filterMap_eq_nil_iff.mpr fun e he => ?_
    obtain ⟨x, -, rfl⟩ := List.mem_map.mp he
    rfl
  have hperm := h.filterMap Element.mode?
  rw [elements, List.filterMap_append, hforced, List.nil_append] at hperm
  by_cases hmode : g.mode = .normal
  · rw [if_pos hmode] at hperm
    rw [List.perm_nil.mp hperm, hmode]
    rfl
  · rw [if_neg hmode] at hperm
    rw [List.perm_singleton.mp hperm]
    rfl

/-- What is read of all elements, in any order. -/
theorem entries_of_perm (h : es.Perm g.elements) :
    (es.filterMap Element.read?).Perm
      (g.forced.entries.filterMap fun e => splitElement? (entryText e.1 e.2).toList) := by
  have hmode : (if g.mode = .normal then [] else [Element.others g.mode]).filterMap Element.read?
      = [] := by
    split
    · rfl
    · rfl
  have hperm := h.filterMap Element.read?
  rw [elements, List.filterMap_append, hmode, List.append_nil, List.filterMap_map] at hperm
  exact hperm

theorem get?_forced_mem (h : g.Named) {x : String × Int32} (hx : x ∈ g.forced.entries) :
    Catalogue.isTestName x.1.toList = true :=
  h x.1 x.2 (NameMap.get?_eq_some_iff.mpr hx)

/-- Where no digit of a name touches its value, the map is read back as it is. -/
theorem forced_of_parted (hnames : g.Named) (hparted : g.Parted) (hes : es.Perm g.elements) :
    NameMap.ofList (es.filterMap Element.read?) = g.forced := by
  have hread : ∀ x ∈ g.forced.entries,
      splitElement? (entryText x.1 x.2).toList = some x := fun x hx =>
    splitElement?_entryText (get?_forced_mem hnames hx)
      (hparted x.1 x.2 (NameMap.get?_eq_some_iff.mpr hx))
  have hentries : (g.forced.entries.filterMap fun e => splitElement? (entryText e.1 e.2).toList)
      = g.forced.entries := by
    rw [List.filterMap_congr hread, List.filterMap_some]
  exact NameMap.ofList_of_perm (hentries ▸ entries_of_perm hes)

/-- And only there: no other element speaks for a name whose last digit went to its value. -/
theorem parted_of_forced (hnames : g.Named) (hes : es.Perm g.elements)
    (h : NameMap.ofList (es.filterMap Element.read?) = g.forced) : g.Parted := by
  intro name value hvalue hend
  rw [← h] at hvalue
  obtain ⟨x, hx, hread⟩ := List.mem_filterMap.mp
    ((entries_of_perm hes).mem_iff.mp (NameMap.mem_of_get?_ofList hvalue))
  have hname := get?_forced_mem hnames hx
  by_cases hsign : x.2.toInt < 0
  · rw [splitElement?_of_neg hname hsign] at hread
    obtain ⟨-, rfl⟩ := Prod.mk.inj (Option.some.inj hread)
    exact hsign
  · have hfree := endsInDigit_of_splitElement? hname (Int.not_lt.mp hsign) hread
    exact nomatch hfree.symm.trans hend

/-- A logged test stands in the line of exposures as the element that forces it. -/
theorem groupText_mem_loggingElements {r : ResolvedGroups} {name : String} {group : TestGroup}
    (h : r.groups.get? name = some group) (hlogged : r.isLogged name group = true) :
    ResolvedGroups.groupText name group ∈ r.loggingElements := by
  refine List.mem_append_left _ (List.mem_map.mpr ⟨(name, group), ?_, rfl⟩)
  exact List.mem_filter.mpr ⟨NameMap.get?_eq_some_iff.mp h, hlogged⟩

/-- **WHAT CAN BE FORCED CAN BE SAID.** Any values of tests and any mode have a text.  Each of
    their texts, in any order of the elements, the word for the mode anywhere, with any blanks
    around the commas, sets the mode; and it forces just the values that are meant if no name
    that ends in a digit has a value without a minus sign in front, and only then.  And the line
    of exposures writes a logged test like the element that forces it. -/
theorem groups_can_be_said :
    (∀ g : ForceGroups, g.Named →
      (∃ text, Spelled g.elements text) ∧
      ∀ (es : List Element) (text : String), es.Perm g.elements → Spelled es text →
        (parse text).mode = g.mode ∧ ((parse text).forced = g.forced ↔ g.Parted)) ∧
    (∀ (r : ResolvedGroups) (name : String) (group : TestGroup),
      Catalogue.isTestName name.toList = true → r.groups.get? name = some group →
      r.isLogged name group = true →
      ∃ text ∈ r.loggingElements,
        (Element.force name group.bucket.value).Spells text.toList) := by
  refine ⟨?_, ?_⟩
  · intro g hnames
    refine ⟨exists_spelled hnames, ?_⟩
    intro es text hes hspelled
    rw [parse_of_spelled hspelled]
    refine ⟨mode_of_perm hes, ?_, ?_⟩
    · exact parted_of_forced hnames hes
    · exact fun hparted => forced_of_parted hnames hparted hes
  · intro r name group hname hgroup hlogged
    exact ⟨_, groupText_mem_loggingElements hgroup hlogged, .force hname group.bucket.value⟩

/-- The least value behind a name that ends in a digit, a word in mixed case between the two
    tests, blanks of two scripts: all is read as it is meant. -/
theorem mixed_line_is_read :
    let g : ForceGroups :=
      ⟨NameMap.ofList [("low_2", -2147483648), ("sample_tst", 0)], .minLive⟩
    let es : List Element :=
      [.force "sample_tst" 0, .others .minLive, .force "low_2" (-2147483648)]
    let text := "sample_tst0 ,\tDEFAULT_to_min_live,\u3000low_2-2147483648"
    let r : ResolvedGroups := { ResolvedGroups.empty with
      groups := NameMap.ofList
        [("sample_tst", ⟨⟨"control", 0, Option.none, Option.none⟩, "#A1", false⟩)] }
    (g.Named ∧ es.Perm g.elements ∧ Spelled es text ∧
      (parse text).mode = .minLive ∧ (parse text).forced = g.forced) ∧
    ∃ text ∈ r.loggingElements, (Element.force "sample_tst" 0).Spells text.toList := by
  intro g es text r
  obtain ⟨hsaid, hlogged⟩ := groups_can_be_said
  have hall : ∀ x ∈ g.forced.entries, Catalogue.isTestName x.1.toList = true ∧
      (endsInDigit x.1 = true → x.2.toInt < 0) := by decide
  have hnames : g.Named := fun name value h => (hall _ (NameMap.get?_eq_some_iff.mp h)).1
  have hparted : g.Parted := fun name value h => (hall _ (NameMap.get?_eq_some_iff.mp h)).2
  have hes : es.Perm g.elements := by decide
  have hspelled : Spelled es text :=
    ⟨["sample_tst0 ".toList, "\tDEFAULT_to_min_live".toList, "\u3000low_2-2147483648".toList],
      .cons ⟨[], _, [' '], by decide, by decide, .force (by decide) 0, rfl⟩
        (.cons ⟨['\t'], _, [], by decide, by decide,
            .others (w := "DEFAULT_to_min_live") rfl (by decide), rfl⟩
          (.cons ⟨['\u3000'], _, [], by decide, by decide, .force (by decide) (-2147483648), rfl⟩
            .nil)),
      by decide⟩
  obtain ⟨hmode, hforced⟩ := (hsaid g hnames).2 es text hes hspelled
  exact ⟨⟨hnames, hes, hspelled, hmode, hforced.mpr hparted⟩,
    hlogged r "sample_tst" _ (by decide) rfl (by decide)⟩

/-- One text for two maps: whatever reads it, one of them is lost.  The digit of the name
    counts as a digit of the value. -/
theorem digit_of_name_is_read_as_value :
    let meant := ForceGroups.none.force "x2" 1
    let heard := ForceGroups.none.force "x" 21
    (meant.Named ∧ Spelled meant.elements "x21") ∧ (heard.Named ∧ Spelled heard.elements "x21") ∧
      (parse "x21").forced = heard.forced ∧ (parse "x21").forced ≠ meant.forced := by
  intro meant heard
  have hnamed : ∀ {name : String} {value : Int32}, Catalogue.isTestName name.toList = true →
      (ForceGroups.none.force name value).Named := by
    intro name value hname n v h
    by_cases hn : n = name
    · rw [hn]
      exact hname
    · have hnone : (ForceGroups.none.force name value).forced.get? n = Option.none :=
        NameMap.get?_insert_ne NameMap.empty value hn
      exact nomatch h.symm.trans hnone
  have hspelled : ∀ {name : String} {value : Int32}, Catalogue.isTestName name.toList = true →
      (entryText name value).toList = "x21".toList →
      Spelled (ForceGroups.none.force name value).elements "x21" := by
    intro name value hname htext
    refine ⟨[_], .cons ⟨[], _, [], nofun, nofun, .force hname value, rfl⟩ .nil, ?_⟩
    rw [List.intercalate_singleton, List.nil_append, List.append_nil, htext]
  exact ⟨⟨hnamed (by decide), hspelled (by decide) (by decide)⟩,
    ⟨hnamed (by decide), hspelled (by decide) (by decide)⟩, by decide, by decide⟩

end Cohort.ForceGroups
