import Cohort.Pattern.Syntax

/-! # Matching whole texts

    An atom that is an anchor leads from a place at one end of a text to that
    place, and from no other place anywhere.  So between two anchors a pattern is
    found in just the texts that it matches from the first character to the
    last. -/

namespace Cohort.Pattern

variable {Flags Atom Operator : Type} {S : Syntax Flags Atom Operator}
  {p q : Tree Atom Operator} {a b : Atom} {name : Option String} {start e : Place}

theorem mem_ends_sequence :
    e ∈ S.ends (.sequence p q) start ↔ ∃ m ∈ S.ends p start, e ∈ S.ends q m := by
  rw [Syntax.ends, spread, List.mem_eraseDups, List.mem_flatMap]

theorem mem_ends_atom : e ∈ S.ends (.atom a) start ↔ e ∈ S.step a start :=
  Iff.rfl

theorem mem_ends_group :
    e ∈ S.ends (.group name p) start ↔ e ∈ S.ends p start :=
  Iff.rfl

theorem isFoundIn_iff {text : String} :
    S.isFoundIn p text = true ↔ ∃ start ∈ places text.toList, ∃ e, e ∈ S.ends p start := by
  simp only [Syntax.isFoundIn, List.any_eq_true, Bool.not_eq_true',
    List.isEmpty_eq_false_iff_exists_mem]

/-! ## Anchors -/

/-- The atom holds where nothing stands before, and takes no character. -/
def Syntax.AnchorsStart (S : Syntax Flags Atom Operator) (a : Atom) : Prop :=
  ∀ start e, e ∈ S.step a start ↔ e = start ∧ start.before = []

/-- The atom holds where nothing stands behind, and takes no character. -/
def Syntax.AnchorsEnd (S : Syntax Flags Atom Operator) (a : Atom) : Prop :=
  ∀ start e, e ∈ S.step a start ↔ e = start ∧ start.behind = []

/-- Some match begins at the first character of the text and ends at its last. -/
def Syntax.MatchesWhole (S : Syntax Flags Atom Operator) (p : Tree Atom Operator)
    (text : String) : Prop :=
  ∃ e ∈ S.ends p ⟨[], text.toList⟩, e.behind = []

instance (p : Tree Atom Operator) (text : String) : Decidable (S.MatchesWhole p text) :=
  List.decidableBEx _ _

/-- A group between two atoms. -/
def anchored (a b : Atom) (name : Option String) (p : Tree Atom Operator) : Tree Atom Operator :=
  .sequence (.atom a) (.sequence (.group name p) (.atom b))

theorem eq_or_before_ne_nil {before cs : List Char} (h : start ∈ placesFrom before cs) :
    start = ⟨before, cs⟩ ∨ start.before ≠ [] := by
  induction cs generalizing before with
  | nil => exact Or.inl (List.mem_singleton.mp h)
  | cons c cs ih =>
      obtain hstart | h := List.mem_cons.mp h
      · exact Or.inl hstart
      · obtain rfl | hbefore := ih h
        · exact Or.inr (List.cons_ne_nil _ _)
        · exact Or.inr hbefore

/-- Of all places of a text, only the first has nothing before it. -/
theorem mem_places_and_before_eq_nil_iff {text : List Char} :
    start ∈ places text ∧ start.before = [] ↔ start = ⟨[], text⟩ := by
  constructor
  · rintro ⟨h, hbefore⟩
    exact (eq_or_before_ne_nil h).resolve_right fun hne => hne hbefore
  · rintro rfl
    exact ⟨by cases text <;> simp [places, placesFrom], rfl⟩

theorem mem_ends_anchored (ha : S.AnchorsStart a) (hb : S.AnchorsEnd b) :
    e ∈ S.ends (anchored a b name p) start
      ↔ start.before = [] ∧ e ∈ S.ends p start ∧ e.behind = [] := by
  simp only [anchored, mem_ends_sequence, mem_ends_atom, mem_ends_group, ha start, hb _ e]
  constructor
  · rintro ⟨_, ⟨rfl, hbefore⟩, e, he, rfl, hbehind⟩
    exact ⟨hbefore, he, hbehind⟩
  · rintro ⟨hbefore, he, hbehind⟩
    exact ⟨start, ⟨rfl, hbefore⟩, e, he, rfl, hbehind⟩

/-- **ANCHORED MATCHING IS WHOLE**: between the anchors a pattern is found in
    just the texts that it matches from the first character to the last. -/
theorem isFoundIn_anchored (ha : S.AnchorsStart a) (hb : S.AnchorsEnd b)
    (p : Tree Atom Operator) (text : String) :
    S.isFoundIn (anchored a b name p) text = true ↔ S.MatchesWhole p text := by
  simp only [isFoundIn_iff, mem_ends_anchored ha hb]
  constructor
  · rintro ⟨start, hstart, e, hbefore, he, hbehind⟩
    obtain rfl := mem_places_and_before_eq_nil_iff.mp ⟨hstart, hbefore⟩
    exact ⟨e, he, hbehind⟩
  · rintro ⟨e, he, hbehind⟩
    exact ⟨_, (mem_places_and_before_eq_nil_iff.mpr rfl).1, e, rfl, he, hbehind⟩

end Cohort.Pattern
