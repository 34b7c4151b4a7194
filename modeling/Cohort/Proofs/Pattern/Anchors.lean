import Cohort.Pattern.Library
import Cohort.Proofs.Pattern.Matching

/-! # Texts between anchors

    The text that is compiled for a pattern puts it into a group between two
    anchors.  Reading it is reading the pattern with one more open group around:
    every step is the step of the pattern alone, to its end, or until a closing
    parenthesis comes when the pattern has no open group of its own.  Then the
    added group is closed, and the text behind stands outside of it.

    That holds of every syntax that is lawful.  What is asked of one is what is
    documented of regular expressions: which characters are anchors and
    parentheses, and that what stands in front of a closing parenthesis does not
    depend on what stands behind it. -/

namespace Cohort.Pattern

variable {Flags Atom Operator : Type} {S : Syntax Flags Atom Operator}
  {a b next : Assembly Flags Atom Operator} {x : Construct Flags Atom Operator}
  {outer : Frame Flags Atom Operator} {cs rest : List Char} {text : String}

/-- What stands behind a pattern in the text that is compiled for it. -/
def ending : List Char := [')', '$']

/-! ## Readings -/

namespace Syntax

/-- Reading gets from an assembly and a text to another assembly, with the
    rest of the text left. -/
inductive Reads (S : Syntax Flags Atom Operator) : Assembly Flags Atom Operator → List Char →
    Assembly Flags Atom Operator → List Char → Prop
  | refl (a : Assembly Flags Atom Operator) (cs : List Char) : Reads S a cs a cs
  | step {a next b : Assembly Flags Atom Operator} {x : Construct Flags Atom Operator}
      {cs rest left : List Char} (hread : S.next a.group.flags cs = some (x, rest))
      (hstep : a.step? x = some next) (hshort : rest.length < cs.length)
      (h : Reads S next rest b left) : Reads S a cs b left

/-- A closing parenthesis of the text is read when no group of it is open. -/
def ClosesOutside (S : Syntax Flags Atom Operator) (text : String) : Prop :=
  ∃ b behind, S.Reads S.start text.toList b (')' :: behind) ∧ b.around = []

theorem run?_nil : S.run? a [] = some a := by
  rw [run?]
  rfl

theorem run?_eq_of_step (hread : S.next a.group.flags cs = some (x, rest))
    (hstep : a.step? x = some next) (hshort : rest.length < cs.length) :
    S.run? a cs = S.run? next rest := by
  cases cs with
  | nil => exact absurd hshort (Nat.not_lt_zero _)
  | cons c cs =>
      rw [run?, hread]
      simp only [List.isEmpty_cons, hstep, hshort]
      rfl

theorem exists_of_run? (hcs : cs ≠ []) (h : S.run? a cs = some b) :
    ∃ x rest next, S.next a.group.flags cs = some (x, rest) ∧ a.step? x = some next ∧
      rest.length < cs.length ∧ S.run? next rest = some b := by
  rw [run?, if_neg (by simpa using hcs)] at h
  split at h
  case h_1 => cases h
  case h_2 x rest hread =>
    split at h
    case h_1 => cases h
    case h_2 next hstep =>
      split at h
      case isTrue hshort => exact ⟨x, rest, next, hread, hstep, hshort, h⟩
      case isFalse => cases h

/-- Reading leaves no more of a text than there was. -/
theorem Reads.length_le (h : S.Reads a cs b rest) : rest.length ≤ cs.length := by
  induction h with
  | refl => exact Nat.le_refl _
  | step _ _ hshort _ ih => exact Nat.le_trans ih (Nat.le_of_lt hshort)

/-- What is left of a text goes on where the reading has got. -/
theorem Reads.run?_eq (h : S.Reads a cs b rest) : S.run? a cs = S.run? b rest := by
  induction h with
  | refl => rfl
  | step hread hstep hshort _ ih => rw [run?_eq_of_step hread hstep hshort, ih]

/-! ## Laws -/

/-- What is asked of a syntax. -/
structure Lawful (S : Syntax Flags Atom Operator) : Prop where
  /-- A construct stands at the front of its text. -/
  suffix : ∀ f cs x rest, S.next f cs = some (x, rest) → rest <:+ cs
  /-- An unescaped closing parenthesis closes a group, and nothing else does. -/
  closing : ∀ f cs rest, S.next f cs = some (.closing, rest) ↔ cs = ')' :: rest
  /-- A caret is an anchor at the start of the text. -/
  caret : ∃ a, S.AnchorsStart a ∧ ∀ cs, S.next S.initial ('^' :: cs) = some (.atom a, cs)
  /-- A dollar sign is an anchor at the end of the text. -/
  dollar : ∃ b, S.AnchorsEnd b ∧ ∀ cs, S.next S.initial ('$' :: cs) = some (.atom b, cs)
  /-- A group may be opened that captures nothing and has no flags of its own. -/
  group : ∀ cs, S.next S.initial ('(' :: '?' :: ':' :: cs) = some (.opening S.initial none, cs)
  /-- What is admitted between anchors is admitted without them. -/
  admits : ∀ a b name p, S.admits (anchored a b name p) = true → S.admits p = true
  /-- What is read in front of a closing parenthesis is read there whether or not
      the ending follows the text; and what is read in front of the ending is
      read where the text ends. -/
  alone : ∀ a b cs r, S.Reads a (cs ++ ending) b (r ++ ending) →
    (r = [] ∨ ∃ behind, r = ')' :: behind) → S.Reads a cs b r

/-- The library accepts no text that the syntax refuses, and what it finds is
    what the tree of the text matches. -/
def Describes (S : Syntax Flags Atom Operator) (r : PatternLibrary) : Prop :=
  ∀ text found, r.compile text = .ok found →
    ∃ p, S.parse? text = some p ∧ ∀ name, found name = S.isFoundIn p name

/-- A text that closes a group it has not opened is no pattern. -/
theorem ClosesOutside.parse?_eq_none (hS : S.Lawful) (h : S.ClosesOutside text) :
    S.parse? text = none := by
  obtain ⟨b, behind, hreads, hb⟩ := h
  have hstop : S.run? b (')' :: behind) = none := by
    refine Option.eq_none_iff_forall_ne_some.mpr fun d hd => ?_
    obtain ⟨x, rest, next, hread, hstep, -, -⟩ := exists_of_run? (List.cons_ne_nil _ _) hd
    rw [(hS.closing _ _ _).mpr rfl] at hread
    obtain ⟨⟩ := hread
    simp [Assembly.step?, hb] at hstep
  rw [parse?, hreads.run?_eq, hstop, Option.bind_none]

/-- Such a text is refused by every library of the syntax. -/
theorem ClosesOutside.exists_error (hS : S.Lawful) {r : PatternLibrary} (hr : S.Describes r)
    (h : S.ClosesOutside text) : ∃ detail, r.compile text = .error detail := by
  cases hcompile : r.compile text with
  | error detail => exact ⟨detail, rfl⟩
  | ok found =>
      obtain ⟨p, hp, -⟩ := hr text found hcompile
      exact absurd (h.parse?_eq_none hS) (by simp [hp])

end Syntax

/-! ## One more open group -/

/-- The assembly with one more open group around all others. -/
def Assembly.inside (a : Assembly Flags Atom Operator) (outer : Frame Flags Atom Operator) :
    Assembly Flags Atom Operator :=
  { a with around := a.around ++ [outer] }

theorem Assembly.around_inside_ne_nil : (a.inside outer).around ≠ [] := by
  simp [inside]

/-- A step inside is a step alone, unless it closes the group around. -/
theorem Assembly.step?_inside (hx : x = .closing → a.around ≠ [])
    (h : (a.inside outer).step? x = some next) :
    ∃ n, a.step? x = some n ∧ next = n.inside outer := by
  cases x with
  | atom p | flags f | bar | nothing | opening inner name =>
      obtain ⟨⟩ := h
      exact ⟨_, rfl, rfl⟩
  | closing =>
      cases haround : a.around with
      | nil => exact absurd haround (hx rfl)
      | cons g around =>
          have hinside : (a.inside outer).around = g :: (around ++ [outer]) := by
            rw [inside, haround, List.cons_append]
          simp only [step?, haround, hinside] at h ⊢
          obtain ⟨⟩ := h
          exact ⟨_, rfl, rfl⟩
  | repetition o =>
      have hgroup : (a.inside outer).group = a.group := rfl
      simp only [step?, hgroup] at h ⊢
      split at h
      case h_1 _ p parts hparts =>
        obtain ⟨⟩ := h
        exact ⟨_, rfl, rfl⟩
      case h_2 => exact nomatch h

/-- No other construct closes a group. -/
theorem Assembly.around_ne_nil_of_step? (hx : x ≠ .closing) (ha : a.around ≠ [])
    (h : a.step? x = some next) : next.around ≠ [] := by
  cases x with
  | atom p | flags f | bar | nothing =>
      obtain ⟨⟩ := h
      exact ha
  | opening inner name =>
      obtain ⟨⟩ := h
      exact List.cons_ne_nil _ _
  | closing => exact absurd rfl hx
  | repetition o =>
      simp only [step?] at h
      split at h
      case h_1 =>
        obtain ⟨⟩ := h
        exact ha
      case h_2 => exact nomatch h

/-! ## The ending -/

theorem suffix_dollar_iff : cs <:+ ['$'] ↔ cs = ['$'] ∨ cs = [] := by
  simp [List.suffix_cons_iff]

/-- What is left of a text and the ending is left of the text, or of the ending
    without its parenthesis. -/
theorem suffix_append_ending (h : rest <:+ cs ++ ending) :
    (∃ r, rest = r ++ ending) ∨ rest <:+ ['$'] := by
  obtain h | ⟨r, rfl⟩ := List.suffix_or_suffix_of_suffix h (List.suffix_append cs ending)
  · obtain rfl | h := List.suffix_cons_iff.mp h
    · exact Or.inl ⟨[], rfl⟩
    · exact Or.inr h
  · exact Or.inl ⟨r, rfl⟩

namespace Syntax.Lawful

variable (hS : S.Lawful)

include hS

/-- What is left of the ending without its parenthesis closes no group. -/
theorem around_ne_nil_of_dollar (hrest : rest <:+ ['$']) (ha : a.around ≠ [])
    (h : S.run? a rest = some b) : b.around ≠ [] := by
  obtain rfl | rfl := suffix_dollar_iff.mp hrest
  · obtain ⟨x, left, next, hread, hstep, hshort, h⟩ := exists_of_run? (List.cons_ne_nil _ _) h
    obtain rfl : left = [] := List.length_eq_zero_iff.mp (Nat.lt_one_iff.mp hshort)
    have hx : x ≠ .closing := by
      rintro rfl
      exact absurd ((hS.closing _ _ _).mp hread) (by simp)
    rw [run?_nil] at h
    obtain ⟨⟩ := h
    exact Assembly.around_ne_nil_of_step? hx ha hstep
  · rw [run?_nil] at h
    obtain ⟨⟩ := h
    exact ha

/-- A dollar sign outside of all groups adds an anchor. -/
theorem run?_dollar (g : Frame Flags Atom Operator) (hg : g.flags = S.initial) :
    ∃ e, S.AnchorsEnd e ∧ S.run? ⟨g, []⟩ ['$'] = some ⟨g.push (.tree (.atom e)), []⟩ := by
  obtain ⟨e, he, hdollar⟩ := hS.dollar
  have hread : S.next (Assembly.mk g []).group.flags ['$'] = some (.atom e, []) := by
    rw [hg, hdollar]
  refine ⟨e, he, ?_⟩
  rw [run?_eq_of_step hread rfl (Nat.lt_succ_self 0), run?_nil]

/-- At the ending the group around is closed, if no other one is open, and the
    anchor comes behind it. -/
theorem of_run?_ending (houter : outer.flags = S.initial)
    (h : S.run? (a.inside outer) ending = some b) (hb : b.around = []) :
    a.around = [] ∧ ∃ e, S.AnchorsEnd e ∧
      b.group = (outer.push (.tree (.group a.group.name a.group.tree))).push
        (.tree (.atom e)) := by
  obtain ⟨x, rest, next, hread, hstep, -, h⟩ := exists_of_run? (List.cons_ne_nil _ _) h
  obtain ⟨⟩ := ((hS.closing _ _ _).mpr rfl).symm.trans hread
  cases haround : a.around with
  | cons g around =>
      have hinside : (a.inside outer).around = g :: (around ++ [outer]) := by
        rw [Assembly.inside, haround, List.cons_append]
      simp only [Assembly.step?, hinside] at hstep
      obtain ⟨⟩ := hstep
      exact absurd hb (hS.around_ne_nil_of_dollar List.suffix_rfl (by simp) h)
  | nil =>
      have hinside : (a.inside outer).around = [outer] := by
        rw [Assembly.inside, haround, List.nil_append]
      simp only [Assembly.step?, hinside] at hstep
      obtain ⟨⟩ := hstep
      obtain ⟨e, he, hdollar⟩ := hS.run?_dollar
        (outer.push (.tree (.group a.group.name a.group.tree))) houter
      obtain ⟨⟩ := hdollar.symm.trans h
      exact ⟨rfl, e, he, rfl⟩

/-! ## Whole texts -/

/-- Reading a text between the anchors, to the end of a group that is not
    around it: the text is read up to a closing parenthesis of its own that
    closes the group around, or to its end. -/
theorem exists_reads_of_run?_inside (houter : outer.flags = S.initial)
    (h : S.run? (a.inside outer) (cs ++ ending) = some b) (hb : b.around = []) :
    ∃ d r, S.Reads a (cs ++ ending) d (r ++ ending) ∧ d.around = [] ∧
      ((∃ behind, r = ')' :: behind) ∨ r = [] ∧ S.run? (d.inside outer) ending = some b) := by
  induction hlen : cs.length using Nat.strongRecOn generalizing a cs with
  | ind len ih =>
    cases hcs : cs with
    | nil =>
        subst hcs
        exact ⟨a, [], .refl _ _, (hS.of_run?_ending houter h hb).1, Or.inr ⟨rfl, h⟩⟩
    | cons c k =>
        have hne : cs ++ ending ≠ [] := by simp [hcs]
        obtain ⟨x, rest, next, hread, hstep, hshort, h⟩ := exists_of_run? hne h
        rw [← hcs]
        by_cases hout : x = .closing ∧ a.around = []
        · obtain ⟨rfl, ha⟩ := hout
          obtain ⟨rfl, -⟩ := List.cons_eq_cons.mp (hcs ▸ (hS.closing _ _ _).mp hread)
          exact ⟨a, cs, .refl _ _, ha, Or.inl ⟨k, hcs⟩⟩
        · obtain ⟨n, hn, rfl⟩ := Assembly.step?_inside (fun hx ha => hout ⟨hx, ha⟩) hstep
          obtain ⟨r, rfl⟩ | hend := suffix_append_ending (hS.suffix _ _ _ _ hread)
          · have hrlen : r.length < len := by simpa [← hlen] using hshort
            obtain ⟨d, left, hreads, hd, hcase⟩ := ih _ hrlen h rfl
            exact ⟨d, left, .step hread hn hshort hreads, hd, hcase⟩
          · -- The ending is broken into: no parenthesis is left for the group around.
            exact absurd hb (hS.around_ne_nil_of_dollar hend Assembly.around_inside_ne_nil h)

theorem run?_compiled (text : String) : ∃ e, S.AnchorsStart e ∧
    S.run? S.start ("^(?:" ++ text ++ ")$").toList
      = S.run? (S.start.inside (S.start.group.push (.tree (.atom e))))
          (text.toList ++ ending) := by
  obtain ⟨e, he, hcaret⟩ := hS.caret
  have htext : ("^(?:" ++ text ++ ")$").toList
      = '^' :: '(' :: '?' :: ':' :: (text.toList ++ ending) := by
    simp [String.toList_append, ending]
  refine ⟨e, he, ?_⟩
  rw [htext, run?_eq_of_step (hcaret _) rfl (Nat.lt_succ_self _)]
  exact run?_eq_of_step (hS.group _) rfl (Nat.lt_add_of_pos_right (Nat.zero_lt_succ 2))

/-- A text is accepted between the anchors for one of two reasons: it closes a
    group it has not opened, or it is a pattern, and then that is what stands
    between the anchors. -/
theorem parse?_compiled {q : Tree Atom Operator} (h : S.parse? ("^(?:" ++ text ++ ")$") = some q) :
    S.ClosesOutside text ∨ ∃ e e' name p, S.AnchorsStart e ∧ S.AnchorsEnd e' ∧
      S.parse? text = some p ∧ q = anchored e e' name p := by
  obtain ⟨b, hb, htree⟩ := Option.bind_eq_some_iff.mp h
  split at htree
  case isFalse => exact nomatch htree
  case isTrue hok =>
    obtain ⟨⟩ := htree
    obtain ⟨hnone, hadmits⟩ := Bool.and_eq_true_iff.mp hok
    have hnone := List.isEmpty_iff.mp hnone
    obtain ⟨e, he, hrun⟩ := hS.run?_compiled text
    rw [hrun] at hb
    obtain ⟨d, r, hreads, hd, hcase⟩ := hS.exists_reads_of_run?_inside rfl hb hnone
    obtain ⟨behind, rfl⟩ | ⟨rfl, hending⟩ := hcase
    · exact Or.inl ⟨d, behind, hS.alone _ _ _ _ hreads (Or.inr ⟨behind, rfl⟩), hd⟩
    · obtain ⟨-, e', he', hgroup⟩ := hS.of_run?_ending rfl hending hnone
      have htree : b.group.tree = anchored e e' d.group.name d.group.tree := by
        rw [hgroup]
        rfl
      rw [htree] at hadmits
      have halone : S.run? S.start text.toList = some d := by
        rw [(hS.alone _ _ _ _ hreads (Or.inl rfl)).run?_eq, run?_nil]
      refine Or.inr ⟨e, e', d.group.name, d.group.tree, he, he', ?_, htree⟩
      simp [parse?, halone, hd, hS.admits _ _ _ _ hadmits]

end Syntax.Lawful

/-! ## Whole names -/

/-- The text is a pattern of its own, and what was found is whether it matches
    the name from the first character to the last. -/
def Syntax.DescribesWhole (S : Syntax Flags Atom Operator) (text name : String) (found : Bool) :
    Prop :=
  ∃ p, S.parse? text = some p ∧ found = decide (S.MatchesWhole p name)

theorem Syntax.DescribesWhole.unique {name : String} {found found' : Bool}
    (h : S.DescribesWhole text name found) (h' : S.DescribesWhole text name found') :
    found = found' := by
  obtain ⟨p, hp, rfl⟩ := h
  obtain ⟨p', hp', rfl⟩ := h'
  obtain ⟨⟩ := hp.symm.trans hp'
  rfl

/-- **ANCHORED TEXTS DESCRIBE WHOLE NAMES**: a text that is accepted between the
    anchors is a pattern of its own that matches whole names, unless it closes
    the group around it. -/
theorem Syntax.Lawful.describesWhole (hS : S.Lawful) {r : PatternLibrary} (hr : S.Describes r)
    (hopen : ¬S.ClosesOutside text) {found : String → Bool} (h : r.compileWhole text = .ok found)
    (name : String) : S.DescribesWhole text name (found name) := by
  obtain ⟨q, hq, hfound⟩ := hr _ _ h
  obtain ⟨e, e', _, p, he, he', hp, rfl⟩ := (hS.parse?_compiled hq).resolve_left hopen
  refine ⟨p, hp, ?_⟩
  rw [hfound]
  exact Bool.eq_iff_iff.mpr ((isFoundIn_anchored he he' p name).trans decide_eq_true_iff.symm)

end Cohort.Pattern
