import Cohort.Pattern.Engine
import Cohort.Proofs.Pattern.Constructs

/-! # The laws of the engine

    What the engine reads is a lawful syntax: reader by reader, what stands in
    front of the ending is read as it would be alone, or the closing parenthesis
    is taken and there is none left.  So whatever is proved of lawful syntaxes
    holds of the engine. -/

namespace Cohort.Pattern.Engine

variable {f : Flags} {c : Char} {cs rest r : List Char} {x : Construct}
  {a b : Assembly Flags Atom Count} {name : Option String} {p : Tree Atom Count}

/-! ## Signs -/

theorem not_skipped (f : Flags) (h : (Text.isBlank c || c == '#') = false) :
    ¬(f.verbose && (Text.isBlank c || c == '#')) = true := by
  simp [h]

theorem next_suffix (h : next f cs = some (x, rest)) : rest <:+ cs := by
  cases cs with
  | nil => cases h
  | cons c cs => exact readConstruct?_suffix h

theorem next_eq_closing_iff : next f cs = some (.closing, rest) ↔ cs = ')' :: rest := by
  constructor
  · intro h
    cases cs with
    | nil => cases h
    | cons c cs =>
        obtain ⟨rfl, rfl⟩ := readConstruct?_closing h
        rfl
  · rintro rfl
    rw [next, readConstruct?, if_neg (not_skipped f (by decide))]

theorem anchorsStart_textStart : grammar.AnchorsStart (.assertion .textStart) := by
  intro start e
  simp [grammar, Atom.step, Assertion.holds, and_comm]

theorem anchorsEnd_textEnd : grammar.AnchorsEnd (.assertion .textEnd) := by
  intro start e
  simp [grammar, Atom.step, Assertion.holds, and_comm]

/-! ## Whole patterns -/

theorem groupNames_anchored (e e' : Atom) (name : Option String) (p : Tree Atom Count) :
    groupNames (anchored e e' name p) = name.toList ++ groupNames p := by
  simp [anchored, groupNames]

theorem depth_le_depth_anchored (e e' : Atom) (name : Option String) (p : Tree Atom Count) :
    depth p ≤ depth (anchored e e' name p) := by
  simp only [depth, anchored, depthIn, Nat.max_zero, Nat.zero_max]
  omega

theorem admits_of_anchored {e e' : Atom} (h : admits (anchored e e' name p) = true) :
    admits p = true := by
  simp only [admits, groupNames_anchored, Bool.and_eq_true, decide_eq_true_eq] at h ⊢
  exact ⟨(List.nodup_append.mp h.1).2.1, Nat.le_trans (depth_le_depth_anchored e e' name p) h.2⟩

/-! ## The ending -/

/-- A brace that only the ending follows has no counts. -/
theorem next_brace (h : f.skip rest = ending) : next f ('\x7b' :: rest) = none := by
  refine Option.eq_none_iff_forall_ne_some.mpr fun ⟨x, behind⟩ hread => ?_
  rw [next, readConstruct?, if_neg (not_skipped _ (by decide))] at hread
  have hcount : (readCount? f ending).1 = none := by
    have hgather : f.gather (!Decimal.isDigit ·) ending = ([], ending) := by
      cases hf : f.verbose <;> simp [Flags.gather, hf] <;> decide
    have htrim : Text.trimStart ending = ending := by decide
    simp [readCount?, htrim, hgather]
  simp only [readCounts?, h] at hread
  split at hread
  case h_1 hk => exact Option.some_ne_none _ ((congrArg Prod.fst hk).symm.trans hcount)
  case h_2 hk => exact Option.some_ne_none _ ((congrArg Prod.fst hk).symm.trans hcount)
  case h_3 => cases hread

/-- Once the ending is broken into, nothing of it is left. -/
theorem not_reads_of_suffix_dollar (hcs : cs <:+ ['$']) :
    ¬grammar.Reads a cs b (r ++ ending) := by
  intro h
  have hlen := Nat.le_trans h.length_le hcs.length_le
  simp [ending] at hlen

theorem reads_alone (h : grammar.Reads a (cs ++ ending) b (r ++ ending))
    (hr : r = [] ∨ ∃ behind, r = ')' :: behind) : grammar.Reads a cs b r := by
  generalize hk : cs ++ ending = k at h
  generalize hleft : r ++ ending = left at h
  induction h generalizing cs with
  | refl a k =>
      obtain rfl := List.append_cancel_right (hk.trans hleft.symm)
      exact .refl a cs
  | @step a m b x k rest left hread hstep hshort h ih =>
      subst hk hleft
      cases cs with
      | nil =>
          obtain ⟨⟩ := hread.symm.trans (next_eq_closing_iff.mpr rfl)
          exact absurd h (not_reads_of_suffix_dollar List.suffix_rfl)
      | cons c cs =>
          obtain hend | ⟨k, rfl, halone⟩ | ⟨p, inner, rfl, rfl, hinner⟩ :=
            readConstruct?_append_ending hread
          · exact absurd h (not_reads_of_suffix_dollar hend)
          · have hlen : k.length < (c :: cs).length := by
              rw [List.length_append, List.length_append] at hshort
              exact Nat.lt_of_add_lt_add_right hshort
            exact .step halone hstep hlen (ih rfl rfl)
          · -- The brace begins a repetition, and is not where the reading ends.
            obtain ⟨⟩ := hstep
            generalize hbrace : '\x7b' :: inner = k at h
            cases h with
            | refl => obtain rfl | ⟨behind, rfl⟩ := hr <;> simp [ending] at hbrace
            | step hread =>
                subst hbrace
                exact absurd hread (by simp [grammar, Frame.push, next_brace hinner])

/-- **THE ENGINE IS LAWFUL**: its syntax has the anchors, the parentheses and
    the independence of what stands behind. -/
theorem grammar_lawful : grammar.Lawful where
  suffix _ _ _ _ := next_suffix
  closing _ _ _ := next_eq_closing_iff
  caret := ⟨_, anchorsStart_textStart, fun _ => rfl⟩
  dollar := ⟨_, anchorsEnd_textEnd, fun _ => rfl⟩
  group _ := rfl
  admits _ _ _ _ := admits_of_anchored
  alone _ _ _ _ := reads_alone

/-- The engine accepts what its syntax reads, and finds what the tree matches. -/
theorem grammar_describes : grammar.Describes library := by
  intro text found h
  simp only [library] at h
  split at h
  case h_1 => cases h
  case h_2 p hp =>
    split at h
    case isTrue =>
      obtain ⟨⟩ := h
      exact ⟨p, hp, fun _ => rfl⟩
    case isFalse => cases h

end Cohort.Pattern.Engine
