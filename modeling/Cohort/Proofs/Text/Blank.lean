import Mathlib.Data.List.TakeWhile
import Cohort.Text.Class

/-! # Blanks

    White space parts words and stands around texts, in any script.  That it
    parts them rests on the Unicode tables: no blank is a letter or a number.
    That it only stands around them is a matter of trimming. -/

namespace Cohort.Text

/-! ## Blank characters -/

/-- The code points of white space. -/
def blankCodes : List Nat :=
  [0x09, 0x0a, 0x0b, 0x0c, 0x0d, 0x20, 0x85, 0xa0, 0x1680, 0x2000, 0x2001, 0x2002, 0x2003, 0x2004,
    0x2005, 0x2006, 0x2007, 0x2008, 0x2009, 0x200a, 0x2028, 0x2029, 0x202f, 0x205f, 0x3000]

theorem toNat_mem_blankCodes {c : Char} (h : isBlank c = true) : c.toNat ∈ blankCodes := by
  simp only [isBlank, Bool.or_eq_true, Bool.and_eq_true, decide_eq_true_eq, beq_iff_eq] at h
  simp only [blankCodes, List.mem_cons, List.not_mem_nil, or_false]
  omega

/-- What holds of all code points of white space holds of every blank. -/
theorem of_isBlank {P : Char → Prop} (h : ∀ n ∈ blankCodes, P (Char.ofNat n)) {c : Char}
    (hc : isBlank c = true) : P c :=
  Char.ofNat_toNat c ▸ h c.toNat (toNat_mem_blankCodes hc)

/-- No blank is a letter or a number; here the Unicode tables are looked up. -/
theorem isAlphanumeric_of_isBlank {c : Char} (h : isBlank c = true) :
    isAlphanumeric c = false :=
  of_isBlank (P := fun c => isAlphanumeric c = false) (by decide +kernel) h

/-- A character of a class without blanks is none. -/
theorem isBlank_eq_false_of {p : Char → Bool}
    (hp : ∀ {c}, isBlank c = true → p c = false) {c : Char} (hc : p c = true) :
    isBlank c = false := by
  cases hblank : isBlank c with
  | false => rfl
  | true => exact nomatch hc.symm.trans (hp hblank)

/-! ## Trimming -/

/-- Nothing but blanks. -/
def Blank (cs : List Char) : Prop :=
  ∀ c ∈ cs, isBlank c = true

instance (cs : List Char) : Decidable (Blank cs) :=
  decidable_of_iff (cs.all isBlank = true) List.all_eq_true

/-- Neither the first character nor the last one is a blank. -/
structure Visible (cs : List Char) : Prop where
  head : ∀ c, cs.head? = some c → isBlank c = false
  last : ∀ c, cs.getLast? = some c → isBlank c = false

/-- Characters that are no blanks are visible at the ends. -/
theorem visible_of_forall {cs : List Char} (h : ∀ c ∈ cs, isBlank c = false) :
    Visible cs where
  head c hc := h c (List.mem_of_head? hc)
  last c hc := h c (List.mem_of_getLast? hc)

/-- What stands between two visible texts does not matter. -/
theorem Visible.append {first last : List Char} (hfirst : Visible first) (hsome : first ≠ [])
    (hlast : Visible last) (hsome' : last ≠ []) (between : List Char) :
    Visible (first ++ (between ++ last)) where
  head c hc := by
    obtain ⟨x, rest, rfl⟩ := List.exists_cons_of_ne_nil hsome
    exact hfirst.head c hc
  last c hc := by
    rw [← List.append_assoc, List.getLast?_append, List.getLast?_eq_some_getLast hsome',
      Option.some_or] at hc
    exact hlast.last c ((List.getLast?_eq_some_getLast hsome').trans hc)

theorem dropWhile_of_head? {p : Char → Bool} {cs : List Char}
    (h : ∀ c, cs.head? = some c → p c = false) : cs.dropWhile p = cs := by
  cases cs with
  | nil => rfl
  | cons c cs => rw [List.dropWhile_cons, h c rfl, if_neg Bool.false_ne_true]

/-- **TRIMMING UNDOES WRAPPING**: blanks on both sides of a visible text come off, and
    nothing of the text does. -/
theorem trimChars_around {before cs after : List Char} (hbefore : Blank before)
    (hafter : Blank after) (h : Visible cs) : trimChars (before ++ cs ++ after) = cs := by
  have hreverse : Blank after.reverse := fun c hc => hafter c (List.mem_reverse.mp hc)
  have hlast : ∀ c, cs.reverse.head? = some c → isBlank c = false := by
    intro c hc
    rw [List.head?_reverse] at hc
    exact h.last c hc
  rw [trimChars, trimStart, trimEnd, List.append_assoc, List.dropWhile_append_of_pos hbefore]
  cases cs with
  | nil =>
      have hnone : ([] ++ after).dropWhile isBlank = [] := by
        rw [List.nil_append, ← List.append_nil after, List.dropWhile_append_of_pos hafter]
        rfl
      rw [hnone]
      rfl
  | cons c rest =>
      have hstart : (c :: rest ++ after).dropWhile isBlank = c :: rest ++ after :=
        dropWhile_of_head? fun x hx => h.head x hx
      rw [hstart, List.reverse_append, List.dropWhile_append_of_pos hreverse,
        dropWhile_of_head? hlast, List.reverse_reverse]

/-- Only blanks are trimmed at the end. -/
theorem exists_trimEnd_append (cs : List Char) :
    ∃ blanks, Blank blanks ∧ cs = trimEnd cs ++ blanks := by
  refine ⟨(cs.reverse.takeWhile isBlank).reverse, ?_, ?_⟩
  · intro c hc
    exact List.mem_takeWhile_imp (List.mem_reverse.mp hc)
  · rw [trimEnd, ← List.reverse_append, List.takeWhile_append_dropWhile, List.reverse_reverse]

theorem trimStart_append_of_blank {xs : List Char} (h : Blank xs) (ys : List Char) :
    trimStart (xs ++ ys) = trimStart ys :=
  List.dropWhile_append_of_pos h

/-- Trimming at the start ends with the first character that is seen. -/
theorem trimStart_append {xs : List Char} (h : ¬ Blank xs) (ys : List Char) :
    trimStart (xs ++ ys) = trimStart xs ++ ys := by
  have hsome : (xs.dropWhile isBlank).isEmpty = false := by
    rw [List.isEmpty_eq_false_iff]
    intro hnil
    exact h (List.dropWhile_eq_nil_iff.mp hnil)
  rw [trimStart, List.dropWhile_append, hsome, if_neg Bool.false_ne_true, trimStart]

theorem trimStart_eq_nil {xs : List Char} (h : Blank xs) : trimStart xs = [] :=
  List.dropWhile_eq_nil_iff.mpr h

/-- Without blanks at either end there is nothing to trim. -/
theorem Visible.trimChars_eq_self {cs : List Char} (h : Visible cs) : trimChars cs = cs := by
  have hnone : trimChars ([] ++ cs ++ []) = cs := trimChars_around nofun nofun h
  rwa [List.nil_append, List.append_nil] at hnone

end Cohort.Text
