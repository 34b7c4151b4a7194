import Cohort.Catalogue
import Cohort.Forced
import Cohort.Proofs.Decimal.Digits
import Cohort.Proofs.Text.Blank

/-! # Elements of forced groups

    An element is a name with a value behind it, and nothing stands between the
    two.  Read from the right, the value ends where its digits end, so a minus
    sign parts it from any name, but the digits of a name go to a value that has
    no sign.  Everywhere else what is read is what was written. -/

namespace Cohort.ForceGroups

/-! ## Elements -/

/-- What is said about a test or about all others. -/
inductive Element where
  | force (name : String) (value : Int32)
  | others (mode : DefaultMode)
deriving Repr, DecidableEq

/-- A test with its value. -/
def entryText (name : String) (value : Int32) : String :=
  name ++ toString value.toInt

/-- The texts of an element: names are those that catalogues have, and the words for modes are
    written in letters of any case. -/
inductive Element.Spells : Element → List Char → Prop where
  | force {name : String} (h : Catalogue.isTestName name.toList = true) (value : Int32) :
      Spells (.force name value) (entryText name value).toList
  | others {mode : DefaultMode} {word w : String} (h : mode.word? = some word)
      (hw : Text.equalsIgnoringAsciiCase w word = true) : Spells (.others mode) w.toList

/-- The last character is a digit. -/
def endsInDigit (name : String) : Bool :=
  name.toList.getLast?.any Decimal.isDigit

/-! ## The characters of an element -/

/-- Neither a blank nor a comma. -/
def Solid (cs : List Char) : Prop :=
  ∀ c ∈ cs, Text.isBlank c = false ∧ c ≠ ','

/-- A character of a name or a number. -/
def isEntryChar (c : Char) : Bool :=
  c.isAlphanum || c == '_' || c == '-'

theorem solid_of_isEntryChar {c : Char} (h : isEntryChar c = true) :
    Text.isBlank c = false ∧ c ≠ ',' := by
  constructor
  · exact Text.isBlank_eq_false_of
      (fun hc => Text.of_isBlank (P := fun c => isEntryChar c = false) (by decide) hc) h
  · rintro rfl
    exact absurd h (by decide)

theorem isEntryChar_of_isDigit {c : Char} (h : Decimal.isDigit c = true) :
    isEntryChar c = true := by
  have hdigit : c.isDigit = true := by
    rw [Decimal.isDigit, Bool.and_eq_true] at h
    rw [Char.isDigit, Bool.and_eq_true]
    exact h
  simp only [isEntryChar, Char.isAlphanum, hdigit, Bool.or_true, Bool.true_or]

theorem isEntryChar_of_mem_toString {n : Int} {c : Char} (hc : c ∈ (toString n).toList) :
    isEntryChar c = true := by
  by_cases hn : 0 ≤ n
  · rw [Decimal.toList_toString_of_nonneg hn] at hc
    exact isEntryChar_of_isDigit (Decimal.isDigit_of_mem_toDigits hc)
  · rw [Decimal.toList_toString_of_neg (Int.not_le.mp hn)] at hc
    rcases List.mem_cons.mp hc with rfl | hc
    · decide
    · exact isEntryChar_of_isDigit (Decimal.isDigit_of_mem_toDigits hc)

theorem toNat_lt_of_isAlphanum {c : Char} (h : c.isAlphanum = true) : c.toNat < 128 := by
  rcases Bool.or_eq_true_iff.mp h with halpha | hdigit
  · rcases Bool.or_eq_true_iff.mp halpha with hupper | hlower
    · have hrange : 'A'.val ≤ c.val ∧ c.val ≤ 'Z'.val := of_decide_eq_true hupper
      exact Nat.lt_of_le_of_lt (UInt32.le_iff_toNat_le.mp hrange.2) (by decide)
    · have hlast : c.val ≤ 'z'.val := of_decide_eq_true (Bool.and_eq_true_iff.mp hlower).2
      exact Nat.lt_of_le_of_lt (UInt32.le_iff_toNat_le.mp hlast) (by decide)
  · have hlast : c.val ≤ '9'.val := of_decide_eq_true (Bool.and_eq_true_iff.mp hdigit).2
    exact Nat.lt_of_le_of_lt (UInt32.le_iff_toNat_le.mp hlast) (by decide)

/-- The names of catalogues are names of forced tests. -/
theorem isNameChar_of_isTestName {name : List Char} (h : Catalogue.isTestName name = true)
    {c : Char} (hc : c ∈ name) : isNameChar c = true := by
  have hchar := Catalogue.nameChar_of_isTestName h hc
  rw [isNameChar, Bool.or_eq_true]
  rcases Bool.or_eq_true_iff.mp hchar with hletter | hlike
  · refine Or.inl ?_
    have hascii := toNat_lt_of_isAlphanum hletter
    rw [Text.isAlphanumeric, Text.isAlphabetic, Text.isNumeric, if_pos hascii, if_pos hascii]
    exact hletter
  · exact Or.inr hlike

/-! ## Names and values apart -/

section Apart

variable {stem digits : List Char} (hdigits : ∀ c ∈ digits, Decimal.isDigit c = true)
include hdigits

/-- Seen from the right, digits end where no digit stands. -/
theorem span_reverse (hstem : ∀ c, stem.getLast? = some c → Decimal.isDigit c = false) :
    (stem ++ digits).reverse.takeWhile Decimal.isDigit = digits.reverse ∧
      (stem ++ digits).reverse.dropWhile Decimal.isDigit = stem.reverse := by
  have hdigits' : ∀ c ∈ digits.reverse, Decimal.isDigit c = true :=
    fun c hc => hdigits c (List.mem_reverse.mp hc)
  have hhead : ∀ c, stem.reverse.head? = some c → Decimal.isDigit c = false := by
    intro c hc
    rw [List.head?_reverse] at hc
    exact hstem c hc
  rw [List.reverse_append]
  constructor
  · rw [List.takeWhile_append_of_pos hdigits']
    cases hrest : stem.reverse with
    | nil => rw [List.takeWhile_nil, List.append_nil]
    | cons c rest =>
        rw [List.takeWhile_cons, hhead c (hrest ▸ rfl), if_neg Bool.false_ne_true, List.append_nil]
  · rw [List.dropWhile_append_of_pos hdigits', Text.dropWhile_of_head? hhead]

variable (hsome : digits ≠ [])
include hsome

/-- A minus sign ends any name. -/
theorem splitElement?_minus {name : List Char} (hname : name ≠ [])
    (hchars : ∀ c ∈ name, isNameChar c = true) :
    splitElement? (name ++ '-' :: digits)
      = (Decimal.int32? ('-' :: digits)).map fun v => (String.ofList name, v) := by
  have hstem : ∀ c, (name ++ ['-']).getLast? = some c → Decimal.isDigit c = false := by
    intro c hc
    rw [List.getLast?_concat] at hc
    obtain rfl := Option.some.inj hc
    decide
  obtain ⟨htake, hdrop⟩ := span_reverse hdigits hstem
  rw [List.append_assoc, List.singleton_append] at htake hdrop
  have hback : (name ++ ['-']).reverse = '-' :: name.reverse := List.reverse_concat
  simp only [splitElement?, htake, hdrop, hback, List.reverse_reverse]
  have hgood : (digits.isEmpty || name.isEmpty || !name.all isNameChar) = false := by
    rw [List.isEmpty_eq_false_iff.mpr hsome, List.isEmpty_eq_false_iff.mpr hname,
      List.all_eq_true.mpr hchars]
    rfl
  rw [hgood, if_neg Bool.false_ne_true]

/-- Where no minus sign stands, all digits at the end make up the value. -/
theorem splitElement?_plain
    (hstem : ∀ c, stem.getLast? = some c → Decimal.isDigit c = false ∧ c ≠ '-') :
    splitElement? (stem ++ digits)
      = if stem.isEmpty || !stem.all isNameChar then Option.none
        else (Decimal.int32? digits).map fun v => (String.ofList stem, v) := by
  obtain ⟨htake, hdrop⟩ := span_reverse hdigits fun c hc => (hstem c hc).1
  have hempty : digits.isEmpty = false := List.isEmpty_eq_false_iff.mpr hsome
  rw [splitElement?, htake, hdrop, List.reverse_reverse]
  dsimp only
  split
  · next rest hrest =>
      have hlast : stem.getLast? = some '-' := by
        rw [← List.head?_reverse, hrest]
        rfl
      exact absurd rfl (hstem '-' hlast).2
  · simp only [List.reverse_reverse, hempty, Bool.false_or]

end Apart

/-- The name without the digits at its end. -/
def stem (name : List Char) : List Char :=
  (name.reverse.dropWhile Decimal.isDigit).reverse

/-- The digits at the end of the name. -/
def tail (name : List Char) : List Char :=
  (name.reverse.takeWhile Decimal.isDigit).reverse

theorem stem_append_tail (name : List Char) : stem name ++ tail name = name := by
  rw [stem, tail, ← List.reverse_append, List.takeWhile_append_dropWhile, List.reverse_reverse]

theorem isDigit_of_mem_tail {name : List Char} {c : Char} (hc : c ∈ tail name) :
    Decimal.isDigit c = true :=
  List.all_eq_true.mp List.all_takeWhile c (List.mem_reverse.mp hc)

/-- No digit is left at the end. -/
theorem isDigit_getLast?_stem {name : List Char} {c : Char} (hc : (stem name).getLast? = some c) :
    Decimal.isDigit c = false := by
  have hhead := List.head?_dropWhile_not Decimal.isDigit name.reverse
  rw [stem, List.getLast?_reverse] at hc
  rw [hc] at hhead
  exact hhead

theorem endsInDigit_stem (name : List Char) : endsInDigit (String.ofList (stem name)) = false := by
  rw [endsInDigit, String.toList_ofList]
  cases hlast : (stem name).getLast? with
  | none => rfl
  | some c => exact isDigit_getLast?_stem hlast

/-- A name that ends in no digit keeps all it has. -/
theorem stem_of_endsInDigit {name : String} (h : endsInDigit name = false) :
    stem name.toList = name.toList ∧ tail name.toList = [] := by
  have hhead : ∀ c, name.toList.reverse.head? = some c → Decimal.isDigit c = false := by
    intro c hc
    rw [List.head?_reverse] at hc
    rw [endsInDigit, hc] at h
    exact h
  have hstem : stem name.toList = name.toList := by
    rw [stem, Text.dropWhile_of_head? hhead, List.reverse_reverse]
  refine ⟨hstem, ?_⟩
  have hwhole := stem_append_tail name.toList
  rw [hstem] at hwhole
  exact List.append_right_eq_self.mp hwhole

section Entries

variable {name : String} (h : Catalogue.isTestName name.toList = true) {value : Int32}
include h

theorem splitElement?_of_neg (hvalue : value.toInt < 0) :
    splitElement? (entryText name value).toList = some (name, value) := by
  have htext := Decimal.toList_toString_of_neg hvalue
  have hread := Decimal.int32?_toString value
  rw [htext] at hread
  rw [entryText, String.toList_append, htext,
    splitElement?_minus (fun c hc => Decimal.isDigit_of_mem_toDigits hc) Nat.toDigits_ne_nil
      (Catalogue.ne_nil_of_isTestName h) (fun c hc => isNameChar_of_isTestName h hc),
    hread, Option.map_some, String.ofList_toList]

/-- Without a sign the digits at the end of the name belong to the value. -/
theorem splitElement?_of_nonneg (hvalue : 0 ≤ value.toInt) :
    splitElement? (entryText name value).toList
      = if (stem name.toList).isEmpty then Option.none
        else (Decimal.int32? (tail name.toList ++ (toString value.toInt).toList)).map
          fun v => (String.ofList (stem name.toList), v) := by
  have htext := Decimal.toList_toString_of_nonneg hvalue
  have hdigits : ∀ c ∈ tail name.toList ++ (toString value.toInt).toList,
      Decimal.isDigit c = true := by
    intro c hc
    rw [htext] at hc
    rcases List.mem_append.mp hc with hc | hc
    · exact isDigit_of_mem_tail hc
    · exact Decimal.isDigit_of_mem_toDigits hc
  have hsome : tail name.toList ++ (toString value.toInt).toList ≠ [] := by
    rw [htext]
    exact List.append_ne_nil_of_right_ne_nil _ Nat.toDigits_ne_nil
  have hmem : ∀ c ∈ stem name.toList, c ∈ name.toList := by
    intro c hc
    rw [← stem_append_tail name.toList]
    exact List.mem_append_left _ hc
  have hchars : (stem name.toList).all isNameChar = true :=
    List.all_eq_true.mpr fun c hc => isNameChar_of_isTestName h (hmem c hc)
  have hlast : ∀ c, (stem name.toList).getLast? = some c →
      Decimal.isDigit c = false ∧ c ≠ '-' := by
    intro c hc
    refine ⟨isDigit_getLast?_stem hc, ?_⟩
    rintro rfl
    have hminus := Catalogue.nameChar_of_isTestName h (hmem '-' (List.mem_of_getLast? hc))
    exact absurd hminus (by decide)
  have hwhole : (entryText name value).toList
      = stem name.toList ++ (tail name.toList ++ (toString value.toInt).toList) := by
    rw [entryText, String.toList_append, ← List.append_assoc, stem_append_tail]
  rw [hwhole, splitElement?_plain hdigits hsome hlast, hchars, Bool.not_true, Bool.or_false]

/-- **AN ELEMENT SAYS WHAT WAS MEANT**, unless a digit of the name touches the value. -/
theorem splitElement?_entryText (hfree : endsInDigit name = true → value.toInt < 0) :
    splitElement? (entryText name value).toList = some (name, value) := by
  by_cases hvalue : value.toInt < 0
  · exact splitElement?_of_neg h hvalue
  · have hend : endsInDigit name = false := by
      cases hdigit : endsInDigit name with
      | false => rfl
      | true => exact absurd (hfree hdigit) hvalue
    obtain ⟨hstem, htail⟩ := stem_of_endsInDigit hend
    rw [splitElement?_of_nonneg h (Int.not_lt.mp hvalue), hstem, htail, List.nil_append,
      Decimal.int32?_toString, List.isEmpty_eq_false_iff.mpr (Catalogue.ne_nil_of_isTestName h),
      if_neg Bool.false_ne_true, Option.map_some, String.ofList_toList]

/-- Nothing is said about a name that ends in a digit, but where a minus sign follows it. -/
theorem endsInDigit_of_splitElement? (hvalue : 0 ≤ value.toInt) {n : String} {v : Int32}
    (hread : splitElement? (entryText name value).toList = some (n, v)) :
    endsInDigit n = false := by
  rw [splitElement?_of_nonneg h hvalue] at hread
  split at hread
  · exact nomatch hread
  · obtain ⟨w, -, hpair⟩ := Option.map_eq_some_iff.mp hread
    rw [← (Prod.mk.inj hpair).1]
    exact endsInDigit_stem name.toList

end Entries

end Cohort.ForceGroups
