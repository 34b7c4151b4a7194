import Cohort.Pattern.Engine
import Cohort.Proofs.Decimal.Digits
import Cohort.Proofs.Rule.Calls
import Cohort.Proofs.Text.Blank
import Cohort.Proofs.Text.Pieces

/-! # The order of versions

    Versions are written with any number of components and compared number by
    number.  Filled up with zeros to one length, two versions compare like
    words, so the comparison is a total preorder of texts, whatever stands in
    them.  It is not an order: texts that differ in zeros at the end, or in what
    follows the digits of a component, are one version.

    A component is read as a number of sixty-four bits.  One that is greater
    counts as zero, so it comes first where it should come last. -/

namespace Cohort.Version

/-! ## Padding -/

/-- A version of `n` numbers at least. -/
def padded (n : Nat) (v : Version) : Version :=
  v.rightpad n 0

theorem padded_nil (n : Nat) : padded n [] = List.replicate n 0 := rfl

theorem padded_cons (n m : Nat) (v : Version) : padded (n + 1) (m :: v) = m :: padded n v := by
  simp only [padded, List.rightpad, List.length_cons, Nat.add_sub_add_right, List.cons_append]

/-- Zeros at the end are part of the padding. -/
theorem padded_append_replicate {n k : Nat} {v : Version} (h : v.length + k ≤ n) :
    padded n (v ++ List.replicate k 0) = padded n v := by
  have hcount : k + (n - (v.length + k)) = n - v.length := by omega
  simp only [padded, List.rightpad, List.length_append, List.length_replicate, List.append_assoc,
    List.replicate_append_replicate, hcount]

/-! ## The order of padded versions -/

theorem orderToZero_cons (m : Nat) (v : Version) :
    orderToZero (m :: v) = (compare m 0).then (orderToZero v) := by
  rw [orderToZero]
  cases compare m 0 <;> rfl

theorem order_cons_cons (m n : Nat) (v w : Version) :
    order (m :: v) (n :: w) = (compare m n).then (order v w) := by
  rw [order]
  cases compare m n <;> rfl

theorem orderToZero_eq_compare {v : Version} {n : Nat} (h : v.length ≤ n) :
    orderToZero v = compare (padded n v) (padded n []) := by
  induction v generalizing n with
  | nil => exact Std.ReflOrd.compare_self.symm
  | cons m v ih =>
      cases n with
      | zero => exact absurd h (Nat.not_succ_le_zero _)
      | succ n =>
          rw [orderToZero_cons, padded_cons, padded_nil, List.replicate_succ,
            List.compare_cons_cons, ih (Nat.le_of_succ_le_succ h), padded_nil]

/-- **VERSIONS COMPARE LIKE WORDS**: with zeros to one length, whichever it is, the first
    number that differs decides. -/
theorem order_eq_compare {v w : Version} {n : Nat} (hv : v.length ≤ n) (hw : w.length ≤ n) :
    order v w = compare (padded n v) (padded n w) := by
  induction v generalizing w n with
  | nil =>
      have hswap : order [] w = (orderToZero w).swap := by
        cases w <;> rfl
      rw [hswap, orderToZero_eq_compare hw]
      exact Std.OrientedOrd.eq_swap.symm
  | cons m v ih =>
      cases w with
      | nil => exact orderToZero_eq_compare hv
      | cons k w =>
          cases n with
          | zero => exact absurd hv (Nat.not_succ_le_zero _)
          | succ n =>
              rw [order_cons_cons, padded_cons, padded_cons, List.compare_cons_cons,
                ih (Nat.le_of_succ_le_succ hv) (Nat.le_of_succ_le_succ hw)]

theorem order_self (v : Version) : order v v = .eq := by
  rw [order_eq_compare (Nat.le_refl v.length) (Nat.le_refl v.length)]
  exact Std.ReflOrd.compare_self

theorem order_swap (v w : Version) : order v w = (order w v).swap := by
  have hv : v.length ≤ max v.length w.length := Nat.le_max_left _ _
  have hw : w.length ≤ max v.length w.length := Nat.le_max_right _ _
  rw [order_eq_compare hv hw, order_eq_compare hw hv]
  exact Std.OrientedOrd.eq_swap

theorem order_trans {u v w : Version} (huv : (order u v).isLE) (hvw : (order v w).isLE) :
    (order u w).isLE := by
  obtain ⟨n, hu, hv, hw⟩ : ∃ n, u.length ≤ n ∧ v.length ≤ n ∧ w.length ≤ n :=
    ⟨max u.length (max v.length w.length), by omega, by omega, by omega⟩
  rw [order_eq_compare hu hv] at huv
  rw [order_eq_compare hv hw] at hvw
  rw [order_eq_compare hu hw]
  exact Std.TransOrd.isLE_trans huv hvw

theorem order_append_replicate (v w : Version) (k : Nat) :
    order (v ++ List.replicate k 0) w = order v w := by
  obtain ⟨n, hvk, hw⟩ : ∃ n, v.length + k ≤ n ∧ w.length ≤ n :=
    ⟨max (v.length + k) w.length, by omega, by omega⟩
  have hv : v.length ≤ n := Nat.le_trans (Nat.le_add_right _ _) hvk
  have hlength : (v ++ List.replicate k 0).length ≤ n := by
    rw [List.length_append, List.length_replicate]
    exact hvk
  rw [order_eq_compare hlength hw, padded_append_replicate hvk, order_eq_compare hv hw]

/-! ## Components -/

/-- What stands between the points of a text, without the blanks around it. -/
def components (s : String) : List (List Char) :=
  Text.pieces (· == '.') (Text.trimChars s.toList)

/-- The digits that a component starts with. -/
def leading (c : List Char) : List Char :=
  c.takeWhile Decimal.isDigit

/-- The number that the leading digits of a component write, zero without digits; there may be
    any number of them. -/
def written (c : List Char) : Nat :=
  Decimal.natural (leading c)

/-- Every number is written by its digits, whatever follows them. -/
theorem written_toDigits (n : Nat) {suffix : List Char} (h : leading suffix = []) :
    written (Nat.toDigits 10 n ++ suffix) = n := by
  have hdigits : leading (Nat.toDigits 10 n ++ suffix) = Nat.toDigits 10 n ++ leading suffix :=
    List.takeWhile_append_of_pos fun c hc => Decimal.isDigit_of_mem_toDigits hc
  rw [written, hdigits, h, List.append_nil, Decimal.natural_toDigits]

/-- No component is a number of more than sixty-four bits. -/
def Fits (s : String) : Prop :=
  ∀ c ∈ components s, written c < componentLimit

instance (s : String) : Decidable (Fits s) :=
  inferInstanceAs (Decidable (∀ c ∈ components s, written c < componentLimit))

/-- The order of the versions that two texts write. -/
def compareTexts (s t : String) : Ordering :=
  order (ofText s) (ofText t)

/-- The number that a component writes, if it fits; otherwise zero. -/
def writtenWithin (c : List Char) : Nat :=
  if written c < componentLimit then written c else 0

theorem component_eq (c : List Char) : component c = writtenWithin c := rfl

theorem ofText_eq (s : String) : ofText s = (components s).map component := rfl

theorem ofText_of_fits {s : String} (h : Fits s) : ofText s = (components s).map written := by
  refine List.map_congr_left ?_
  intro c hc
  rw [component_eq, writtenWithin, if_pos (h c hc)]

/-- A component counts as its leading digits. -/
theorem component_leading (c : List Char) : component (leading c) = component c := by
  have hsame : leading (leading c) = leading c := List.takeWhile_idem
  rw [component_eq, component_eq, writtenWithin, writtenWithin, written, written, hsame]

/-- The leading digits of all components. -/
def digitRuns (cs : List Char) : List (List Char) :=
  (Text.pieces (· == '.') cs).map leading

/-- The digits of a component are all that counts of it. -/
theorem map_component_digitRuns (cs : List Char) :
    (digitRuns cs).map component = (Text.pieces (· == '.') cs).map component := by
  rw [digitRuns, List.map_map]
  refine List.map_congr_left ?_
  intro c _
  exact component_leading c

theorem leading_cons (c : Char) (w : List Char) :
    leading (c :: w) = if Decimal.isDigit c then c :: leading w else [] := by
  rw [leading, List.takeWhile_cons]
  rfl

theorem digitRuns_cons (c : Char) (cs : List Char) :
    digitRuns (c :: cs) = if c == '.' then [] :: digitRuns cs
      else (digitRuns cs).modifyHead fun w => if Decimal.isDigit c then c :: w else [] := by
  rw [digitRuns, digitRuns, Text.pieces]
  by_cases hc : (c == '.') = true
  · rw [if_pos hc, if_pos hc]
    rfl
  · rw [if_neg hc, if_neg hc]
    cases hpieces : Text.pieces (· == '.') cs with
    | nil => exact absurd hpieces (Text.pieces_ne_nil _ cs)
    | cons w ws => rw [List.map_cons, List.map_cons, leading_cons, List.modifyHead_cons]

/-! ## Suffixes -/

/-- What may stand at the end of a component without counting: a text without points and without
    digits in front, up to the next point or the end. -/
structure Suffix (suffix after : List Char) : Prop where
  point : '.' ∉ suffix
  digits : leading suffix = []
  ends : ∀ c, after.head? = some c → c = '.'

theorem Suffix.digitRuns_append {suffix after : List Char} (h : Suffix suffix after)
    (before : List Char) :
    digitRuns (before ++ (suffix ++ after)) = digitRuns (before ++ after) := by
  induction before with
  | nil =>
      have hone : Text.pieces (· == '.') suffix = [suffix] := by
        refine Text.pieces_eq_singleton ?_
        intro c hc
        exact beq_false_of_ne (ne_of_mem_of_not_mem hc h.point)
      have hruns : digitRuns suffix = [[]] := by
        rw [digitRuns, hone, List.map_singleton, h.digits]
      cases after with
      | nil =>
          rw [List.append_nil]
          exact hruns
      | cons c after =>
          obtain rfl : c = '.' := h.ends c rfl
          rw [List.nil_append, digitRuns, Text.pieces_append_cons rfl, List.map_append]
          show digitRuns suffix ++ digitRuns after = digitRuns ([] ++ '.' :: after)
          rw [hruns, List.nil_append, digitRuns_cons]
          rfl
  | cons c before ih =>
      rw [List.cons_append, List.cons_append, digitRuns_cons, digitRuns_cons, ih]

/-! ## Blanks around a version -/

/-- Blanks behind a version are at the end of its last component. -/
theorem digitRuns_trimChars (cs : List Char) :
    digitRuns (Text.trimChars cs) = digitRuns (Text.trimStart cs) := by
  obtain ⟨blanks, hblank, hcs⟩ := Text.exists_trimEnd_append (Text.trimStart cs)
  have hsuffix : Suffix blanks [] := by
    refine ⟨?_, ?_, nofun⟩
    · intro hpoint
      exact absurd (hblank '.' hpoint) (by decide)
    · cases blanks with
      | nil => rfl
      | cons c blanks =>
          have hdigit : Decimal.isDigit c = false :=
            Text.of_isBlank (P := fun c => Decimal.isDigit c = false) (by decide)
              (hblank c List.mem_cons_self)
          rw [leading_cons, hdigit, if_neg Bool.false_ne_true]
  have happend := hsuffix.digitRuns_append (Text.trimChars cs)
  rw [List.append_nil, List.append_nil] at happend
  rw [← happend]
  exact congrArg digitRuns hcs.symm

theorem ofText_eq_trimStart (s : String) :
    ofText s = (digitRuns (Text.trimStart s.toList)).map component := by
  rw [← digitRuns_trimChars, map_component_digitRuns, ofText]

/-- A suffix does not count, unless it is blank in front and nothing is seen before it. -/
theorem ofText_suffix {before suffix after : String} (h : Suffix suffix.toList after.toList)
    (hshown : ¬ Text.Blank before.toList ∨
      ∀ c, suffix.toList.head? = some c → Text.isBlank c = false) :
    ofText (before ++ suffix ++ after) = ofText (before ++ after) := by
  rw [ofText_eq_trimStart, ofText_eq_trimStart]
  simp only [String.toList_append, List.append_assoc]
  by_cases hbefore : Text.Blank before.toList
  · have hsuffix : ∀ c, suffix.toList.head? = some c → Text.isBlank c = false :=
      hshown.resolve_left fun hnot => hnot hbefore
    have hafter : ∀ c, after.toList.head? = some c → Text.isBlank c = false := by
      intro c hc
      rw [h.ends c hc]
      rfl
    have hboth : ∀ c, (suffix.toList ++ after.toList).head? = some c → Text.isBlank c = false := by
      intro c hc
      rw [List.head?_append, Option.or_eq_some_iff] at hc
      rcases hc with hc | ⟨-, hc⟩
      · exact hsuffix c hc
      · exact hafter c hc
    rw [Text.trimStart_append_of_blank hbefore, Text.trimStart_append_of_blank hbefore,
      Text.trimStart, Text.dropWhile_of_head? hboth, Text.trimStart,
      Text.dropWhile_of_head? hafter]
    exact congrArg (List.map component) (h.digitRuns_append [])
  · rw [Text.trimStart_append hbefore, Text.trimStart_append hbefore, h.digitRuns_append]

/-- Components behind a version are behind its numbers. -/
theorem ofText_append (s z : String) :
    ofText (s ++ "." ++ z)
      = ofText s ++ (Text.pieces (· == '.') z.toList).map component := by
  have hstart : Text.trimStart (s.toList ++ '.' :: z.toList)
      = Text.trimStart s.toList ++ '.' :: z.toList := by
    by_cases hs : Text.Blank s.toList
    · rw [Text.trimStart_append_of_blank hs, Text.trimStart_eq_nil hs]
      rfl
    · exact Text.trimStart_append hs _
  have htext : (s ++ "." ++ z).toList = s.toList ++ '.' :: z.toList := by
    simp only [String.toList_append, List.append_assoc]
    rfl
  rw [ofText_eq_trimStart, ofText_eq_trimStart, htext, hstart, map_component_digitRuns,
    map_component_digitRuns, Text.pieces_append_cons rfl, List.map_append]

/-! ## Texts -/

/-- Components that write zero do not count at the end. -/
theorem compareTexts_append_zeros {z : String}
    (h : ∀ c ∈ Text.pieces (· == '.') z.toList, written c = 0) (s t : String) :
    compareTexts (s ++ "." ++ z) t = compareTexts s t := by
  have hzeros : (Text.pieces (· == '.') z.toList).map component
      = List.replicate (Text.pieces (· == '.') z.toList).length 0 := by
    rw [List.eq_replicate_iff, List.length_map]
    refine ⟨rfl, ?_⟩
    intro m hm
    obtain ⟨c, hc, rfl⟩ := List.mem_map.mp hm
    rw [component_eq, writtenWithin, h c hc, ite_self]
  rw [compareTexts, ofText_append, hzeros, order_append_replicate, compareTexts]

theorem compareTexts_eq_compare (s t : String) {n : Nat} (hs : (components s).length ≤ n)
    (ht : (components t).length ≤ n) :
    compareTexts s t = compare (padded n ((components s).map component))
      (padded n ((components t).map component)) := by
  refine order_eq_compare ?_ ?_
  · rw [ofText_eq, List.length_map]
    exact hs
  · rw [ofText_eq, List.length_map]
    exact ht

/-- A range is asked for with the order of texts. -/
theorem call?_versionInRange_order (r : PatternLibrary) (now : Int64) (v start stop : Value) :
    Rule.Standard.call? r now "matrix:versionInRange" [v, start, stop]
      = some (.ok (.bool (decide
        ((compareTexts (Rule.Strings.text start) (Rule.Strings.text v)).isLE ∧
          compareTexts (Rule.Strings.text v) (Rule.Strings.text stop) = .lt)))) := by
  have hboth : ∀ o o' : Ordering, (o != .gt && o' == .lt) = decide (o.isLE ∧ o' = .lt) := by
    decide
  rw [Rule.Standard.call?_versionInRange, ← hboth]
  rfl

/-- **VERSIONS COMPARE AS NUMBERS.** A component writes the number of its leading digits, and two
    texts whose components fit compare like these numbers: like words, with zeros to one length.
    In general a component that does not fit stands for zero.  So texts are totally preordered.
    Components of nothing but zero do not count at the end, and neither does what follows the
    digits of a component.  A version is in a range just if it is not before its start and is
    before its end in this order. -/
theorem versions_compare_as_numbers (s t : String) :
    (∀ (n : Nat) (suffix : List Char), leading suffix = [] →
      written (Nat.toDigits 10 n ++ suffix) = n) ∧
    (∀ n : Nat, Fits s → Fits t → (components s).length ≤ n → (components t).length ≤ n →
      compareTexts s t = compare (padded n ((components s).map written))
        (padded n ((components t).map written))) ∧
    (∀ n : Nat, (components s).length ≤ n → (components t).length ≤ n →
      compareTexts s t = compare (padded n ((components s).map writtenWithin))
        (padded n ((components t).map writtenWithin))) ∧
    compareTexts s s = .eq ∧
    compareTexts s t = (compareTexts t s).swap ∧
    (∀ u : String, (compareTexts s t).isLE → (compareTexts t u).isLE →
      (compareTexts s u).isLE) ∧
    (∀ z : String, (∀ c ∈ Text.pieces (· == '.') z.toList, written c = 0) →
      compareTexts (s ++ "." ++ z) t = compareTexts s t) ∧
    (∀ before suffix after : String, s = before ++ after →
      Suffix suffix.toList after.toList →
      (¬ Text.Blank before.toList ∨
        ∀ c, suffix.toList.head? = some c → Text.isBlank c = false) →
      compareTexts (before ++ suffix ++ after) t = compareTexts s t) ∧
    (∀ (r : PatternLibrary) (now : Int64) (v start stop : Value),
      Rule.Standard.call? r now "matrix:versionInRange" [v, start, stop]
        = some (.ok (.bool (decide
          ((compareTexts (Rule.Strings.text start) (Rule.Strings.text v)).isLE ∧
            compareTexts (Rule.Strings.text v) (Rule.Strings.text stop) = .lt))))) := by
  refine ⟨?_, ?_, ?_, order_self (ofText s), order_swap (ofText s) (ofText t), ?_, ?_, ?_,
    call?_versionInRange_order⟩
  · intro n suffix h
    exact written_toDigits n h
  · intro n hs ht hslength htlength
    rw [compareTexts_eq_compare s t hslength htlength, ← ofText_eq, ← ofText_eq,
      ofText_of_fits hs, ofText_of_fits ht]
  · intro n hs ht
    exact compareTexts_eq_compare s t hs ht
  · intro u hst htu
    exact order_trans hst htu
  · intro z hz
    exact compareTexts_append_zeros hz s t
  · rintro before suffix after rfl hsuffix hshown
    rw [compareTexts, ofText_suffix hsuffix hshown, compareTexts]

/-- A later patch, an early release and more zeros, each beside `1.10`. -/
theorem releases_compare_with_next :
    (leading ['-', 'b'] = [] ∧ written (Nat.toDigits 10 12 ++ ['-', 'b']) = 12) ∧
    (Fits "1.2.3" ∧ Fits " 1.10" ∧
      compareTexts "1.2.3" " 1.10" = compare (padded 3 [1, 2, 3]) (padded 3 [1, 10])) ∧
    ((compareTexts "1.2.3" " 1.10").isLE ∧ (compareTexts " 1.10" "2").isLE ∧
      (compareTexts "1.2.3" "2").isLE) ∧
    compareTexts ("1.2.3" ++ "." ++ "0.00") " 1.10" = compareTexts "1.2.3" " 1.10" ∧
    compareTexts ("1.2" ++ "-beta" ++ ".3") " 1.10" = compareTexts "1.2.3" " 1.10" ∧
    Rule.Standard.call? Pattern.Engine.library 0 "matrix:versionInRange"
      [.string "1.2-beta", .string "1.2", .string "1.10"] = some (.ok (.bool true)) := by
  obtain ⟨hwritten, hfits, -, -, -, htrans, hzeros, hsuffix, hrange⟩ :=
    versions_compare_as_numbers "1.2.3" " 1.10"
  have hbeta : leading ['-', 'b'] = [] := by decide
  have hpatch : Fits "1.2.3" := by decide
  have hnext : Fits " 1.10" := by decide
  have hfirst : (compareTexts "1.2.3" " 1.10").isLE := by decide
  have hsecond : (compareTexts " 1.10" "2").isLE := by decide
  refine ⟨⟨hbeta, hwritten 12 _ hbeta⟩,
    ⟨hpatch, hnext, hfits 3 hpatch hnext (by decide) (by decide)⟩,
    ⟨hfirst, hsecond, htrans _ hfirst hsecond⟩, hzeros _ (by decide), ?_, ?_⟩
  · refine hsuffix "1.2" "-beta" ".3" rfl ⟨by decide, by decide, ?_⟩ (Or.inl (by decide))
    intro c hc
    exact (Option.some.inj hc).symm
  · rw [hrange]
    exact congrArg (fun b => some (Except.ok (Value.bool b))) (by decide)

/-- The version of `2 ^ 64` comes behind version `1` by its number, but it counts as zero and is
    before it, so that it does not end a range. -/
theorem great_component_comes_first :
    ¬ (∀ (s t : String) (n : Nat), (components s).length ≤ n → (components t).length ≤ n →
      compareTexts s t = compare (padded n ((components s).map written))
        (padded n ((components t).map written))) ∧
    compare (padded 1 ((components "1").map written))
      (padded 1 ((components "18446744073709551616").map written)) = .lt ∧
    Rule.Standard.call? Pattern.Engine.library 0 "matrix:versionInRange"
      [.string "1", .string "0", .string "18446744073709551616"] = some (.ok (.bool false)) := by
  refine ⟨?_, by decide, ?_⟩
  · intro h
    exact absurd (h "1" "18446744073709551616" 1 (by decide) (by decide)) (by decide)
  · rw [call?_versionInRange_order]
    exact congrArg (fun b => some (Except.ok (Value.bool b))) (by decide)

end Cohort.Version
