import Mathlib.Algebra.Group.Nat.Defs
import Cohort.Pattern.Engine
import Cohort.Proofs.Rule.Calls
import Cohort.Proofs.Text.Offsets

/-! # Parts of strings

    The functions on parts of strings go by different measures: a search goes
    over the bytes of a text, and what precedes and follows the place it finds
    is cut at bytes; positions and lengths are counted in characters, from
    wherever a rule says and as far as it says.  They agree on every text, for
    the first place among the bytes is the first among the characters, and a
    part ends within its text whatever is asked for. -/

namespace Cohort.Rule.Strings

open Standard

/-! ## Parts -/

/-- The end of a part in a text of `n` characters, for the end that is asked for. -/
def stopOf (n : Nat) (last : Int) : Int :=
  if last < 0 ∨ (n : Int) < last then n else last

theorem stopOf_le (n : Nat) (last : Int) : stopOf n last ≤ n := by
  rw [stopOf]
  split <;> omega

theorem slice_eq (s : List Char) (first last : Int) :
    slice s first last = if stopOf s.length last ≤ max first 0 then []
      else (s.drop (max first 0).toNat).take (stopOf s.length last - max first 0).toNat := rfl

/-- Within the text the part is the one that is asked for. -/
theorem slice_natCast {s : List Char} {i n : Nat} (h : i + n ≤ s.length) :
    slice s (i : Int) ((i + n : Nat) : Int) = (s.drop i).take n := by
  have hstop : stopOf s.length ((i + n : Nat) : Int) = ((i + n : Nat) : Int) := by
    rw [stopOf, if_neg]
    omega
  have hfirst : max (i : Int) 0 = i := by omega
  rw [slice_eq, hstop, hfirst]
  by_cases hn : n = 0
  · rw [if_pos (by omega), hn, List.take_zero]
  · have hlength : (((i + n : Nat) : Int) - i).toNat = n := by omega
    rw [if_neg (by omega), hlength, Int.toNat_natCast]

/-- Whatever is asked for, a part that is not empty lies between its two ends, and both are in
    the text. -/
theorem slice_between {s : List Char} {first last : Int}
    (h : max first 0 < stopOf s.length last) :
    ∃ p q, s = p ++ slice s first last ++ q ∧ (p.length : Int) = max first 0 ∧
      ((p ++ slice s first last).length : Int) = stopOf s.length last := by
  have hle := stopOf_le s.length last
  obtain ⟨i, hi⟩ := Int.eq_ofNat_of_zero_le (Int.le_max_right first 0)
  obtain ⟨n, hn⟩ := Int.le.dest (Int.le_of_lt h)
  have hin : i + n ≤ s.length := by omega
  have hslice : slice s first last = (s.drop i).take n := by
    have hcount : ((i : Int) + n - i).toNat = n := by omega
    rw [slice_eq, if_neg (Int.not_le.mpr h), ← hn, hi, hcount, Int.toNat_natCast]
  refine ⟨s.take i, (s.drop i).drop n, ?_, ?_, ?_⟩
  · rw [hslice, List.append_assoc, List.take_append_drop, List.take_append_drop]
  · rw [List.length_take, hi]
    omega
  · rw [hslice, List.length_append, List.length_take, List.length_take, List.length_drop, ← hn, hi]
    omega

theorem call?_substring_ofNat (r : PatternLibrary) (now : Int64) {s : String}
    (hs : s.length < 2 ^ 63) {i n : Nat} (h : i + n ≤ s.length) :
    call? r now "fn:substring"
        [.string s, .int (Int64.ofNat i), .int (Int64.ofNat i + Int64.ofNat n)]
      = some (.ok (ofChars ((s.toList.drop i).take n))) := by
  have hin : i + n ≤ s.toList.length := by
    rw [String.length_toList]
    exact h
  rw [call?_substring, ← Int64.ofNat_add]
  show some (Except.ok (ofChars (slice s.toList (Int64.ofNat i).toInt (Int64.ofNat (i + n)).toInt)))
    = _
  rw [Int64.toInt_ofNat_of_lt (by omega), Int64.toInt_ofNat_of_lt (by omega), slice_natCast hin]

/-! ## Places -/

/-- What the functions say of a text `s` in which `x` stands first between `before` and `after`:
    at position `i` and with length `n`, both in characters. -/
structure Located (r : PatternLibrary) (now : Int64) (s x before after : String) (i n : Int64) :
    Prop where
  isBefore : call? r now "fn:substringBefore" [.string s, .string x] = some (.ok (.string before))
  isAfter : call? r now "fn:substringAfter" [.string s, .string x] = some (.ok (.string after))
  whole : before ++ x ++ after = s
  position : call? r now "fn:length" [.string before] = some (.ok (.int i))
  length : call? r now "fn:length" [.string x] = some (.ok (.int n))
  start : call? r now "fn:substring" [.string s, .int 0, .int i] = some (.ok (.string before))
  place : call? r now "fn:substring" [.string s, .int i, .int (i + n)] = some (.ok (.string x))
  first : ∀ j : Int64, 0 ≤ j → j < i →
    call? r now "fn:substring" [.string s, .int j, .int (j + n)] ≠ some (.ok (.string x))

/-- What the functions say of a text in which `x` does not stand. -/
structure Missing (r : PatternLibrary) (now : Int64) (s x : String) : Prop where
  contains : call? r now "fn:contains" [.string s, .string x] = some (.ok (.bool false))
  position : call? r now "fn:indexOf" [.string s, .string x] = some (.ok (.int (-1)))
  isBefore : call? r now "fn:substringBefore" [.string s, .string x] = some (.ok (.string ""))
  isAfter : call? r now "fn:substringAfter" [.string s, .string x] = some (.ok (.string ""))

variable (r : PatternLibrary) (now : Int64) {s x : String} {p q : List Char}

theorem chars_string (s : String) : chars (.string s) = s.toList := rfl

theorem call?_contains_of_some (h : Text.splitFirst? x.toList s.toList = some (p, q)) :
    call? r now "fn:contains" [.string s, .string x] = some (.ok (.bool true)) := by
  rw [call?_contains, chars_string, chars_string, isInfix, h, Option.isSome_some]

theorem call?_indexOf_of_some (h : Text.splitFirst? x.toList s.toList = some (p, q)) :
    call? r now "fn:indexOf" [.string s, .string x] = some (.ok (.int (Int64.ofNat p.length))) := by
  rw [call?_indexOf, chars_string, chars_string, indexOf, h]
  rfl

theorem call?_substringBefore_of_some (h : Text.splitFirst? x.toList s.toList = some (p, q)) :
    call? r now "fn:substringBefore" [.string s, .string x]
      = some (.ok (.string (String.ofList p))) := by
  rw [call?_substringBefore, chars_string, chars_string, before, h]
  rfl

theorem call?_substringAfter_of_some (h : Text.splitFirst? x.toList s.toList = some (p, q)) :
    call? r now "fn:substringAfter" [.string s, .string x]
      = some (.ok (.string (String.ofList q))) := by
  rw [call?_substringAfter, chars_string, chars_string, after, h]
  rfl

theorem call?_length_string (s : String) :
    call? r now "fn:length" [.string s] = some (.ok (.int (Int64.ofNat s.length))) := by
  rw [call?_length, ← String.length_toList]
  rfl

theorem firstBetween_of_some (h : Text.splitFirst? x.toList s.toList = some (p, q)) :
    Text.FirstBetween x.toList s.toList (String.ofList p).toList (String.ofList q).toList := by
  rw [String.toList_ofList, String.toList_ofList]
  exact Text.firstBetween_of_splitFirst? h

theorem length_le_of_some (h : Text.splitFirst? x.toList s.toList = some (p, q)) :
    p.length + x.length ≤ s.length := by
  rw [← String.length_toList, ← String.length_toList,
    (Text.firstBetween_of_splitFirst? h).whole, List.length_append, List.length_append]
  omega

/-- **POSITIONS AGREE WITH PARTS**: where a search finds something, all functions speak of the
    same place. -/
theorem located_of_some (hs : s.length < 2 ^ 63)
    (h : Text.splitFirst? x.toList s.toList = some (p, q)) :
    Located r now s x (String.ofList p) (String.ofList q) (Int64.ofNat p.length)
      (Int64.ofNat x.length) := by
  obtain ⟨hwhole, hfirst⟩ := Text.firstBetween_of_splitFirst? h
  have hlength := length_le_of_some h
  refine ⟨call?_substringBefore_of_some r now h, call?_substringAfter_of_some r now h,
    (firstBetween_of_some h).eq_append.symm, ?_, call?_length_string r now x, ?_, ?_, ?_⟩
  · rw [call?_length_string, String.length_ofList]
  · have hcall := call?_substring_ofNat r now hs (i := 0) (n := p.length) (by omega)
    rw [← Int64.ofNat_add, Nat.zero_add, List.drop_zero, hwhole, List.take_left] at hcall
    exact hcall
  · rw [call?_substring_ofNat r now hs hlength, hwhole, List.drop_left, ← String.length_toList,
      List.take_left, ofChars, String.ofList_toList]
  · intro j hj hlt hcall
    obtain ⟨k, hk, rfl⟩ : ∃ k < 2 ^ 63, j = Int64.ofNat k :=
      ⟨j.toNatClampNeg, j.toNatClampNeg_lt, (Int64.ofNat_toNatClampNeg j hj).symm⟩
    have hbefore : k < p.length := (Int64.ofNat_lt_iff_lt hk (by omega)).mp hlt
    rw [call?_substring_ofNat r now hs (by omega)] at hcall
    have htake : String.ofList ((s.toList.drop k).take x.length) = x :=
      Value.string.inj (Except.ok.inj (Option.some.inj hcall))
    refine hfirst k hbefore ?_
    rw [← String.toList_inj, String.toList_ofList] at htake
    rw [← htake]
    exact List.take_prefix _ _

theorem missing_of_none (h : Text.splitFirst? x.toList s.toList = none) : Missing r now s x := by
  refine ⟨?_, ?_, ?_, ?_⟩
  · rw [call?_contains, chars_string, chars_string, isInfix, h, Option.isSome_none]
  · rw [call?_indexOf, chars_string, chars_string, indexOf, h]
  · rw [call?_substringBefore, chars_string, chars_string, before, h]
    rfl
  · rw [call?_substringAfter, chars_string, chars_string, after, h]
    rfl

/-! ## Bytes -/

/-- **CUTS ARE BETWEEN CHARACTERS**: what stands before and behind the first occurrence among the
    bytes is what stands before and behind the first one among the characters. -/
theorem cuts_of_some (h : Text.splitFirst? x.toList s.toList = some (p, q)) :
    IsLeast {b | Text.OccursAt s x b} (String.ofList p).utf8ByteSize ∧
      Text.IsCut s 0 (String.ofList p).utf8ByteSize (String.ofList p) ∧
      Text.IsCut s ((String.ofList p).utf8ByteSize + x.utf8ByteSize) s.utf8ByteSize
        (String.ofList q) := by
  have hfirst := firstBetween_of_some h
  have hwhole := hfirst.eq_append
  refine ⟨Text.isLeast_occursAt hfirst, ?_, ?_⟩
  · refine ⟨"", x ++ String.ofList q, ?_, rfl, ?_⟩
    · rw [String.empty_append, ← String.append_assoc]
      exact hwhole
    · rw [String.utf8ByteSize_empty, Nat.zero_add]
  · refine ⟨String.ofList p ++ x, "", ?_, String.utf8ByteSize_append, ?_⟩
    · rw [String.append_empty]
      exact hwhole
    · rw [hwhole]
      simp only [String.utf8ByteSize_append]

/-- A part of a text is cut between two positions of it, or is empty. -/
theorem call?_substring_between (s : String) (first last : Int64) :
    ∃ t, call? r now "fn:substring" [.string s, .int first, .int last] = some (.ok (.string t)) ∧
      ((stopOf s.length last.toInt ≤ max first.toInt 0 ∧ t = "") ∨
        (max first.toInt 0 < stopOf s.length last.toInt ∧
          ∃ before after, s = before ++ t ++ after ∧
            (before.length : Int) = max first.toInt 0 ∧
            ((before ++ t).length : Int) = stopOf s.length last.toInt)) := by
  refine ⟨String.ofList (slice s.toList first.toInt last.toInt), ?_, ?_⟩
  · rw [call?_substring]
    rfl
  · rw [← String.length_toList]
    by_cases h : stopOf s.toList.length last.toInt ≤ max first.toInt 0
    · refine Or.inl ⟨h, ?_⟩
      rw [slice_eq, if_pos h, String.ofList_nil]
    · obtain ⟨p, q, hwhole, hfirst, hlast⟩ := slice_between (Int.not_le.mp h)
      refine Or.inr ⟨Int.not_le.mp h, String.ofList p, String.ofList q, ?_, ?_, ?_⟩
      · rw [← String.toList_inj]
        simp only [String.toList_append, String.toList_ofList]
        exact hwhole
      · rw [String.length_ofList]
        exact hfirst
      · rw [← String.ofList_append, String.length_ofList]
        exact hlast

/-- **SUBSTRING HELPERS AGREE.** Positions are words of sixty-four bits, which count the characters
    of every text that fits in memory.  A text contains another one just if a position of it is
    found.  Then what stands before, the text and what stands behind are the whole; the position
    is the length of what stands before; parts taken by position are what stands before and the
    text itself; and the text starts nowhere earlier.  Otherwise there is no position, and nothing
    before or behind.  What is contained is what occurs among the bytes, and for the first place
    there the two cuts are between characters of the text.  And every part that is taken by
    positions lies within the text. -/
theorem substring_helpers_agree (s x : String) (hs : s.length < 2 ^ 63) :
    (call? r now "fn:contains" [.string s, .string x] = some (.ok (.bool true)) ↔
      ∃ i : Int64, 0 ≤ i ∧
        call? r now "fn:indexOf" [.string s, .string x] = some (.ok (.int i))) ∧
    (∀ i : Int64, 0 ≤ i →
      call? r now "fn:indexOf" [.string s, .string x] = some (.ok (.int i)) →
      ∃ before after n, Located r now s x before after i n) ∧
    (call? r now "fn:contains" [.string s, .string x] ≠ some (.ok (.bool true)) →
      Missing r now s x) ∧
    (call? r now "fn:contains" [.string s, .string x] = some (.ok (.bool true)) ↔
      ∃ b, Text.OccursAt s x b) ∧
    (∀ b, IsLeast {b | Text.OccursAt s x b} b →
      ∃ before after, Text.IsCut s 0 b before ∧
        Text.IsCut s (b + x.utf8ByteSize) s.utf8ByteSize after ∧
        call? r now "fn:indexOf" [.string s, .string x]
          = some (.ok (.int (Int64.ofNat before.length))) ∧
        call? r now "fn:substringBefore" [.string s, .string x] = some (.ok (.string before)) ∧
        call? r now "fn:substringAfter" [.string s, .string x] = some (.ok (.string after))) ∧
    (∀ first last : Int64, ∃ t,
      call? r now "fn:substring" [.string s, .int first, .int last] = some (.ok (.string t)) ∧
      ((stopOf s.length last.toInt ≤ max first.toInt 0 ∧ t = "") ∨
        (max first.toInt 0 < stopOf s.length last.toInt ∧
          ∃ before after, s = before ++ t ++ after ∧
            (before.length : Int) = max first.toInt 0 ∧
            ((before ++ t).length : Int) = stopOf s.length last.toInt))) := by
  cases hsplit : Text.splitFirst? x.toList s.toList with
  | none =>
      have hmissing := missing_of_none r now hsplit
      have habsent := Text.not_occursAt (Text.not_infix_of_splitFirst? hsplit)
      have hfalse : call? r now "fn:contains" [.string s, .string x] ≠ some (.ok (.bool true)) := by
        rw [hmissing.contains]
        exact nofun
      have hnone : ¬ ∃ i : Int64, 0 ≤ i ∧
          call? r now "fn:indexOf" [.string s, .string x] = some (.ok (.int i)) := by
        rintro ⟨i, hi, h⟩
        rw [hmissing.position] at h
        obtain rfl : -1 = i := Value.int.inj (Except.ok.inj (Option.some.inj h))
        exact absurd hi (by decide)
      refine ⟨iff_of_false hfalse hnone, ?_, fun _ => hmissing,
        iff_of_false hfalse (not_exists.mpr habsent), ?_, call?_substring_between r now s⟩
      · intro i hi h
        exact absurd ⟨i, hi, h⟩ hnone
      · intro b hb
        exact absurd hb.1 (habsent b)
  | some e =>
      obtain ⟨p, q⟩ := e
      obtain ⟨hleast, hbefore, hafter⟩ := cuts_of_some hsplit
      have htrue := call?_contains_of_some r now hsplit
      have hindex := call?_indexOf_of_some r now hsplit
      have hlocated := located_of_some r now hs hsplit
      have hlength := length_le_of_some hsplit
      have hnonneg : 0 ≤ Int64.ofNat p.length := Int64.zero_le_ofNat_of_lt (by omega)
      refine ⟨iff_of_true htrue ⟨_, hnonneg, hindex⟩, ?_, fun h => absurd htrue h,
        iff_of_true htrue ⟨_, hleast.1⟩, ?_, call?_substring_between r now s⟩
      · intro i _ h
        rw [hindex] at h
        obtain rfl : Int64.ofNat p.length = i := Value.int.inj (Except.ok.inj (Option.some.inj h))
        exact ⟨_, _, _, hlocated⟩
      · intro b hb
        obtain rfl : b = (String.ofList p).utf8ByteSize := hb.unique hleast
        refine ⟨String.ofList p, String.ofList q, hbefore, hafter, ?_, hlocated.isBefore,
          hlocated.isAfter⟩
        rw [String.length_ofList]
        exact hindex

/-- A place behind three characters and four bytes, and a letter that only seems to occur. -/
theorem place_behind_accents :
    "déjà vu".length < 2 ^ 63 ∧
    (0 ≤ (3 : Int64) ∧
      call? Pattern.Engine.library 0 "fn:indexOf" [.string "déjà vu", .string "à v"]
        = some (.ok (.int 3)) ∧
      ∃ before after n, Located Pattern.Engine.library 0 "déjà vu" "à v" before after 3 n) ∧
    (call? Pattern.Engine.library 0 "fn:contains" [.string "déjà vu", .string "a"]
        ≠ some (.ok (.bool true)) ∧
      Missing Pattern.Engine.library 0 "déjà vu" "a") ∧
    (IsLeast {b | Text.OccursAt "déjà vu" "à v" b} 4 ∧
      ∃ before after, Text.IsCut "déjà vu" 0 4 before ∧
        Text.IsCut "déjà vu" (4 + "à v".utf8ByteSize) "déjà vu".utf8ByteSize after ∧
        call? Pattern.Engine.library 0 "fn:indexOf" [.string "déjà vu", .string "à v"]
          = some (.ok (.int (Int64.ofNat before.length))) ∧
        call? Pattern.Engine.library 0 "fn:substringBefore" [.string "déjà vu", .string "à v"]
          = some (.ok (.string before)) ∧
        call? Pattern.Engine.library 0 "fn:substringAfter" [.string "déjà vu", .string "à v"]
          = some (.ok (.string after))) := by
  have hshort : "déjà vu".length < 2 ^ 63 := by decide
  obtain ⟨-, hplace, -, -, hcuts, -⟩ :=
    substring_helpers_agree Pattern.Engine.library 0 "déjà vu" "à v" hshort
  obtain ⟨-, -, hmissing, -⟩ :=
    substring_helpers_agree Pattern.Engine.library 0 "déjà vu" "a" hshort
  have hindex : call? Pattern.Engine.library 0 "fn:indexOf" [.string "déjà vu", .string "à v"]
      = some (.ok (.int 3)) :=
    call?_indexOf_of_some Pattern.Engine.library 0 (p := ['d', 'é', 'j']) (q := ['u']) (by decide)
  have hfalse : call? Pattern.Engine.library 0 "fn:contains" [.string "déjà vu", .string "a"]
      ≠ some (.ok (.bool true)) := by
    rw [call?_contains]
    exact nofun
  have hleast : IsLeast {b | Text.OccursAt "déjà vu" "à v" b} 4 :=
    (cuts_of_some (p := ['d', 'é', 'j']) (q := ['u']) (by decide)).1
  exact ⟨hshort, ⟨by decide, hindex, hplace 3 (by decide) hindex⟩, ⟨hfalse, hmissing hfalse⟩,
    hleast, hcuts 4 hleast⟩

end Cohort.Rule.Strings
