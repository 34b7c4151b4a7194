import Mathlib.Order.Bounds.Basic
import Cohort.Proofs.Text.Search

/-! # Byte offsets

    A search that runs over bytes gives a number of bytes, and a text may be
    cut only between characters.  The bytes of a text begin with the first byte
    of a character, which is no byte within a character, so wherever the bytes
    of a text are found in those of another, they are characters of it: the
    first place among the bytes is the first place among the characters. -/

namespace Cohort.Text

/-- The bytes of `x` stand in those of `s`, behind `b` bytes. -/
def OccursAt (s x : String) (b : Nat) : Prop :=
  ∃ u v : ByteArray, s.toByteArray = u ++ x.toByteArray ++ v ∧ u.size = b

/-- The text `t` is cut out of `s` from byte `i` to byte `j`, neither of which is outside of the
    text or inside of a character. -/
def IsCut (s : String) (i j : Nat) (t : String) : Prop :=
  ∃ before after, s = before ++ t ++ after ∧
    before.utf8ByteSize = i ∧ before.utf8ByteSize + t.utf8ByteSize = j

variable {s x before after : String} {b : Nat}

/-! ## Bytes and characters -/

theorem occursAt_append (before x after : String) :
    OccursAt (before ++ x ++ after) x before.utf8ByteSize := by
  refine ⟨before.toByteArray, after.toByteArray, ?_, String.size_toByteArray⟩
  rw [String.toByteArray_append, String.toByteArray_append]

/-- The bytes in front of others, and these, are found again by their numbers. -/
theorem extract_of_eq_append {w u x v : ByteArray} (h : w = u ++ x ++ v) :
    w.extract 0 u.size = u ∧ w.extract u.size (u.size + x.size) = x := by
  subst h
  rw [ByteArray.append_assoc]
  refine ⟨ByteArray.extract_append_eq_left rfl, ?_⟩
  have hshift : (u ++ (x ++ v)).extract (u.size + 0) (u.size + x.size)
      = (x ++ v).extract 0 x.size := ByteArray.extract_append_size_add
  rw [Nat.add_zero] at hshift
  rw [hshift]
  exact ByteArray.extract_append_eq_left rfl

/-- What precedes a place between characters is a text. -/
theorem exists_of_isValid (h : (⟨b⟩ : String.Pos.Raw).IsValid s) :
    ∃ before after : String, s = before ++ after ∧
      before.toByteArray = s.toByteArray.extract 0 b := by
  obtain ⟨m, n, hm, hs⟩ := h.exists
  refine ⟨String.ofList m, String.ofList n, ?_, ?_⟩
  · rw [← hs, String.ofList_append]
  · rw [String.toByteArray_ofList, hm]

/-- A text that is found among the bytes of another starts and ends between characters. -/
theorem OccursAt.isValid (h : OccursAt s x b) (hx : x ≠ "") :
    (⟨b⟩ : String.Pos.Raw).IsValid s ∧
      (⟨b + x.utf8ByteSize⟩ : String.Pos.Raw).IsValid s := by
  obtain ⟨u, v, hs, rfl⟩ := h
  have hsize : u.size + x.utf8ByteSize ≤ s.utf8ByteSize := by
    rw [← String.size_toByteArray (s := s), hs, ByteArray.size_append, ByteArray.size_append,
      String.size_toByteArray]
    exact Nat.le_add_right _ _
  have hbytes : (s.toByteArray.extract u.size (u.size + x.utf8ByteSize)).IsValidUTF8 := by
    rw [← String.size_toByteArray, (extract_of_eq_append hs).2]
    exact x.isValidUTF8
  refine ((String.Pos.Raw.isValidUTF8_extract_iff _ _ ?_ hsize).mp hbytes).resolve_left ?_
  · exact Nat.le_add_right _ _
  · intro heq
    have hoffset : u.size = u.size + x.utf8ByteSize := congrArg String.Pos.Raw.byteIdx heq
    exact hx (String.utf8ByteSize_eq_zero_iff.mp (by omega))

/-- **BYTES OF A TEXT ARE CHARACTERS**: wherever the bytes of a text stand, the text itself
    does. -/
theorem OccursAt.exists_append (h : OccursAt s x b) (hx : x ≠ "") :
    ∃ before after, s = before ++ x ++ after ∧ before.utf8ByteSize = b := by
  obtain ⟨hstart, hstop⟩ := h.isValid hx
  obtain ⟨u, v, hs, rfl⟩ := h
  obtain ⟨hu, hx'⟩ := extract_of_eq_append hs
  rw [String.size_toByteArray] at hx'
  obtain ⟨before, -, -, hbefore⟩ := exists_of_isValid hstart
  obtain ⟨both, after, hboth, hbytes⟩ := exists_of_isValid hstop
  have heq : both = before ++ x := by
    rw [← String.toByteArray_inj, String.toByteArray_append, hbytes, hbefore, ← hx']
    exact ByteArray.extract_eq_extract_append_extract _ (Nat.zero_le _) (Nat.le_add_right _ _)
  refine ⟨before, after, ?_, ?_⟩
  · rw [← heq]
    exact hboth
  · rw [← String.size_toByteArray, hbefore, hu]

/-! ## The first place -/

/-- No occurrence among the bytes is before the first one among the characters. -/
theorem utf8ByteSize_le_of_occursAt
    (h : FirstBetween x.toList s.toList before.toList after.toList) (hb : OccursAt s x b) :
    before.utf8ByteSize ≤ b := by
  by_cases hx : x = ""
  · have hnil : before.toList = [] := by
      by_contra hsome
      refine h.first 0 (List.length_pos_iff.mpr hsome) ?_
      rw [hx]
      exact List.nil_prefix
    have hempty : before = "" := String.toList_inj.mp hnil
    rw [hempty]
    exact Nat.zero_le b
  · obtain ⟨before', after', hs, rfl⟩ := hb.exists_append hx
    have hchars : s.toList = before'.toList ++ (x.toList ++ after'.toList) := by
      rw [hs, String.toList_append, String.toList_append, List.append_assoc]
    have hlength : before.toList.length ≤ before'.toList.length := by
      by_contra hlt
      refine h.first _ (Nat.lt_of_not_le hlt) ?_
      rw [hchars, List.drop_left]
      exact List.prefix_append _ _
    obtain ⟨rest, hrest⟩ : before.toList <+: before'.toList :=
      List.prefix_of_prefix_length_le ⟨_, h.whole.symm⟩ ⟨_, hchars.symm⟩ hlength
    have heq : before' = before ++ String.ofList rest := by
      rw [← String.toList_inj, String.toList_append, String.toList_ofList, hrest]
    rw [heq, String.utf8ByteSize_append]
    exact Nat.le_add_right _ _

/-- **THE FIRST BYTE IS THE FIRST CHARACTER**: what precedes the first occurrence has as many
    bytes as the least offset of one. -/
theorem isLeast_occursAt
    (h : FirstBetween x.toList s.toList before.toList after.toList) :
    IsLeast {b | OccursAt s x b} before.utf8ByteSize := by
  constructor
  · rw [h.eq_append]
    exact occursAt_append before x after
  · intro b hb
    exact utf8ByteSize_le_of_occursAt h hb

/-- A text that does not occur in another one has no offset in its bytes. -/
theorem not_occursAt (h : ¬ x.toList <:+: s.toList) (b : Nat) : ¬ OccursAt s x b := by
  intro hb
  have hx : x ≠ "" := by
    rintro rfl
    exact h List.nil_infix
  obtain ⟨before, after, rfl, -⟩ := hb.exists_append hx
  refine h ⟨before.toList, after.toList, ?_⟩
  rw [String.toList_append, String.toList_append]

end Cohort.Text
