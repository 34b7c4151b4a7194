import Cohort.Pattern.Construct
import Cohort.Proofs.Pattern.Anchors

/-! # Reading in front of the ending

    A pattern that has to match whole names is read with `)$` behind it.  The
    readers of the engine look at what stands in front of them, so most of them
    read the same as they would if the text ended there.  What else may happen
    is that a reader stops within the ending, and then it has taken the closing
    parenthesis: an escape does, and so does a comment. -/

namespace Cohort.Pattern.Engine

variable {α : Type} {f : Flags} {cs rest : List Char} {c : Char}

/-- In front of the ending a reader takes the closing parenthesis, or it reads
    what it reads of the text alone. -/
def ReadsAlike (read : List Char → Option (α × List Char)) (cs : List Char) : Prop :=
  ∀ x rest, read (cs ++ ending) = some (x, rest) →
    rest <:+ ['$'] ∨
      ∃ r, r.length ≤ cs.length ∧ rest = r ++ ending ∧ read cs = some (x, r)

theorem readsAlike_some (y : α) : ReadsAlike (fun cs => some (y, cs)) cs := by
  rintro _ _ ⟨⟩
  exact Or.inr ⟨cs, Nat.le_refl _, rfl, rfl⟩

theorem readsAlike_map (o : Option α) : ReadsAlike (fun cs => o.map (·, cs)) cs := by
  cases o with
  | none => exact fun _ _ h => nomatch h
  | some y => exact readsAlike_some y

/-! ## Fronts -/

/-- A character in front that is not of the ending is of the text. -/
theorem front_of_append_ending (hc : c ≠ ')') (h : cs ++ ending = c :: rest) :
    ∃ r, cs = c :: r ∧ rest = r ++ ending := by
  cases cs with
  | nil => exact absurd (List.head_eq_of_cons_eq h).symm hc
  | cons d r =>
      obtain ⟨rfl, rfl⟩ := List.cons_eq_cons.mp h
      exact ⟨r, rfl, rfl⟩

/-- The same of several characters in front. -/
theorem prefix_of_append_ending (front : List Char) (hfront : ')' ∉ front)
    (h : cs ++ ending = front ++ rest) : ∃ r, cs = front ++ r ∧ rest = r ++ ending := by
  induction front generalizing cs with
  | nil => exact ⟨cs, rfl, h.symm⟩
  | cons c front ih =>
      rw [List.mem_cons, not_or] at hfront
      obtain ⟨hc, hfront⟩ := hfront
      obtain ⟨k, rfl, hk⟩ := front_of_append_ending (Ne.symm hc) h
      obtain ⟨r, rfl, hrest⟩ := ih hfront hk.symm
      exact ⟨r, rfl, hrest⟩

theorem ne_of_append_ending_ne (front : List Char)
    (h : ∀ t, cs ++ ending = front ++ t → False) : ∀ t, cs = front ++ t → False :=
  fun t ht => h (t ++ ending) (by rw [ht, List.append_assoc])

theorem suffix_ending_iff : cs <:+ ending ↔ cs = [')', '$'] ∨ cs = ['$'] ∨ cs = [] := by
  simp [ending, List.suffix_cons_iff]

/-- What is left of the ending when more than the text is dropped. -/
theorem drop_append_ending {n : Nat} (h : cs.length < n) :
    (cs ++ ending).drop n <:+ ['$'] := by
  obtain ⟨m, hm⟩ := Nat.exists_eq_add_of_lt h
  have hleft : n - cs.length = m + 1 := by omega
  rw [List.drop_append, List.drop_eq_nil_of_le (Nat.le_of_lt h), hleft]
  exact List.drop_suffix m ['$']

/-! ## Runs of characters -/

/-- A run that the ending would not stop is stopped in the text, or by nothing. -/
theorem dropWhile_through_ending {p : Char → Bool} (hp : ending.all p = true)
    (h : (cs ++ ending).dropWhile p = c :: rest) :
    (cs ++ ending).takeWhile p = cs.takeWhile p ∧
      ∃ r, r.length < cs.length ∧ rest = r ++ ending ∧ cs.dropWhile p = c :: r := by
  induction cs with
  | nil =>
      obtain ⟨hclose, hdollar⟩ : p ')' = true ∧ p '$' = true := by simpa [ending] using hp
      have hnil : (([] : List Char) ++ ending).dropWhile p = [] := by
        simp [ending, hclose, hdollar]
      cases hnil.symm.trans h
  | cons d cs ih =>
      rw [List.cons_append] at h ⊢
      by_cases hd : p d = true
      · rw [List.dropWhile_cons_of_pos hd] at h ⊢
        obtain ⟨htake, r, hr, hrest, hdrop⟩ := ih h
        rw [List.takeWhile_cons_of_pos hd, List.takeWhile_cons_of_pos hd, htake]
        exact ⟨rfl, r, Nat.lt_succ_of_lt hr, hrest, hdrop⟩
      · rw [List.dropWhile_cons_of_neg hd] at h ⊢
        rw [List.takeWhile_cons_of_neg hd, List.takeWhile_cons_of_neg hd]
        obtain ⟨rfl, rfl⟩ := List.cons_eq_cons.mp h
        exact ⟨rfl, cs, Nat.lt_succ_self _, rfl, rfl⟩

/-- A run that the ending stops is that of the text. -/
theorem dropWhile_append_ending {p : Char → Bool} (hp : p ')' = false) :
    (cs ++ ending).dropWhile p = cs.dropWhile p ++ ending := by
  induction cs with
  | nil => simp [ending, hp]
  | cons d cs ih => cases hd : p d <;> simp [hd, ih]

theorem takeWhile_append_ending {p : Char → Bool} (hp : p ')' = false) :
    (cs ++ ending).takeWhile p = cs.takeWhile p := by
  induction cs with
  | nil => simp [ending, hp]
  | cons d cs ih => cases hd : p d <;> simp [hd, ih]

/-! ## Blanks and comments -/

theorem dropComments_suffix (b : Bool) (cs : List Char) : dropComments b cs <:+ cs := by
  fun_induction dropComments b cs with
  | case1 => exact List.suffix_rfl
  | case2 c cs ih => exact ih.trans (List.suffix_cons c cs)
  | case3 c cs _ ih => exact ih.trans (List.suffix_cons c cs)
  | case4 cs _ ih => exact ih.trans (List.suffix_cons _ cs)
  | case5 => exact List.suffix_rfl

theorem Flags.skip_suffix (f : Flags) (cs : List Char) : f.skip cs <:+ cs := by
  rw [Flags.skip]
  split
  · exact dropComments_suffix false cs
  · exact List.suffix_rfl

/-- A comment that is open at the end takes the ending with it. -/
theorem dropComments_append_ending (b : Bool) (cs : List Char) :
    (dropComments b (cs ++ ending) = [] ∧ dropComments b cs = []) ∨
      dropComments b (cs ++ ending) = dropComments b cs ++ ending := by
  fun_induction dropComments b cs with
  | case1 b => cases b <;> decide
  | case2 c cs ih => exact ih
  | case3 c cs hc ih => simpa [dropComments, hc] using ih
  | case4 cs hc ih => simpa [dropComments, hc] using ih
  | case5 c cs hc hhash => exact Or.inr (by simp [dropComments, hc, hhash])

theorem Flags.skip_append_ending (f : Flags) (cs : List Char) :
    (f.skip (cs ++ ending) = [] ∧ f.skip cs = []) ∨
      f.skip (cs ++ ending) = f.skip cs ++ ending := by
  simp only [Flags.skip]
  split
  · exact dropComments_append_ending false cs
  · exact Or.inr rfl

theorem Flags.length_skip_le (f : Flags) (cs : List Char) : (f.skip cs).length ≤ cs.length :=
  (f.skip_suffix cs).length_le

theorem Flags.skip_nil (f : Flags) : f.skip [] = [] :=
  List.eq_nil_of_suffix_nil (f.skip_suffix [])

/-- Nothing of the ending is a blank, and no comment begins in it. -/
theorem Flags.skip_of_suffix_ending (f : Flags) (h : cs <:+ ending) : f.skip cs = cs := by
  cases hf : f.verbose
  · simp [Flags.skip, hf]
  · rw [Flags.skip, if_pos hf]
    obtain rfl | rfl | rfl := suffix_ending_iff.mp h <;> decide

/-! ## Runs between blanks and comments -/

variable {stop : Char → Bool}

theorem gatherPast_suffix (stop : Char → Bool) (b : Bool) (cs : List Char) :
    (gatherPast stop b cs).2 <:+ cs := by
  fun_induction gatherPast stop b cs with
  | case1 => exact List.suffix_rfl
  | case2 c cs ih => exact ih.trans (List.suffix_cons c cs)
  | case3 c cs _ ih => exact ih.trans (List.suffix_cons c cs)
  | case4 cs _ ih => exact ih.trans (List.suffix_cons _ cs)
  | case5 => exact List.suffix_rfl
  | case6 c cs _ _ _ read left h ih =>
      rw [h] at ih
      exact ih.trans (List.suffix_cons c cs)

theorem Flags.gather_suffix (f : Flags) (stop : Char → Bool) (cs : List Char) :
    (f.gather stop cs).2 <:+ cs := by
  rw [Flags.gather]
  split
  · exact gatherPast_suffix stop false cs
  · exact List.dropWhile_suffix _

/-- A run that the ending stops is that of the text; but a comment that is open
    at the end takes the ending with it. -/
theorem gatherPast_append_ending (hstop : stop ')' = true) (b : Bool) (cs : List Char) :
    gatherPast stop b (cs ++ ending) = ((gatherPast stop b cs).1, []) ∧
        (gatherPast stop b cs).2 = [] ∨
      gatherPast stop b (cs ++ ending)
        = ((gatherPast stop b cs).1, (gatherPast stop b cs).2 ++ ending) := by
  have hblank : Text.isBlank ')' = false := by decide
  fun_induction gatherPast stop b cs with
  | case1 b => cases b <;> simp [ending, gatherPast, hstop, hblank]
  | case2 c cs ih => simpa [gatherPast] using ih
  | case3 c cs hc ih => simpa [gatherPast, hc] using ih
  | case4 cs hc ih => simpa [gatherPast, hc] using ih
  | case5 c cs hc hhash hs => simp [gatherPast, hc, hhash, hs]
  | case6 c cs hc hhash hs read left h ih =>
      rw [h] at ih
      obtain ⟨hall, rfl⟩ | hall := ih <;> simp [gatherPast, hc, hhash, hs, hall]

/-- A run that the ending would not stop is stopped in the text, or by nothing. -/
theorem gatherPast_through_ending (hclose : stop ')' = false) (hdollar : stop '$' = false)
    {b : Bool} {read : List Char} (h : gatherPast stop b (cs ++ ending) = (read, c :: rest)) :
    ∃ r, r.length < cs.length ∧ rest = r ++ ending ∧ gatherPast stop b cs = (read, c :: r) := by
  have hblank : Text.isBlank ')' = false ∧ Text.isBlank '$' = false := by decide
  fun_induction gatherPast stop b cs generalizing read with
  | case1 b => cases b <;> simp [ending, gatherPast, hclose, hdollar, hblank] at h
  | case2 d cs ih =>
      obtain ⟨r, hr, hrest, halone⟩ := ih (by simpa [gatherPast] using h)
      exact ⟨r, Nat.lt_succ_of_lt hr, hrest, halone⟩
  | case3 d cs hd ih =>
      obtain ⟨r, hr, hrest, halone⟩ := ih (by simpa [gatherPast, hd] using h)
      exact ⟨r, Nat.lt_succ_of_lt hr, hrest, halone⟩
  | case4 cs hd ih =>
      obtain ⟨r, hr, hrest, halone⟩ := ih (by simpa [gatherPast, hd] using h)
      exact ⟨r, Nat.lt_succ_of_lt hr, hrest, halone⟩
  | case5 d cs hd hhash hs =>
      obtain ⟨rfl, rfl, rfl⟩ : [] = read ∧ d = c ∧ cs ++ ending = rest := by
        simpa [gatherPast, hd, hhash, hs] using h
      exact ⟨cs, Nat.lt_succ_self _, rfl, rfl⟩
  | case6 d cs hd hhash hs read' left h' ih =>
      obtain ⟨rfl, hleft⟩ : d :: (gatherPast stop false (cs ++ ending)).1 = read ∧
          (gatherPast stop false (cs ++ ending)).2 = c :: rest := by
        simpa [gatherPast, hd, hhash, hs] using h
      obtain ⟨r, hr, hrest, halone⟩ := ih (Prod.ext rfl hleft)
      obtain ⟨hread, rfl⟩ := Prod.mk.inj (h'.symm.trans halone)
      exact ⟨r, Nat.lt_succ_of_lt hr, hrest, by rw [hread]⟩

theorem Flags.gather_append_ending (f : Flags) (stop : Char → Bool) (hstop : stop ')' = true)
    (cs : List Char) :
    f.gather stop (cs ++ ending) = ((f.gather stop cs).1, []) ∧ (f.gather stop cs).2 = [] ∨
      f.gather stop (cs ++ ending) = ((f.gather stop cs).1, (f.gather stop cs).2 ++ ending) := by
  simp only [Flags.gather]
  split
  · exact gatherPast_append_ending hstop false cs
  · exact Or.inr (by rw [takeWhile_append_ending, dropWhile_append_ending] <;> simp [hstop])

theorem Flags.gather_through_ending {f : Flags} (hclose : stop ')' = false)
    (hdollar : stop '$' = false) {read : List Char}
    (h : f.gather stop (cs ++ ending) = (read, c :: rest)) :
    ∃ r, r.length < cs.length ∧ rest = r ++ ending ∧ f.gather stop cs = (read, c :: r) := by
  rw [Flags.gather] at h ⊢
  split at h
  case isTrue hverbose =>
    simpa only [if_pos hverbose] using gatherPast_through_ending hclose hdollar h
  case isFalse hverbose =>
    rw [if_neg hverbose]
    obtain ⟨hread, hdrop⟩ := Prod.mk.inj h
    obtain ⟨htake, r, hr, hrest, halone⟩ :=
      dropWhile_through_ending (by simp [ending, hclose, hdollar]) hdrop
    exact ⟨r, hr, hrest, by rw [← hread, htake, halone]⟩

theorem takePast?_suffix {n : Nat} {b : Bool} {read : List Char}
    (h : takePast? n b cs = some (read, rest)) : rest <:+ cs := by
  fun_induction takePast? n b cs generalizing read with
  | case1 => cases h; exact List.suffix_rfl
  | case2 => cases h
  | case3 n c cs ih => exact (ih h).trans (List.suffix_cons c cs)
  | case4 n c cs _ ih => exact (ih h).trans (List.suffix_cons c cs)
  | case5 n cs _ ih => exact (ih h).trans (List.suffix_cons _ cs)
  | case6 n c cs _ _ ih =>
      obtain ⟨⟨k, left⟩, hk, ⟨⟩⟩ := Option.map_eq_some_iff.mp h
      exact (ih hk).trans (List.suffix_cons c cs)

/-- So many characters are all of the text, or the closing parenthesis is among
    them. -/
theorem takePast?_append_ending {n : Nat} {b : Bool} {read : List Char}
    (h : takePast? n b (cs ++ ending) = some (read, rest)) :
    rest <:+ ['$'] ∨
      ∃ r, r.length ≤ cs.length ∧ rest = r ++ ending ∧ takePast? n b cs = some (read, r) := by
  fun_induction takePast? n b cs generalizing read with
  | case1 b cs =>
      rw [takePast?] at h
      obtain ⟨⟩ := h
      exact Or.inr ⟨cs, Nat.le_refl _, rfl, rfl⟩
  | case2 b n =>
      cases b with
      | true => exact absurd h (by simp [ending, takePast?])
      | false =>
          left
          have hclose : takePast? (n + 1) false ending
              = (takePast? n false ['$']).map fun p => (')' :: p.1, p.2) := by
            rw [ending, takePast?, if_neg (by decide), if_neg (by decide)]
          rw [List.nil_append, hclose] at h
          obtain ⟨p, hp, ⟨⟩⟩ := Option.map_eq_some_iff.mp h
          exact takePast?_suffix hp
  | case3 n c cs ih =>
      refine (ih (by simpa [takePast?] using h)).imp_right ?_
      rintro ⟨r, hr, hrest, halone⟩
      exact ⟨r, Nat.le_succ_of_le hr, hrest, halone⟩
  | case4 n c cs hc ih =>
      refine (ih (by simpa [takePast?, hc] using h)).imp_right ?_
      rintro ⟨r, hr, hrest, halone⟩
      exact ⟨r, Nat.le_succ_of_le hr, hrest, halone⟩
  | case5 n cs hc ih =>
      refine (ih (by simpa [takePast?, hc] using h)).imp_right ?_
      rintro ⟨r, hr, hrest, halone⟩
      exact ⟨r, Nat.le_succ_of_le hr, hrest, halone⟩
  | case6 n c cs hc hhash ih =>
      rw [List.cons_append, takePast?, if_neg hc, if_neg hhash] at h
      obtain ⟨⟨k, left⟩, hk, ⟨⟩⟩ := Option.map_eq_some_iff.mp h
      refine (ih hk).imp_right ?_
      rintro ⟨r, hr, hrest, halone⟩
      exact ⟨r, Nat.le_succ_of_le hr, hrest, by rw [halone]; rfl⟩

theorem Flags.take?_suffix {f : Flags} {n : Nat} {read : List Char}
    (h : f.take? n cs = some (read, rest)) : rest <:+ cs := by
  rw [Flags.take?] at h
  split at h
  case isTrue => exact takePast?_suffix h
  case isFalse =>
    split at h
    case isTrue => cases h
    case isFalse =>
      obtain ⟨⟩ := h
      exact List.drop_suffix n cs

theorem Flags.take?_append_ending {f : Flags} {n : Nat} {read : List Char}
    (h : f.take? n (cs ++ ending) = some (read, rest)) :
    rest <:+ ['$'] ∨
      ∃ r, r.length ≤ cs.length ∧ rest = r ++ ending ∧ f.take? n cs = some (read, r) := by
  rw [Flags.take?] at h
  split at h
  case isTrue hverbose =>
    simpa only [Flags.take?, if_pos hverbose] using takePast?_append_ending h
  case isFalse hverbose =>
    split at h
    case isTrue => cases h
    case isFalse =>
      obtain ⟨⟩ := h
      by_cases hlen : cs.length < n
      · exact Or.inl (drop_append_ending hlen)
      · have hle : n ≤ cs.length := Nat.le_of_not_lt hlen
        refine Or.inr ⟨cs.drop n, (List.drop_suffix n cs).length_le,
          List.drop_append_of_le_length hle, ?_⟩
        rw [Flags.take?, if_neg hverbose, if_neg hlen, List.take_append_of_le_length hle]

end Cohort.Pattern.Engine
