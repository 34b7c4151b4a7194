import Cohort.Proofs.Pattern.Ending

/-! # Escapes in front of the ending

    An escape that the text breaks off takes the closing parenthesis as its
    character, and every other one is read alike, with one exception: a brace
    behind `\b` that only blanks and comments follow.  Alone, no name of a
    boundary can follow it; in front of the ending it begins a repetition. -/

namespace Cohort.Pattern.Engine

variable {f : Flags} {cs rest : List Char} {x : Primitive}

/-! ## Code points -/

theorem rest_of_codePoint? {digits left : List Char}
    (h : codePoint? digits left = some (x, rest)) : rest = left := by
  simp only [codePoint?, Option.bind_eq_some_iff, Option.map_eq_some_iff] at h
  obtain ⟨v, -, d, -, ⟨⟩⟩ := h
  rfl

/-- What a code point is does not depend on what stands behind it. -/
theorem codePoint?_with {digits left : List Char} (h : codePoint? digits left = some (x, rest))
    (r : List Char) : codePoint? digits r = some (x, r) := by
  simp only [codePoint?, Option.bind_eq_some_iff, Option.map_eq_some_iff] at h ⊢
  obtain ⟨v, hv, d, hd, ⟨⟩⟩ := h
  exact ⟨v, hv, d, hd, rfl⟩

theorem readHexadecimal?_suffix {n : Nat} (h : readHexadecimal? f n cs = some (x, rest)) :
    rest <:+ cs := by
  rw [readHexadecimal?] at h
  have hskip := f.skip_suffix cs
  split at h
  case h_1 _ inner hcs =>
    rw [hcs] at hskip
    have hgather := f.gather_suffix isClosingBrace inner
    split at h
    case h_1 _ read d left hread =>
      rw [hread] at hgather
      rw [rest_of_codePoint? h]
      exact ((List.suffix_cons d left).trans hgather).trans
        ((List.suffix_cons _ inner).trans hskip)
    case h_2 => cases h
  case h_2 =>
    obtain ⟨⟨read, left⟩, htake, h⟩ := Option.bind_eq_some_iff.mp h
    rw [rest_of_codePoint? h]
    exact (Flags.take?_suffix htake).trans hskip

theorem Flags.take?_nil (f : Flags) {n : Nat} (hn : 0 < n) : f.take? n [] = none := by
  obtain ⟨n, rfl⟩ := Nat.exists_eq_succ_of_ne_zero (Nat.ne_of_gt hn)
  cases hf : f.verbose <;> simp [Flags.take?, hf, takePast?]

theorem readsAlike_readHexadecimal? (n : Nat) (hn : 0 < n) :
    ReadsAlike (readHexadecimal? f n) cs := by
  intro x rest h
  have hshort := f.length_skip_le cs
  rw [readHexadecimal?] at h
  obtain ⟨hnone, -⟩ | hskip := f.skip_append_ending cs
  · rw [hnone] at h
    simp only [f.take?_nil hn, Option.bind_none] at h
    cases h
  · rw [hskip] at h
    split at h
    case h_1 _ inner hcs =>
      obtain ⟨inner, halone, rfl⟩ := front_of_append_ending (by decide) hcs
      rw [halone] at hshort
      split at h
      case h_1 _ read d left hread =>
        obtain ⟨r, hr, rfl, hgather⟩ := Flags.gather_through_ending (by decide) (by decide) hread
        obtain rfl := rest_of_codePoint? h
        refine Or.inr ⟨r, Nat.le_of_lt (Nat.lt_trans hr hshort), rfl, ?_⟩
        simp only [readHexadecimal?, halone, hgather]
        exact codePoint?_with h r
      case h_2 => cases h
    case h_2 _ hbrace =>
      have hbrace := ne_of_append_ending_ne ['\x7b'] hbrace
      obtain ⟨⟨read, left⟩, htake, h⟩ := Option.bind_eq_some_iff.mp h
      obtain rfl := rest_of_codePoint? h
      refine (Flags.take?_append_ending htake).imp_right ?_
      rintro ⟨r, hr, rfl, halone⟩
      refine ⟨r, Nat.le_trans hr hshort, rfl, ?_⟩
      rw [readHexadecimal?]
      split
      case h_1 _ inner hcs => exact (hbrace inner hcs).elim
      case h_2 =>
        rw [halone, Option.bind_some]
        exact codePoint?_with h r

theorem readByte?_suffix (h : readByte? f cs = some (x, rest)) : rest <:+ cs :=
  readHexadecimal?_suffix (Option.filter_eq_some_iff.mp h).1

theorem readsAlike_readByte? : ReadsAlike (readByte? f) cs := by
  intro x rest h
  obtain ⟨hread, hfits⟩ := Option.filter_eq_some_iff.mp h
  refine (readsAlike_readHexadecimal? 2 Nat.two_pos x rest hread).imp_right ?_
  rintro ⟨r, hr, rfl, halone⟩
  refine ⟨r, hr, rfl, Option.filter_eq_some_iff.mpr ⟨halone, ?_⟩⟩
  have hhead : (f.skip (cs ++ ending)).head? == some '\x7b'
      → (f.skip cs).head? == some '\x7b' := by
    obtain ⟨hnone, -⟩ | hskip := f.skip_append_ending cs
    · simp [hnone]
    · rw [hskip]
      cases f.skip cs <;> simp [ending]
  cases x with
  | literal c =>
      simp only [Bool.or_eq_true] at hfits ⊢
      exact hfits.imp_right hhead
  | set s | assertion a => rfl

/-! ## Properties -/

theorem readProperty?_suffix {negated : Bool} (h : readProperty? f negated cs = some (x, rest)) :
    rest <:+ cs := by
  have hskip := f.skip_suffix cs
  rw [readProperty?] at h
  split at h
  case isTrue => cases h
  case isFalse =>
    split at h
    case h_1 => cases h
    case h_2 _ inner hcs =>
      rw [hcs] at hskip
      have hgather := f.gather_suffix isClosingBrace inner
      split at h
      case h_1 _ name d left hread =>
        rw [hread] at hgather
        obtain ⟨s, -, ⟨⟩⟩ := Option.map_eq_some_iff.mp h
        exact ((List.suffix_cons d _).trans hgather).trans
          ((List.suffix_cons _ inner).trans hskip)
      case h_2 => cases h
    case h_3 _ d left _ hcs =>
      rw [hcs] at hskip
      obtain ⟨s, -, ⟨⟩⟩ := Option.map_eq_some_iff.mp h
      exact (List.suffix_cons d _).trans hskip

theorem readsAlike_readProperty? (negated : Bool) : ReadsAlike (readProperty? f negated) cs := by
  intro x rest h
  have hshort := f.length_skip_le cs
  rw [readProperty?] at h
  split at h
  case isTrue => cases h
  case isFalse hunicode =>
    obtain ⟨hnone, -⟩ | hskip := f.skip_append_ending cs
    · rw [hnone] at h
      cases h
    · rw [hskip] at h
      split at h
      case h_1 => cases h
      case h_2 _ inner hcs =>
        obtain ⟨inner, halone, rfl⟩ := front_of_append_ending (by decide) hcs
        rw [halone] at hshort
        split at h
        case h_1 _ name d left hread =>
          obtain ⟨r, hr, rfl, hgather⟩ :=
            Flags.gather_through_ending (by decide) (by decide) hread
          obtain ⟨s, hs, ⟨⟩⟩ := Option.map_eq_some_iff.mp h
          refine Or.inr ⟨r, Nat.le_of_lt (Nat.lt_trans hr hshort), rfl, ?_⟩
          simp [readProperty?, hunicode, halone, hgather, hs]
        case h_2 => cases h
      case h_3 _ d left hbrace hcs =>
        obtain ⟨s, hs, ⟨⟩⟩ := Option.map_eq_some_iff.mp h
        cases halone : f.skip cs with
        | nil =>
            rw [halone] at hcs
            obtain ⟨rfl, rfl⟩ := List.cons_eq_cons.mp hcs
            exact Or.inl List.suffix_rfl
        | cons c k =>
            rw [halone] at hcs hshort
            obtain ⟨rfl, rfl⟩ := List.cons_eq_cons.mp hcs
            refine Or.inr ⟨k, Nat.le_of_lt hshort, rfl, ?_⟩
            simp [readProperty?, hunicode, halone, hs]

/-! ## Boundaries -/

/-- The name of a boundary ends in front of the ending. -/
theorem boundaryName_append_ending {name : List Char}
    (h : f.gather (!isBoundaryChar ·) (cs ++ ending) = (name, '\x7d' :: rest)) :
    ∃ r, r.length ≤ cs.length ∧ rest = r ++ ending ∧
      f.gather (!isBoundaryChar ·) cs = (name, '\x7d' :: r) := by
  obtain ⟨hall, -⟩ | hall := f.gather_append_ending (!isBoundaryChar ·) (by decide) cs
  · rw [hall] at h
    cases h
  · obtain ⟨hname, hleft⟩ := Prod.mk.inj (hall.symm.trans h)
    obtain ⟨r, hgather, rfl⟩ := front_of_append_ending (by decide) hleft
    have hlen := (f.gather_suffix (!isBoundaryChar ·) cs).length_le
    rw [hgather] at hlen
    exact ⟨r, Nat.le_of_succ_le hlen, rfl, Prod.ext hname hgather⟩

theorem readBoundary?_suffix (h : readBoundary? f cs = some (x, rest)) : rest <:+ cs := by
  unfold readBoundary? at h
  split at h
  case h_1 _ inner =>
    have hinner := List.suffix_cons '\x7b' inner
    have hskip := f.skip_suffix inner
    split at h
    case h_1 => cases h
    case h_2 _ c k hcs =>
      rw [hcs] at hskip
      split at h
      case isTrue =>
        have hgather := f.gather_suffix (!isBoundaryChar ·) (c :: k)
        split at h
        case h_1 _ name behind hread =>
          rw [hread] at hgather
          obtain ⟨a, -, ⟨⟩⟩ := Option.map_eq_some_iff.mp h
          exact ((List.suffix_cons _ _).trans hgather).trans (hskip.trans hinner)
        case h_2 => cases h
      case isFalse =>
        obtain ⟨⟩ := h
        exact List.suffix_rfl
  case h_2 =>
    obtain ⟨⟩ := h
    exact List.suffix_rfl

theorem readBoundary?_append_ending (h : readBoundary? f (cs ++ ending) = some (x, rest)) :
    (∃ r, r.length ≤ cs.length ∧ rest = r ++ ending ∧ readBoundary? f cs = some (x, r)) ∨
      ∃ a inner, x = .assertion a ∧ rest = '\x7b' :: inner ∧ f.skip inner = ending := by
  unfold readBoundary? at h
  split at h
  case h_1 _ inner hcs =>
    obtain ⟨inner, rfl, rfl⟩ := front_of_append_ending (by decide) hcs
    have hshort := f.length_skip_le inner
    obtain ⟨hnone, -⟩ | hskip := f.skip_append_ending inner
    · simp [hnone] at h
    · rw [hskip] at h
      cases hinner : f.skip inner with
      | nil =>
          rw [hinner] at h hskip
          obtain ⟨⟩ : some (Primitive.assertion (.boundary f.word),
            '\x7b' :: (inner ++ ending)) = some (x, rest) := h
          exact Or.inr ⟨_, _, rfl, rfl, hskip⟩
      | cons d cs =>
          rw [hinner, List.cons_append] at h
          simp only at h
          left
          split at h
          case isTrue hchar =>
            split at h
            case h_1 _ name behind hread =>
              rw [← List.cons_append] at hread
              obtain ⟨r, hr, rfl, halone⟩ := boundaryName_append_ending hread
              obtain ⟨a, ha, ⟨⟩⟩ := Option.map_eq_some_iff.mp h
              rw [hinner] at hshort
              refine ⟨r, Nat.le_succ_of_le (Nat.le_trans hr hshort), rfl, ?_⟩
              simp [readBoundary?, hinner, hchar, halone, ha]
            case h_2 => cases h
          case isFalse hchar =>
            obtain ⟨⟩ := h
            exact ⟨_, Nat.le_refl _, rfl, by simp [readBoundary?, hinner, hchar]⟩
  case h_2 _ hbrace =>
    obtain ⟨⟩ := h
    refine Or.inl ⟨cs, Nat.le_refl _, rfl, ?_⟩
    unfold readBoundary?
    split
    case h_1 => exact (hbrace _ rfl).elim
    case h_2 => rfl

/-! ## All escapes -/

theorem readsAlike_escape {c : Char} (hc : c ≠ 'b') :
    ReadsAlike (fun cs => readEscape? f (c :: cs)) cs := by
  intro x rest h
  simp only at h ⊢
  unfold readEscape? at h ⊢
  split at h <;> rename_i htail
  case h_1 => exact nomatch htail
  all_goals obtain ⟨rfl, rfl⟩ := List.cons_eq_cons.mp htail
  case h_2 => exact readsAlike_readByte? x rest h
  case h_3 => exact readsAlike_readHexadecimal? 4 (by decide) x rest h
  case h_4 => exact readsAlike_readHexadecimal? 8 (by decide) x rest h
  case h_5 => exact readsAlike_readProperty? false x rest h
  case h_6 => exact readsAlike_readProperty? true x rest h
  case h_21 => exact absurd rfl hc
  case h_25 =>
    split at h
    case isFalse => exact nomatch h
    case isTrue hsign =>
      obtain ⟨⟩ := h
      refine Or.inr ⟨cs, Nat.le_refl _, rfl, ?_⟩
      simp [*]
  all_goals first | exact readsAlike_map _ x rest h | exact readsAlike_some _ x rest h

theorem readEscape?_suffix (h : readEscape? f cs = some (x, rest)) : rest <:+ cs := by
  cases cs with
  | nil => cases h
  | cons c cs =>
      refine List.IsSuffix.trans ?_ (List.suffix_cons c cs)
      unfold readEscape? at h
      split at h <;> rename_i htail
      case h_1 => exact nomatch htail
      all_goals obtain ⟨rfl, rfl⟩ := List.cons_eq_cons.mp htail
      case h_2 => exact readByte?_suffix h
      case h_3 | h_4 => exact readHexadecimal?_suffix h
      case h_5 | h_6 => exact readProperty?_suffix h
      case h_21 => exact readBoundary?_suffix h
      case h_25 =>
        split at h
        case isTrue =>
          obtain ⟨⟩ := h
          exact List.suffix_rfl
        case isFalse => cases h
      all_goals first
        | obtain ⟨⟩ := h
          exact List.suffix_rfl
        | obtain ⟨_, -, ⟨⟩⟩ := Option.map_eq_some_iff.mp h
          exact List.suffix_rfl

theorem readEscape?_append_ending (h : readEscape? f (cs ++ ending) = some (x, rest)) :
    rest <:+ ['$'] ∨
      (∃ r, r.length ≤ cs.length ∧ rest = r ++ ending ∧ readEscape? f cs = some (x, r)) ∨
      ∃ a inner, x = .assertion a ∧ rest = '\x7b' :: inner ∧ f.skip inner = ending := by
  cases cs with
  | nil =>
      obtain ⟨⟩ : some (Primitive.literal ')', ['$']) = some (x, rest) := h
      exact Or.inl List.suffix_rfl
  | cons c cs =>
      by_cases hc : c = 'b'
      · subst hc
        obtain ⟨r, hr, hrest, halone⟩ | hbrace := readBoundary?_append_ending h
        · exact Or.inr (Or.inl ⟨r, Nat.le_succ_of_le hr, hrest, halone⟩)
        · exact Or.inr (Or.inr hbrace)
      · obtain hend | ⟨r, hr, hrest, halone⟩ := readsAlike_escape hc x rest h
        · exact Or.inl hend
        · exact Or.inr (Or.inl ⟨r, Nat.le_succ_of_le hr, hrest, halone⟩)

end Cohort.Pattern.Engine
