import Cohort.Proofs.Pattern.Sets

/-! # Constructs in front of the ending

    Sets end in the text or not at all.  The flags of a group, an escape and a
    comment may take the closing parenthesis, and then there is none left to
    close the group around the text.  No construct but a closing parenthesis
    closes a group. -/

namespace Cohort.Pattern.Engine

variable {f : Flags} {c : Char} {cs rest : List Char} {x : Construct}

/-! ## Repetitions -/

theorem readCount?_nil (f : Flags) : readCount? f [] = (none, []) := by
  have hgather : f.gather (!Decimal.isDigit ·) [] = ([], []) := by
    cases hf : f.verbose <;> simp [Flags.gather, hf, gatherPast]
  simp [readCount?, Text.trimStart, hgather]

/-- Nothing of the ending belongs to a count. -/
theorem front_of_readCount? {n : Option Nat} (hc : c ≠ ')')
    (h : readCount? f (cs ++ ending) = (n, c :: rest)) :
    ∃ r, rest = r ++ ending ∧ readCount? f cs = (n, c :: r) := by
  have htrim (k : List Char) : Text.trimStart (k ++ ending) = Text.trimStart k ++ ending :=
    dropWhile_append_ending (by decide)
  simp only [readCount?, htrim] at h ⊢
  obtain ⟨hall, -⟩ | hall := f.gather_append_ending (!Decimal.isDigit ·) (by decide)
    (Text.trimStart cs)
  · rw [hall] at h
    cases (Prod.mk.inj h).2
  · rw [hall] at h
    obtain ⟨hn, hrest⟩ := Prod.mk.inj h
    rw [htrim] at hrest
    obtain ⟨r, halone, rfl⟩ := front_of_append_ending hc hrest
    exact ⟨r, rfl, Prod.ext hn halone⟩

theorem readCount?_suffix (f : Flags) (cs : List Char) : (readCount? f cs).2 <:+ cs :=
  ((List.dropWhile_suffix _).trans (f.gather_suffix _ _)).trans (List.dropWhile_suffix _)

theorem dropPreference_suffix (cs : List Char) : dropPreference cs <:+ cs := by
  unfold dropPreference
  split
  case h_1 k => exact List.suffix_cons _ k
  case h_2 => exact List.suffix_rfl

/-- Behind the counts stand a closing brace, blanks and comments. -/
theorem behindCounts_suffix {k : List Char} (h : '\x7d' :: k <:+ cs) :
    dropPreference (f.skip k) <:+ cs :=
  (((dropPreference_suffix _).trans (f.skip_suffix k)).trans (List.suffix_cons _ k)).trans h

theorem readCounts?_suffix (h : readCounts? f cs = some (x, rest)) : rest <:+ cs := by
  have hfront := (readCount?_suffix f (f.skip cs)).trans (f.skip_suffix cs)
  unfold readCounts? at h
  split at h
  case h_1 least k hk =>
    rw [hk] at hfront
    have hmore := (f.skip_suffix k).trans ((List.suffix_cons _ k).trans hfront)
    split at h
    case h_1 behind hbrace =>
      obtain ⟨⟩ := h
      exact behindCounts_suffix (hbrace ▸ hmore)
    case h_2 =>
      have hsecond := (readCount?_suffix f (f.skip k)).trans hmore
      split at h
      case h_1 most behind hcount =>
        rw [hcount] at hsecond
        split at h
        case isTrue =>
          obtain ⟨⟩ := h
          exact behindCounts_suffix hsecond
        case isFalse => cases h
      case h_2 => cases h
  case h_2 n k hk =>
    obtain ⟨⟩ := h
    rw [hk] at hfront
    exact behindCounts_suffix hfront
  case h_3 => cases h

theorem dropPreference_append_ending (cs : List Char) :
    dropPreference (cs ++ ending) = dropPreference cs ++ ending := by
  cases cs with
  | nil => decide
  | cons c cs => by_cases hc : c = '?' <;> simp [dropPreference, hc]

/-- Behind the counts, a comment may take the closing parenthesis. -/
theorem behindCounts_append_ending (f : Flags) (cs : List Char) :
    dropPreference (f.skip (cs ++ ending)) <:+ ['$'] ∨
      dropPreference (f.skip (cs ++ ending)) = dropPreference (f.skip cs) ++ ending := by
  obtain ⟨hnone, -⟩ | hskip := f.skip_append_ending cs
  · rw [hnone]
    exact Or.inl List.nil_suffix
  · rw [hskip, dropPreference_append_ending]
    exact Or.inr rfl

/-- A repetition is read alike, unless a comment behind it takes the closing
    parenthesis. -/
theorem readCounts?_append_ending (h : readCounts? f (cs ++ ending) = some (x, rest)) :
    rest <:+ ['$'] ∨ ∃ r, rest = r ++ ending ∧ readCounts? f cs = some (x, r) := by
  unfold readCounts? at h
  obtain ⟨hnone, -⟩ | hskip := f.skip_append_ending cs
  · simp [hnone, readCount?_nil] at h
  · rw [hskip] at h
    split at h
    case h_1 _ least k hk =>
      obtain ⟨k, rfl, hleast⟩ := front_of_readCount? (by decide) hk
      obtain ⟨hnone, -⟩ | hinner := f.skip_append_ending k
      · simp [hnone, readCount?_nil] at h
      · rw [hinner] at h
        split at h
        case h_1 _ behind hbrace =>
          obtain ⟨behind, halone, rfl⟩ := front_of_append_ending (by decide) hbrace
          obtain ⟨⟩ := h
          refine (behindCounts_append_ending f behind).imp_right fun hrest => ?_
          exact ⟨_, hrest, by simp [readCounts?, hleast, halone]⟩
        case h_2 _ hnot =>
          split at h
          case h_1 _ most behind hcount =>
            obtain ⟨behind, rfl, hmost⟩ := front_of_readCount? (by decide) hcount
            split at h
            case isTrue hle =>
              obtain ⟨⟩ := h
              have hbrace : ∀ t, f.skip k ≠ '\x7d' :: t := fun t ht =>
                hnot (t ++ ending) (by rw [ht]; rfl)
              refine (behindCounts_append_ending f behind).imp_right fun hrest => ?_
              exact ⟨_, hrest, by simp [readCounts?, hleast, hmost, hle]⟩
            case isFalse => exact nomatch h
          case h_2 => exact nomatch h
    case h_2 _ n k hk =>
      obtain ⟨k, rfl, hcount⟩ := front_of_readCount? (by decide) hk
      obtain ⟨⟩ := h
      refine (behindCounts_append_ending f k).imp_right fun hrest => ?_
      exact ⟨_, hrest, by simp [readCounts?, hcount]⟩
    case h_3 => exact nomatch h

/-! ## Groups -/

theorem readNamedGroup?_suffix (h : readNamedGroup? f cs = some (x, rest)) : rest <:+ cs := by
  unfold readNamedGroup? at h
  split at h
  case h_1 d k _ hk =>
    split at h
    case isTrue =>
      obtain ⟨⟩ := h
      exact (List.suffix_cons d rest).trans (hk ▸ List.dropWhile_suffix _)
    case isFalse => cases h
  case h_2 => cases h

theorem readNamedGroup?_append_ending (h : readNamedGroup? f (cs ++ ending) = some (x, rest)) :
    ∃ r, rest = r ++ ending ∧ readNamedGroup? f cs = some (x, r) := by
  unfold readNamedGroup? at h
  split at h
  case h_1 _ _ d name _ k hname hk =>
    obtain ⟨htake, r, -, rfl, hdrop⟩ := dropWhile_through_ending (by decide) hk
    rw [htake] at hname
    split at h
    case isTrue hnamed =>
      obtain ⟨⟩ := h
      refine ⟨r, rfl, ?_⟩
      simp [readNamedGroup?, hname, hdrop, hnamed]
    case isFalse => exact nomatch h
  case h_2 => exact nomatch h

/-- Flags behind a question mark, to the colon of a group or to a closing
    parenthesis. -/
def readFlagGroup? (f : Flags) (cs : List Char) : Option (Construct × List Char) :=
  let letters := cs.takeWhile fun c => c != ':' && c != ')'
  match cs.dropWhile fun c => c != ':' && c != ')' with
  | ':' :: rest => (readFlags? f letters).map fun l => (.opening l.flags none, rest)
  | ')' :: rest =>
      if letters.isEmpty then none else (readFlags? f letters).map fun l => (.flags l.flags, rest)
  | _ => none

theorem readFlagGroup?_suffix (h : readFlagGroup? f cs = some (x, rest)) : rest <:+ cs := by
  have hdrop := List.dropWhile_suffix (l := cs) fun c => c != ':' && c != ')'
  simp only [readFlagGroup?] at h
  split at h
  case h_1 hk =>
    obtain ⟨l, -, ⟨⟩⟩ := Option.map_eq_some_iff.mp h
    exact (List.suffix_cons _ rest).trans (hk ▸ hdrop)
  case h_2 hk =>
    split at h
    case isTrue => cases h
    case isFalse =>
      obtain ⟨l, -, ⟨⟩⟩ := Option.map_eq_some_iff.mp h
      exact (List.suffix_cons _ rest).trans (hk ▸ hdrop)
  case h_3 => cases h

/-- Flags that the text breaks off take the closing parenthesis as theirs. -/
theorem readFlagGroup?_append_ending (h : readFlagGroup? f (cs ++ ending) = some (x, rest)) :
    rest <:+ ['$'] ∨ ∃ r, rest = r ++ ending ∧ readFlagGroup? f cs = some (x, r) := by
  simp only [readFlagGroup?] at h
  rw [dropWhile_append_ending (by decide), takeWhile_append_ending (by decide)] at h
  split at h
  case h_1 _ behind hcolon =>
    obtain ⟨behind, hdrop, rfl⟩ := front_of_append_ending (by decide) hcolon
    obtain ⟨l, hl, ⟨⟩⟩ := Option.map_eq_some_iff.mp h
    exact Or.inr ⟨behind, rfl, by simp [readFlagGroup?, hdrop, hl]⟩
  case h_2 _ behind hclose =>
    split at h
    case isTrue => exact nomatch h
    case isFalse hletters =>
      obtain ⟨l, hl, ⟨⟩⟩ := Option.map_eq_some_iff.mp h
      cases hdrop : cs.dropWhile fun c => c != ':' && c != ')' with
      | nil =>
          rw [hdrop] at hclose
          obtain ⟨-, rfl⟩ := List.cons_eq_cons.mp hclose
          exact Or.inl List.suffix_rfl
      | cons d behind =>
          rw [hdrop, List.cons_append] at hclose
          obtain ⟨rfl, rfl⟩ := List.cons_eq_cons.mp hclose
          exact Or.inr ⟨behind, rfl, by simp [readFlagGroup?, hdrop, hletters, hl]⟩
  case h_3 => exact nomatch h

theorem readGroup?_suffix (h : readGroup? f cs = some (x, rest)) : rest <:+ cs := by
  refine List.IsSuffix.trans ?_ (f.skip_suffix cs)
  unfold readGroup? at h
  split at h
  case h_1 | h_2 | h_3 | h_4 => cases h
  case h_5 k hk =>
    rw [hk]
    exact (readNamedGroup?_suffix h).trans (List.suffix_append ['?', 'P', '<'] k)
  case h_6 k _ _ hk =>
    rw [hk]
    exact (readNamedGroup?_suffix h).trans (List.suffix_append ['?', '<'] k)
  case h_7 k _ _ _ _ _ _ hk =>
    rw [hk]
    exact (readFlagGroup?_suffix h).trans (List.suffix_cons _ k)
  case h_8 =>
    obtain ⟨⟩ := h
    exact List.suffix_rfl

/-- The beginning of a group is read alike, unless its flags or a comment take
    the closing parenthesis. -/
theorem readGroup?_append_ending (h : readGroup? f (cs ++ ending) = some (x, rest)) :
    rest <:+ ['$'] ∨ ∃ r, rest = r ++ ending ∧ readGroup? f cs = some (x, r) := by
  unfold readGroup? at h
  obtain ⟨hnone, -⟩ | hskip := f.skip_append_ending cs
  · rw [hnone] at h
    obtain ⟨⟩ := h
    exact Or.inl List.nil_suffix
  · rw [hskip] at h
    split at h
    case h_1 | h_2 | h_3 | h_4 => exact nomatch h
    case h_5 _ k hk =>
      obtain ⟨k, halone, rfl⟩ := prefix_of_append_ending ['?', 'P', '<'] (by decide) hk
      obtain ⟨r, hrest, hnamed⟩ := readNamedGroup?_append_ending h
      exact Or.inr ⟨r, hrest, by simp [readGroup?, halone, hnamed]⟩
    case h_6 _ k hequal hnot hk =>
      obtain ⟨k, halone, rfl⟩ := prefix_of_append_ending ['?', '<'] (by decide) hk
      obtain ⟨r, hrest, hnamed⟩ := readNamedGroup?_append_ending h
      have hequal := ne_of_append_ending_ne ['='] hequal
      have hnot := ne_of_append_ending_ne ['!'] hnot
      simp only [List.cons_append, List.nil_append] at hequal hnot
      exact Or.inr ⟨r, hrest, by simp [readGroup?, halone, hnamed]⟩
    case h_7 _ k h₁ h₂ h₃ h₄ h₅ h₆ hk =>
      obtain ⟨k, halone, rfl⟩ := front_of_append_ending (by decide) hk
      -- What does not stand in front of the text and the ending does not
      -- stand in front of the text.
      have h₁ := ne_of_append_ending_ne ['='] h₁
      have h₂ := ne_of_append_ending_ne ['!'] h₂
      have h₃ := ne_of_append_ending_ne ['<', '='] h₃
      have h₄ := ne_of_append_ending_ne ['<', '!'] h₄
      have h₅ := ne_of_append_ending_ne ['P', '<'] h₅
      have h₆ := ne_of_append_ending_ne ['<'] h₆
      simp only [List.cons_append, List.nil_append] at h₁ h₂ h₃ h₄ h₅ h₆
      have hflags : readGroup? f cs = readFlagGroup? f k := by
        simp only [readGroup?, halone]
        rfl
      rw [hflags]
      exact readFlagGroup?_append_ending h
    case h_8 _ _ _ _ _ _ _ hquestion =>
      obtain ⟨⟩ := h
      have hquestion : ∀ k, f.skip cs ≠ '?' :: k := ne_of_append_ending_ne ['?'] hquestion
      exact Or.inr ⟨f.skip cs, rfl, by simp [readGroup?, hquestion]⟩

/-! ## All constructs -/

theorem readConstruct?_suffix (h : readConstruct? f c cs = some (x, rest)) :
    rest <:+ c :: cs := by
  unfold readConstruct? at h
  split at h
  case isTrue =>
    obtain ⟨⟩ := h
    exact f.skip_suffix (c :: cs)
  case isFalse =>
    refine List.IsSuffix.trans ?_ (List.suffix_cons c cs)
    split at h
    case h_1 => exact readGroup?_suffix h
    case h_4 =>
      obtain ⟨⟨s, behind⟩, hset, ⟨⟩⟩ := Option.map_eq_some_iff.mp h
      exact readSet?_suffix hset
    case h_8 => exact readCounts?_suffix h
    case h_9 =>
      obtain ⟨⟨p, behind⟩, hescape, ⟨⟩⟩ := Option.map_eq_some_iff.mp h
      exact readEscape?_suffix hescape
    case h_10 =>
      split at h
      case isTrue =>
        obtain ⟨⟩ := h
        exact List.suffix_rfl
      case isFalse => cases h
    case h_5 | h_6 | h_7 =>
      obtain ⟨⟩ := h
      exact dropPreference_suffix cs
    all_goals
      obtain ⟨⟩ := h
      exact List.suffix_rfl

/-- A construct is read alike, or it takes the closing parenthesis, or a brace
    stands behind it that only the ending follows. -/
theorem readConstruct?_append_ending (h : readConstruct? f c (cs ++ ending) = some (x, rest)) :
    rest <:+ ['$'] ∨
      (∃ r, rest = r ++ ending ∧ readConstruct? f c cs = some (x, r)) ∨
      ∃ p inner, x = .atom p ∧ rest = '\x7b' :: inner ∧ f.skip inner = ending := by
  unfold readConstruct? at h ⊢
  split at h
  case isTrue hblank =>
    obtain ⟨⟩ := h
    rw [if_pos hblank, ← List.cons_append]
    obtain ⟨hnone, -⟩ | hskip := f.skip_append_ending (c :: cs)
    · exact Or.inl (hnone ▸ List.nil_suffix)
    · exact Or.inr (Or.inl ⟨_, hskip, rfl⟩)
  case isFalse hblank =>
    rw [if_neg hblank]
    split at h
    case h_1 => exact (readGroup?_append_ending h).imp_right Or.inl
    case h_4 =>
      obtain ⟨⟨s, behind⟩, hset, ⟨⟩⟩ := Option.map_eq_some_iff.mp h
      obtain ⟨r, -, rfl, halone⟩ := readSet?_append_ending hset
      exact Or.inr (Or.inl ⟨r, rfl, by rw [halone]; rfl⟩)
    case h_8 => exact (readCounts?_append_ending h).imp_right Or.inl
    case h_9 =>
      obtain ⟨⟨p, behind⟩, hescape, ⟨⟩⟩ := Option.map_eq_some_iff.mp h
      obtain hend | ⟨r, -, rfl, halone⟩ | ⟨a, inner, rfl, rfl, hinner⟩ :=
        readEscape?_append_ending hescape
      · exact Or.inl hend
      · exact Or.inr (Or.inl ⟨r, rfl, by rw [halone]; rfl⟩)
      · exact Or.inr (Or.inr ⟨_, inner, rfl, rfl, hinner⟩)
    case h_10 =>
      split at h
      case isTrue hunicode =>
        obtain ⟨⟩ := h
        exact Or.inr (Or.inl ⟨cs, rfl, if_pos hunicode⟩)
      case isFalse => exact nomatch h
    case h_5 | h_6 | h_7 =>
      obtain ⟨⟩ := h
      exact Or.inr (Or.inl ⟨_, dropPreference_append_ending cs, rfl⟩)
    case h_13 =>
      obtain ⟨⟩ := h
      refine Or.inr (Or.inl ⟨cs, rfl, ?_⟩)
      simp [*]
    all_goals
      obtain ⟨⟩ := h
      exact Or.inr (Or.inl ⟨cs, rfl, rfl⟩)

/-! ## Closing -/

theorem readGroup?_ne_closing : readGroup? f cs ≠ some (.closing, rest) := by
  have hnamed (k : List Char) : readNamedGroup? f k ≠ some (.closing, rest) := by
    unfold readNamedGroup?
    split <;> simp
  unfold readGroup?
  split
  case h_5 | h_6 => exact hnamed _
  case h_7 =>
    simp only
    split
    case h_1 => simp
    case h_2 => split <;> simp
    case h_3 => simp
  all_goals simp

theorem readCounts?_ne_closing : readCounts? f cs ≠ some (.closing, rest) := by
  unfold readCounts?
  split
  case h_1 =>
    split
    case h_1 => simp
    case h_2 => split <;> simp
  case h_2 => simp
  case h_3 => simp

/-- Only a closing parenthesis is read as one. -/
theorem readConstruct?_closing (h : readConstruct? f c cs = some (.closing, rest)) :
    c = ')' ∧ rest = cs := by
  unfold readConstruct? at h
  split at h
  case isTrue => exact nomatch h
  case isFalse =>
    split at h
    case h_1 => exact absurd h readGroup?_ne_closing
    case h_2 =>
      obtain ⟨⟩ := h
      exact ⟨rfl, rfl⟩
    case h_4 | h_9 =>
      obtain ⟨_, _, ⟨⟩⟩ := Option.map_eq_some_iff.mp h
    case h_8 => exact absurd h readCounts?_ne_closing
    case h_10 => split at h <;> exact nomatch h
    all_goals exact nomatch h

end Cohort.Pattern.Engine
