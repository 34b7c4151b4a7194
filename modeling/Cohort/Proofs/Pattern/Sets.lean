import Cohort.Proofs.Pattern.Escapes

/-! # Sets in front of the ending

    A set in brackets is read to its closing bracket.  The ending has none, so
    a set that begins in the text ends in it, and is read there as it is read
    alone. -/

namespace Cohort.Pattern.Engine

variable {f : Flags} {c : Char} {cs rest : List Char} {x : Primitive} {s : CharSet}

/-! ## Named sets -/

/-- The name of a set to its closing `:]`. -/
def readSetName? (negated : Bool) (cs : List Char) : Option (CharSet × List Char) :=
  match cs.dropWhile (· != ':') with
  | ':' :: ']' :: rest =>
      (CharSet.bracketNamed? (String.ofList (cs.takeWhile (· != ':')))).map fun s =>
        (CharSet.negatedIf negated s, rest)
  | _ => none

theorem readNamedSet?_negated (cs : List Char) :
    readNamedSet? ('[' :: ':' :: '^' :: cs) = readSetName? true cs := rfl

theorem readNamedSet?_plain (h : cs.head? ≠ some '^') :
    readNamedSet? ('[' :: ':' :: cs) = readSetName? false cs := by
  rw [readNamedSet?]
  · rfl
  · rintro k rfl
    exact h rfl

theorem readNamedSet?_of_not (h : ∀ t, cs ≠ '[' :: ':' :: t) : readNamedSet? cs = none := by
  unfold readNamedSet?
  split
  case h_1 => exact absurd rfl (h _)
  case h_2 => rfl

theorem readSetName?_append_ending (negated : Bool) (cs : List Char) :
    readSetName? negated (cs ++ ending) =
      (readSetName? negated cs).map fun (s, r) => (s, r ++ ending) := by
  cases hdrop : cs.dropWhile (· != ':') with
  | nil =>
      have hnone : (cs ++ ending).dropWhile (· != ':') = [] := by
        simp [List.dropWhile_append, hdrop, ending]
      simp [readSetName?, hdrop, hnone]
  | cons c r =>
      have hmore : (cs ++ ending).dropWhile (· != ':') = c :: (r ++ ending) := by
        simp [List.dropWhile_append, hdrop]
      have htake := (dropWhile_through_ending (by decide) hmore).1
      simp only [readSetName?, hdrop, hmore, htake]
      split
      case h_1 _ _ hcolon =>
        obtain ⟨rfl, hbracket⟩ := List.cons_eq_cons.mp hcolon
        obtain ⟨t, rfl, rfl⟩ := front_of_append_ending (by decide) hbracket
        simp only [Option.map_map]
        rfl
      case h_2 hnot =>
        split
        case h_1 _ t hr =>
          obtain ⟨rfl, rfl⟩ := List.cons_eq_cons.mp hr
          exact absurd rfl (hnot (t ++ ending))
        case h_2 => rfl

theorem readSetName?_suffix {negated : Bool} (h : readSetName? negated cs = some (s, rest)) :
    ':' :: ']' :: rest <:+ cs := by
  unfold readSetName? at h
  split at h
  case h_1 hdrop =>
    obtain ⟨_, _, ⟨⟩⟩ := Option.map_eq_some_iff.mp h
    rw [← hdrop]
    exact List.dropWhile_suffix _
  case h_2 => exact nomatch h

/-- What may stand in front where a named set is looked for. -/
theorem namedSet_fronts (cs : List Char) :
    (∃ t, cs = '[' :: ':' :: '^' :: t) ∨ (∃ t, cs = '[' :: ':' :: t ∧ t.head? ≠ some '^') ∨
      ∀ t, cs ≠ '[' :: ':' :: t := by
  by_cases hopen : ∃ t, cs = '[' :: ':' :: t
  · obtain ⟨t, rfl⟩ := hopen
    by_cases hneg : t.head? = some '^'
    · obtain ⟨u, rfl⟩ := List.head?_eq_some_iff.mp hneg
      exact Or.inl ⟨u, rfl⟩
    · exact Or.inr (Or.inl ⟨t, rfl, hneg⟩)
  · exact Or.inr (Or.inr fun t ht => hopen ⟨t, ht⟩)

/-- No named set reaches into the ending. -/
theorem readNamedSet?_append_ending (cs : List Char) :
    readNamedSet? (cs ++ ending) = (readNamedSet? cs).map fun (s, r) => (s, r ++ ending) := by
  obtain ⟨t, rfl⟩ | ⟨t, rfl, hplain⟩ | hnot := namedSet_fronts cs
  · simp only [List.cons_append]
    rw [readNamedSet?_negated, readNamedSet?_negated, readSetName?_append_ending]
  · have hmore : (t ++ ending).head? ≠ some '^' := by
      cases t with
      | nil => decide
      | cons c t => exact hplain
    simp only [List.cons_append]
    rw [readNamedSet?_plain hplain, readNamedSet?_plain hmore, readSetName?_append_ending]
  · have hmore : ∀ t, cs ++ ending ≠ '[' :: ':' :: t := by
      intro t ht
      obtain ⟨u, hu, -⟩ := prefix_of_append_ending ['[', ':'] (by decide) ht
      exact hnot u hu
    rw [readNamedSet?_of_not hnot, readNamedSet?_of_not hmore, Option.map_none]

theorem readNamedSet?_suffix (h : readNamedSet? cs = some (s, rest)) :
    ':' :: ']' :: rest <:+ cs := by
  obtain ⟨t, rfl⟩ | ⟨t, rfl, hplain⟩ | hnot := namedSet_fronts cs
  · rw [readNamedSet?_negated] at h
    exact (readSetName?_suffix h).trans (List.suffix_append ['[', ':', '^'] t)
  · rw [readNamedSet?_plain hplain] at h
    exact (readSetName?_suffix h).trans (List.suffix_append ['[', ':'] t)
  · rw [readNamedSet?_of_not hnot] at h
    exact nomatch h

/-! ## Items -/

theorem readSetItem?_of_ne (hc : c ≠ '\\') :
    readSetItem? f (c :: cs) =
      if (Primitive.literal c).fits f then some (.literal c, cs) else none := by
  simp [readSetItem?]

theorem behind_of_readSetItem? (hc : c ≠ '\\') (h : readSetItem? f (c :: cs) = some (x, rest)) :
    rest = cs := by
  rw [readSetItem?_of_ne hc] at h
  obtain ⟨-, h⟩ := Option.ite_none_right_eq_some.mp h
  obtain ⟨⟩ := h
  rfl

theorem readSetItem?_suffix (h : readSetItem? f cs = some (x, rest)) : rest <:+ cs := by
  cases cs with
  | nil => cases h
  | cons c cs =>
      refine List.IsSuffix.trans ?_ (List.suffix_cons c cs)
      by_cases hc : c = '\\'
      · subst hc
        exact readEscape?_suffix (Option.filter_eq_some_iff.mp h).1
      · obtain rfl := behind_of_readSetItem? hc h
        exact List.suffix_rfl

/-- An item is read alike, or it takes the closing parenthesis, or it is none
    that a set may have. -/
theorem readSetItem?_append_ending (h : readSetItem? f (cs ++ ending) = some (x, rest)) :
    rest <:+ ['$'] ∨
      (∃ r, r.length < cs.length ∧ rest = r ++ ending ∧ readSetItem? f cs = some (x, r)) ∨
      ∃ a, x = .assertion a := by
  cases cs with
  | nil =>
      rw [behind_of_readSetItem? (by decide) h]
      exact Or.inl List.suffix_rfl
  | cons c cs =>
      rw [List.cons_append] at h
      by_cases hc : c = '\\'
      · subst hc
        obtain ⟨hread, hfits⟩ := Option.filter_eq_some_iff.mp h
        obtain hend | ⟨r, hr, hrest, halone⟩ | ⟨a, _, ha, _⟩ := readEscape?_append_ending hread
        · exact Or.inl hend
        · exact Or.inr (Or.inl ⟨r, Nat.lt_succ_of_le hr, hrest,
            Option.filter_eq_some_iff.mpr ⟨halone, hfits⟩⟩)
        · exact Or.inr (Or.inr ⟨a, ha⟩)
      · rw [readSetItem?_of_ne hc] at h ⊢
        obtain ⟨hfits, h⟩ := Option.ite_none_right_eq_some.mp h
        obtain ⟨⟩ := h
        exact Or.inr (Or.inl ⟨cs, Nat.lt_succ_self _, rfl, if_pos hfits⟩)

/-! ## Ranges -/

/-- What an item is as a part of a set. -/
def Primitive.set? : Primitive → Option CharSet
  | .literal c => some (CharSet.single c)
  | .set s => some s
  | .assertion _ => none

/-- The range between two characters. -/
def Primitive.range? : Primitive → Primitive → Option CharSet
  | .literal a, .literal b => if a ≤ b then some (.range a.toNat b.toNat) else none
  | _, _ => none

/-- Behind an item, a hyphen begins a range, unless the set ends or an operation
    follows. -/
def Flags.goesOn (f : Flags) : List Char → Bool
  | [] => true
  | '-' :: m => (f.skip m).head?.all fun c => c != ']' && c != '-'
  | _ => false

/-- The range from an item on, behind it. -/
def rangeFrom? (f : Flags) (first : Primitive) : List Char → Option (CharSet × List Char)
  | '-' :: m => (readSetItem? f (f.skip m)).bind fun (last, rest) =>
      (first.range? last).map (·, rest)
  | _ => none

/-- A part of a set, behind its first item. -/
def partFrom? (f : Flags) (first : Primitive) (cs : List Char) : Option (CharSet × List Char) :=
  if f.goesOn cs then rangeFrom? f first cs else first.set?.map (·, cs)

theorem readSetRange?_eq (f : Flags) (cs : List Char) :
    readSetRange? f cs = (readSetItem? f cs).bind fun (first, behind) =>
      partFrom? f first (f.skip behind) := by
  rw [readSetRange?]
  refine congrArg _ (funext fun (first, behind) => ?_)
  simp only [partFrom?]
  split
  case h_1 hskip => simp [hskip, Flags.goesOn, rangeFrom?]
  case h_2 m hskip =>
    simp only [hskip, Flags.goesOn, rangeFrom?]
    split
    case h_1 hm => simp [hm, readSetItem?]
    case h_2 hm | h_3 hm => cases first <;> simp [hm, Primitive.set?]
    case h_4 hnil hbracket hhyphen =>
      cases hm : f.skip m with
      | nil => exact absurd hm hnil
      | cons c t =>
          have hbracket : c ≠ ']' := fun hc => hbracket t (by rw [hm, hc])
          have hhyphen : c ≠ '-' := fun hc => hhyphen t (by rw [hm, hc])
          rw [if_pos (by simp [hbracket, hhyphen])]
          refine congrArg _ (funext fun (last, rest) => ?_)
          cases first <;> cases last <;> simp only [Primitive.range?, Option.map_none]
          split <;> rfl
  case h_3 hnil hhyphen =>
    cases hskip : f.skip behind with
    | nil => exact absurd hskip hnil
    | cons c t =>
        have hhyphen : c ≠ '-' := fun hc => hhyphen t (by rw [hskip, hc])
        have hon : f.goesOn (c :: t) = false := by simp [Flags.goesOn, hhyphen]
        cases first <;> simp [hon, Primitive.set?]

theorem rangeFrom?_suffix (h : rangeFrom? f x cs = some (s, rest)) : rest <:+ cs := by
  unfold rangeFrom? at h
  split at h
  case h_1 _ m =>
    obtain ⟨⟨last, behind⟩, hitem, h⟩ := Option.bind_eq_some_iff.mp h
    obtain ⟨s, -, ⟨⟩⟩ := Option.map_eq_some_iff.mp h
    exact ((readSetItem?_suffix hitem).trans (f.skip_suffix m)).trans (List.suffix_cons _ m)
  case h_2 => exact nomatch h

theorem partFrom?_suffix (h : partFrom? f x cs = some (s, rest)) : rest <:+ cs := by
  rw [partFrom?] at h
  split at h
  case isTrue => exact rangeFrom?_suffix h
  case isFalse =>
    obtain ⟨s, -, ⟨⟩⟩ := Option.map_eq_some_iff.mp h
    exact List.suffix_rfl

theorem readSetRange?_suffix (h : readSetRange? f cs = some (s, rest)) : rest <:+ cs := by
  rw [readSetRange?_eq] at h
  obtain ⟨⟨first, behind⟩, hitem, h⟩ := Option.bind_eq_some_iff.mp h
  exact ((partFrom?_suffix h).trans (f.skip_suffix behind)).trans (readSetItem?_suffix hitem)

theorem rangeFrom?_append_ending (h : rangeFrom? f x (cs ++ ending) = some (s, rest)) :
    rest <:+ ['$'] ∨
      ∃ r, r.length ≤ cs.length ∧ rest = r ++ ending ∧ rangeFrom? f x cs = some (s, r) := by
  unfold rangeFrom? at h
  split at h
  case h_1 _ m hcs =>
    obtain ⟨m, rfl, rfl⟩ := front_of_append_ending (by decide) hcs
    obtain ⟨⟨last, behind⟩, hitem, h⟩ := Option.bind_eq_some_iff.mp h
    obtain ⟨s, hs, ⟨⟩⟩ := Option.map_eq_some_iff.mp h
    have hlen := f.length_skip_le m
    obtain ⟨hnone, -⟩ | hskip := f.skip_append_ending m
    · simp [hnone, readSetItem?] at hitem
    · rw [hskip] at hitem
      obtain hend | ⟨r, hr, hrest, halone⟩ | ⟨a, rfl⟩ := readSetItem?_append_ending hitem
      · exact Or.inl hend
      · refine Or.inr ⟨r, ?_, hrest, by simp [rangeFrom?, halone, hs]⟩
        simp only [List.length_cons]
        omega
      · cases x <;> exact nomatch hs
  case h_2 => exact nomatch h

/-- Behind an item the set goes on in front of the ending as it does alone, if
    anything stands there at all. -/
theorem Flags.goesOn_append_ending (hcs : cs ≠ []) : f.goesOn (cs ++ ending) = f.goesOn cs := by
  cases cs with
  | nil => exact absurd rfl hcs
  | cons c cs =>
      by_cases hc : c = '-'
      · subst hc
        simp only [List.cons_append, Flags.goesOn]
        obtain ⟨hnone, halone⟩ | hskip := f.skip_append_ending cs
        · rw [hnone, halone]
        · rw [hskip]
          cases f.skip cs with
          | nil => decide
          | cons d t => rfl
      · simp [Flags.goesOn, hc]

theorem partFrom?_append_ending (h : partFrom? f x (cs ++ ending) = some (s, rest)) :
    rest <:+ ending ∨
      ∃ r, r.length ≤ cs.length ∧ rest = r ++ ending ∧ partFrom? f x cs = some (s, r) := by
  by_cases hcs : cs = []
  · rw [hcs, List.nil_append] at h
    exact Or.inl (partFrom?_suffix h)
  · rw [partFrom?, f.goesOn_append_ending hcs] at h
    split at h
    case isTrue hon =>
      obtain hend | ⟨r, hr, hrest, halone⟩ := rangeFrom?_append_ending h
      · exact Or.inl (hend.trans (List.suffix_cons _ _))
      · exact Or.inr ⟨r, hr, hrest, by rw [partFrom?, if_pos hon, halone]⟩
    case isFalse hoff =>
      obtain ⟨s, hs, ⟨⟩⟩ := Option.map_eq_some_iff.mp h
      exact Or.inr ⟨cs, Nat.le_refl _, rfl, by rw [partFrom?, if_neg hoff, hs, Option.map_some]⟩

theorem partFrom?_assertion (a : Assertion) : partFrom? f (.assertion a) cs = none := by
  have hnone : rangeFrom? f (.assertion a) cs = none := by
    unfold rangeFrom?
    split <;> simp [Primitive.range?]
  simp [partFrom?, hnone, Primitive.set?]

/-- A part of a set is read alike, or the ending is reached behind it. -/
theorem readSetRange?_append_ending (h : readSetRange? f (cs ++ ending) = some (s, rest)) :
    rest <:+ ending ∨
      ∃ r, r.length < cs.length ∧ rest = r ++ ending ∧ readSetRange? f cs = some (s, r) := by
  rw [readSetRange?_eq] at h
  obtain ⟨⟨first, behind⟩, hitem, h⟩ := Option.bind_eq_some_iff.mp h
  simp only at h
  obtain hend | ⟨r, hr, rfl, halone⟩ | ⟨a, rfl⟩ := readSetItem?_append_ending hitem
  · have hend : behind <:+ ending := hend.trans (List.suffix_cons _ _)
    rw [f.skip_of_suffix_ending hend] at h
    exact Or.inl ((partFrom?_suffix h).trans hend)
  · have hlen := f.length_skip_le r
    obtain ⟨hnone, -⟩ | hskip := f.skip_append_ending r
    · rw [hnone] at h
      exact nomatch h
    · rw [hskip] at h
      refine (partFrom?_append_ending h).imp_right ?_
      rintro ⟨t, ht, hrest, hpart⟩
      exact ⟨t, by omega, hrest, by simp [readSetRange?_eq, halone, hpart]⟩
  · rw [partFrom?_assertion] at h
    exact nomatch h

/-! ## Whole sets -/

/-- Behind its opening bracket a set may be negated. -/
def Flags.readNegation (f : Flags) (cs : List Char) : Bool × List Char :=
  match f.skip cs with
  | '^' :: cs => (true, f.skip cs)
  | cs => (false, cs)

/-- The hyphens that stand first in a set, or the closing bracket that stands
    first, and what is left. -/
def Flags.readFirst (f : Flags) (cs : List Char) : List CharSet × List Char :=
  let hyphens := cs.takeWhile (· == '-')
  match f.skip (cs.dropWhile (· == '-')) with
  | ']' :: rest =>
      if hyphens.isEmpty then ([CharSet.single ']'], rest)
      else (hyphens.map CharSet.single, ']' :: rest)
  | cs => (hyphens.map CharSet.single, cs)

theorem Flags.readFirst_bracket {cs rest : List Char}
    (h : f.skip (cs.dropWhile (· == '-')) = ']' :: rest) :
    f.readFirst cs = if (cs.takeWhile (· == '-')).isEmpty then ([CharSet.single ']'], rest)
      else ((cs.takeWhile (· == '-')).map CharSet.single, ']' :: rest) := by
  rw [readFirst]
  simp only [h]

theorem Flags.readFirst_plain {cs : List Char}
    (h : ∀ rest, f.skip (cs.dropWhile (· == '-')) ≠ ']' :: rest) :
    f.readFirst cs =
      ((cs.takeWhile (· == '-')).map CharSet.single, f.skip (cs.dropWhile (· == '-'))) := by
  rw [readFirst]
  split
  case h_1 rest hrest => exact absurd hrest (h rest)
  case h_2 => rfl

theorem openSet?_eq (room : Nat) (cs : List Char) :
    readSetParts?.openSet? f room cs =
      readSetParts? f room (f.readNegation cs).1 none (f.readFirst (f.readNegation cs).2).1
        (f.readFirst (f.readNegation cs).2).2 := by
  rw [readSetParts?.openSet?]
  split
  case h_1 _ negated inner hinner =>
    have hnegation : f.readNegation cs = (negated, inner) := hinner
    rw [hnegation]
    simp only
    split
    case h_1 k hk =>
      rw [Flags.readFirst_bracket hk]
      split <;> rfl
    case h_2 hnot => rw [Flags.readFirst_plain hnot]

theorem Flags.readNegation_append_ending (f : Flags) (cs : List Char) :
    (f.readNegation (cs ++ ending)).2 = [] ∨
      f.readNegation (cs ++ ending) = ((f.readNegation cs).1, (f.readNegation cs).2 ++ ending) := by
  obtain ⟨hnone, -⟩ | hskip := f.skip_append_ending cs
  · simp [readNegation, hnone]
  · rw [readNegation, hskip, readNegation]
    split
    case h_1 _ k hk =>
      obtain ⟨k, halone, rfl⟩ := front_of_append_ending (by decide) hk
      rw [halone]
      obtain ⟨hnone, -⟩ | hskip := f.skip_append_ending k
      · exact Or.inl hnone
      · exact Or.inr (by simp only [hskip])
    case h_2 hnot =>
      right
      split
      case h_1 k hk => exact absurd (by rw [hk]; rfl) (hnot (k ++ ending))
      case h_2 => rfl

theorem Flags.readNegation_suffix (f : Flags) (cs : List Char) :
    (f.readNegation cs).2 <:+ cs := by
  have hskip := f.skip_suffix cs
  rw [readNegation]
  split
  case h_1 k hk =>
    rw [hk] at hskip
    exact ((f.skip_suffix k).trans (List.suffix_cons _ k)).trans hskip
  case h_2 => exact hskip

theorem Flags.readFirst_append_ending (f : Flags) (cs : List Char) :
    (f.readFirst (cs ++ ending)).2 = [] ∨
      f.readFirst (cs ++ ending) = ((f.readFirst cs).1, (f.readFirst cs).2 ++ ending) := by
  simp only [readFirst]
  rw [takeWhile_append_ending (by decide), dropWhile_append_ending (by decide)]
  obtain ⟨hnone, -⟩ | hskip := f.skip_append_ending (cs.dropWhile (· == '-'))
  · simp [hnone]
  · rw [hskip]
    right
    split
    case h_1 _ k hk =>
      obtain ⟨k, halone, rfl⟩ := front_of_append_ending (by decide) hk
      rw [halone]
      simp only
      split <;> rfl
    case h_2 hnot =>
      split
      case h_1 k hk => exact absurd (by rw [hk]; rfl) (hnot (k ++ ending))
      case h_2 => rfl

theorem Flags.readFirst_suffix (f : Flags) (cs : List Char) : (f.readFirst cs).2 <:+ cs := by
  have hskip := (f.skip_suffix (cs.dropWhile (· == '-'))).trans (List.dropWhile_suffix _)
  simp only [readFirst]
  split
  case h_1 k hk =>
    rw [hk] at hskip
    split
    · exact (List.suffix_cons _ k).trans hskip
    · exact hskip
  case h_2 => exact hskip

variable {negated : Bool} {waiting : Option (CharSet × SetOp)} {parts : List CharSet} {room : Nat}

theorem readSetParts?_suffix (h : readSetParts? f room negated waiting parts cs = some (s, rest)) :
    rest <:+ cs := by
  induction room generalizing negated waiting parts cs s rest with
  | zero =>
      rw [readSetParts?] at h
      cases h
  | succ room ih =>
      refine List.IsSuffix.trans ?_ (f.skip_suffix cs)
      rw [readSetParts?] at h
      split at h
      case h_1 => cases h
      case h_2 k hk =>
        rw [hk]
        simp only at h
        split at h
        case isTrue => cases h
        case isFalse =>
          obtain ⟨⟩ := h
          exact List.suffix_cons _ rest
      case h_3 k hk | h_4 k hk | h_5 k hk =>
        rw [hk]
        exact (ih h).trans (List.suffix_append [_, _] k)
      case h_6 k hk =>
        rw [hk]
        split at h
        case h_1 t u hnamed =>
          exact ((ih h).trans (List.suffix_append [':', ']'] u)).trans (readNamedSet?_suffix hnamed)
        case h_2 =>
          obtain ⟨⟨t, u⟩, hopen, h⟩ := Option.bind_eq_some_iff.mp h
          rw [openSet?_eq] at hopen
          have hinner := ((ih hopen).trans (f.readFirst_suffix _)).trans (f.readNegation_suffix k)
          exact ((ih h).trans hinner).trans (List.suffix_cons _ k)
      case h_7 =>
        obtain ⟨⟨t, u⟩, hrange, h⟩ := Option.bind_eq_some_iff.mp h
        exact (ih h).trans (readSetRange?_suffix hrange)

theorem readSet?_suffix (h : readSet? f cs = some (s, rest)) : rest <:+ cs := by
  rw [readSet?, openSet?_eq] at h
  exact ((readSetParts?_suffix h).trans (f.readFirst_suffix _)).trans (f.readNegation_suffix cs)

/-- The ending has no bracket that closes a set. -/
theorem readSetParts?_of_suffix_ending (hcs : cs <:+ ending) :
    readSetParts? f room negated waiting parts cs = none := by
  induction room generalizing parts cs with
  | zero => rw [readSetParts?]
  | succ room ih =>
      have hparts : ∀ t rest, readSetRange? f cs = some (t, rest) →
          readSetParts? f room negated waiting (t :: parts) rest = none :=
        fun t rest h => ih ((readSetRange?_suffix h).trans hcs)
      rw [readSetParts?, f.skip_of_suffix_ending hcs]
      obtain rfl | rfl | rfl := suffix_ending_iff.mp hcs
      · exact Option.bind_eq_none_iff.mpr fun part h => hparts part.1 part.2 h
      · exact Option.bind_eq_none_iff.mpr fun part h => hparts part.1 part.2 h
      · rfl

/-- From some part of it, a set ends in the text, and alone it is read within
    any room that is enough for the text. -/
def EndsInText (f : Flags) (negated : Bool) (waiting : Option (CharSet × SetOp))
    (parts : List CharSet) (cs : List Char) (s : CharSet) (rest : List Char) : Prop :=
  ∃ r, r.length < cs.length ∧ rest = r ++ ending ∧ ∀ enough, cs.length ≤ enough →
    readSetParts? f (enough + 1) negated waiting parts cs = some (s, r)

/-- Within so much room, every set that ends does so in the text. -/
def SetsEndInText (f : Flags) (room : Nat) : Prop :=
  ∀ ⦃negated waiting parts cs s rest⦄,
    readSetParts? f room negated waiting parts (cs ++ ending) = some (s, rest) →
      EndsInText f negated waiting parts cs s rest

namespace SetsEndInText

/-- What comes behind a part of a set takes less room than the set. -/
theorem behind {t : List Char} (hends : SetsEndInText f room) (ht : t.length < cs.length)
    (h : readSetParts? f room negated waiting parts (t ++ ending) = some (s, rest)) :
    ∃ r, r.length < cs.length ∧ rest = r ++ ending ∧ ∀ enough, cs.length ≤ enough →
      readSetParts? f enough negated waiting parts t = some (s, r) := by
  obtain ⟨r, hr, hrest, halone⟩ := hends h
  refine ⟨r, by omega, hrest, fun enough henough => ?_⟩
  obtain ⟨enough, rfl⟩ := Nat.exists_eq_succ_of_ne_zero (by omega : enough ≠ 0)
  exact halone enough (by omega)

theorem openSet? (hends : SetsEndInText f room)
    (h : readSetParts?.openSet? f room (cs ++ ending) = some (s, rest)) :
    ∃ r, r.length < cs.length ∧ rest = r ++ ending ∧ ∀ enough, cs.length ≤ enough →
      readSetParts?.openSet? f (enough + 1) cs = some (s, r) := by
  rw [openSet?_eq] at h
  have hnegation := (f.readNegation_suffix cs).length_le
  have hfirst := (f.readFirst_suffix (f.readNegation cs).2).length_le
  obtain hnil | hneg := f.readNegation_append_ending cs
  · have hnil : (f.readFirst (f.readNegation (cs ++ ending)).2).2 = [] := by
      rw [hnil]
      simp [Flags.readFirst, f.skip_nil]
    rw [hnil, readSetParts?_of_suffix_ending List.nil_suffix] at h
    exact nomatch h
  · rw [hneg] at h
    obtain hnil | hmore := f.readFirst_append_ending (f.readNegation cs).2
    · rw [hnil, readSetParts?_of_suffix_ending List.nil_suffix] at h
      exact nomatch h
    · rw [hmore] at h
      obtain ⟨r, hr, hrest, halone⟩ := hends h
      refine ⟨r, by omega, hrest, fun enough henough => ?_⟩
      rw [openSet?_eq]
      exact halone enough (by omega)

variable {k : List Char}

/-- A named set is a part. -/
theorem named {t : CharSet} {u : List Char} (hends : SetsEndInText f room)
    (hk : f.skip cs = '[' :: k) (hnamed : readNamedSet? ('[' :: k) = some (t, u))
    (h : readSetParts? f room negated waiting (t :: parts) (u ++ ending) = some (s, rest)) :
    EndsInText f negated waiting parts cs s rest := by
  have hlen := f.length_skip_le cs
  have hshort := (readNamedSet?_suffix hnamed).length_le
  rw [hk] at hlen
  simp only [List.length_cons] at hlen hshort
  obtain ⟨r, hr, hrest, hread⟩ := hends.behind (by omega : u.length < cs.length) h
  refine ⟨r, hr, hrest, fun enough henough => ?_⟩
  rw [readSetParts?, hk]
  simp only [hnamed]
  exact hread enough henough

/-- A set within a set is a part. -/
theorem nested {t : CharSet} {behind : List Char} (hends : SetsEndInText f room)
    (hk : f.skip cs = '[' :: k) (hnamed : readNamedSet? ('[' :: k) = none)
    (hopen : readSetParts?.openSet? f room (k ++ ending) = some (t, behind))
    (h : readSetParts? f room negated waiting (t :: parts) behind = some (s, rest)) :
    EndsInText f negated waiting parts cs s rest := by
  have hlen := f.length_skip_le cs
  rw [hk, List.length_cons] at hlen
  obtain ⟨u, hu, rfl, hinner⟩ := hends.openSet? hopen
  obtain ⟨r, hr, hrest, hread⟩ := hends.behind (by omega : u.length < cs.length) h
  refine ⟨r, hr, hrest, fun enough henough => ?_⟩
  rw [readSetParts?, hk]
  simp only [hnamed]
  -- Of the room left behind the bracket, one more is for the set within.
  obtain ⟨enough, rfl⟩ := Nat.exists_eq_succ_of_ne_zero (by omega : enough ≠ 0)
  rw [hinner enough (by omega)]
  exact hread _ henough

/-- An item or a range is a part, where nothing else begins. -/
theorem ranged {t : CharSet} {behind : List Char} (hends : SetsEndInText f room)
    (hrange : readSetRange? f (f.skip cs ++ ending) = some (t, behind))
    (h : readSetParts? f room negated waiting (t :: parts) behind = some (s, rest))
    (hplain : ∀ enough, f.skip cs ≠ [] → readSetParts? f (enough + 1) negated waiting parts cs =
      (readSetRange? f (f.skip cs)).bind fun (t, behind) =>
        readSetParts? f enough negated waiting (t :: parts) behind) :
    EndsInText f negated waiting parts cs s rest := by
  have hlen := f.length_skip_le cs
  obtain hend | ⟨u, hu, rfl, halone⟩ := readSetRange?_append_ending hrange
  · rw [readSetParts?_of_suffix_ending hend] at h
    exact nomatch h
  · have hsome : f.skip cs ≠ [] := List.ne_nil_of_length_pos (by omega)
    obtain ⟨r, hr, hrest, hread⟩ := hends.behind (by omega : u.length < cs.length) h
    refine ⟨r, hr, hrest, fun enough henough => ?_⟩
    rw [hplain enough hsome, halone]
    exact hread enough henough

end SetsEndInText

/-- **SETS END IN THE TEXT**: whatever the ending is taken for, it does not close
    a set, so the closing bracket is one of the text. -/
theorem setsEndInText (f : Flags) (room : Nat) : SetsEndInText f room := by
  induction room with
  | zero =>
      intro negated waiting parts cs s rest h
      simp [readSetParts?] at h
  | succ room ih =>
      intro negated waiting parts cs s rest h
      have hlen := f.length_skip_le cs
      rw [readSetParts?] at h
      obtain ⟨hnone, -⟩ | hskip := f.skip_append_ending cs
      · simp [hnone] at h
      · rw [hskip] at h
        split at h
        case h_1 hnil => simp [ending] at hnil
        case h_2 _ k hk =>
          obtain ⟨k, halone, rfl⟩ := front_of_append_ending (by decide) hk
          simp only at h
          split at h
          case isTrue => cases h
          case isFalse hunicode =>
            obtain ⟨⟩ := h
            rw [halone, List.length_cons] at hlen
            refine ⟨k, by omega, rfl, fun enough _ => ?_⟩
            simp [readSetParts?, halone, hunicode]
        case h_3 _ k hk | h_4 _ k hk | h_5 _ k hk =>
          obtain ⟨k, halone, rfl⟩ := prefix_of_append_ending [_, _] (by decide) hk
          rw [halone, List.length_append] at hlen
          obtain ⟨r, hr, hrest, hread⟩ := ih.behind (by grind : k.length < cs.length) h
          refine ⟨r, hr, hrest, fun enough henough => ?_⟩
          rw [readSetParts?, halone]
          exact hread enough henough
        case h_6 _ k hk =>
          obtain ⟨k, halone, rfl⟩ := front_of_append_ending (by decide) hk
          rw [← List.cons_append, readNamedSet?_append_ending] at h
          cases hnamed : readNamedSet? ('[' :: k) with
          | some part =>
              rw [hnamed, Option.map_some] at h
              exact ih.named halone hnamed h
          | none =>
              rw [hnamed, Option.map_none] at h
              obtain ⟨part, hopen, h⟩ := Option.bind_eq_some_iff.mp h
              exact ih.nested halone hnamed hopen h
        case h_7 _ _ hclose hinter hminus hsymm hopen =>
          obtain ⟨part, hrange, h⟩ := Option.bind_eq_some_iff.mp h
          refine ih.ranged hrange h fun enough hsome => ?_
          rw [readSetParts?]
          split
          case h_1 hnil => exact absurd hnil hsome
          case h_2 _ k hk => exact (ne_of_append_ending_ne [']'] hclose k hk).elim
          case h_3 _ k hk => exact (ne_of_append_ending_ne ['&', '&'] hinter k hk).elim
          case h_4 _ k hk => exact (ne_of_append_ending_ne ['-', '-'] hminus k hk).elim
          case h_5 _ k hk => exact (ne_of_append_ending_ne ['~', '~'] hsymm k hk).elim
          case h_6 _ k hk => exact (ne_of_append_ending_ne ['['] hopen k hk).elim
          case h_7 => rfl

/-- A set in brackets is read alike. -/
theorem readSet?_append_ending (h : readSet? f (cs ++ ending) = some (s, rest)) :
    ∃ r, r.length < cs.length ∧ rest = r ++ ending ∧ readSet? f cs = some (s, r) := by
  obtain ⟨r, hr, hrest, halone⟩ := SetsEndInText.openSet? (setsEndInText f _) h
  exact ⟨r, hr, hrest, halone (2 * cs.length + 1) (by omega)⟩

end Cohort.Pattern.Engine
