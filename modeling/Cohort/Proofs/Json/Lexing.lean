import Cohort.Json.Reader
import Cohort.Json.Writer
import Cohort.Proofs.Decimal.Digits

/-! # The lexemes of what is written

    The lexer reads one character at a time, so what it makes of a text is put
    together from what it makes of the parts.  A bracket, a separator and a
    string are complete by themselves.  A number or a word is complete when a
    character follows that cannot be part of it, and behind a value that is
    written nothing else follows. -/

namespace Cohort.Json

variable {c : Char} {cs cs' rest : List Char} {found ls ls' : List Lexeme} {mode next : Mode}

/-! ## Parts of a text -/

/-- A character that a number or a word ends in front of. -/
def endsWord (c : Char) : Bool :=
  isSpace c || c == '"' || (punctuation? c).isSome

/-- Nothing stands there, or something that a number or a word ends in front of. -/
def Ended (cs : List Char) : Prop :=
  ∀ c ∈ cs.head?, endsWord c = true

/-- The text has these lexemes, whatever stands behind it. -/
def Lexes (cs : List Char) (ls : List Lexeme) : Prop :=
  ∀ found rest, lexemes found .between (cs ++ rest) = lexemes (ls.reverse ++ found) .between rest

/-- The text has these lexemes where a number or a word may end. -/
def LexesAtEnd (cs : List Char) (ls : List Lexeme) : Prop :=
  ∀ found rest, Ended rest →
    lexemes found .between (cs ++ rest) = lexemes (ls.reverse ++ found) .between rest

theorem Lexes.atEnd (h : Lexes cs ls) : LexesAtEnd cs ls :=
  fun found rest _ => h found rest

theorem lexes_nil : Lexes [] [] :=
  fun _ _ => rfl

theorem Lexes.append (h : Lexes cs ls) (h' : Lexes cs' ls') : Lexes (cs ++ cs') (ls ++ ls') := by
  intro found rest
  rw [List.append_assoc, h, h', List.reverse_append, List.append_assoc]

theorem Lexes.append_atEnd (h : Lexes cs ls) (h' : LexesAtEnd cs' ls') :
    LexesAtEnd (cs ++ cs') (ls ++ ls') := by
  intro found rest hrest
  rw [List.append_assoc, h, h' _ _ hrest, List.reverse_append, List.append_assoc]

/-- A word may end in front of a text, if it does in front of its first character. -/
theorem LexesAtEnd.append (h : LexesAtEnd cs ls) (hc : endsWord c = true)
    (h' : Lexes (c :: cs') ls') : Lexes (cs ++ c :: cs') (ls ++ ls') := by
  intro found rest
  have hended : Ended (c :: cs' ++ rest) := by
    rintro d ⟨⟩
    exact hc
  rw [List.append_assoc, h _ _ hended, h', List.reverse_append, List.append_assoc]

theorem lexemes_cons {new : List Lexeme} (h : mode.step c = some (next, new)) :
    lexemes found mode (c :: cs) = lexemes (new.reverse ++ found) next cs := by
  rw [lexemes, h]

/-! ## Blanks, brackets and separators -/

theorem lexes_spaces (h : ∀ c ∈ cs, isSpace c = true) : Lexes cs [] := by
  induction cs with
  | nil => exact lexes_nil
  | cons c cs ih =>
      obtain ⟨hc, hcs⟩ := List.forall_mem_cons.mp h
      intro found rest
      have hstep : Mode.between.step c = some (.between, []) := by
        rw [Mode.step, stepBetween, if_pos hc]
      rw [List.cons_append, lexemes_cons hstep]
      exact ih hcs found rest

/-- A bracket or separator is neither a blank nor a quote. -/
theorem step_punctuation {l : Lexeme} (h : punctuation? c = some l) :
    Mode.between.step c = some (.between, [l]) := by
  have hplain : isSpace c = false ∧ c ≠ '"' := by
    simp only [punctuation?] at h
    grind [isSpace]
  rw [Mode.step, stepBetween, if_neg (by simp [hplain.1]), if_neg hplain.2, h]

theorem lexes_punctuation {l : Lexeme} (h : punctuation? c = some l) : Lexes [c] [l] := by
  intro found rest
  rw [List.cons_append, lexemes_cons (step_punctuation h)]
  rfl

theorem toList_newLine (level : Nat) :
    (newLine level).toList = '\n' :: List.replicate (2 * level) ' ' := by
  simp [newLine, String.toList_append]

theorem lexes_newLine (level : Nat) : Lexes ('\n' :: List.replicate (2 * level) ' ') [] := by
  refine lexes_spaces (List.forall_mem_cons.mpr ⟨rfl, fun c hc => ?_⟩)
  rw [List.eq_of_mem_replicate hc]
  rfl

/-! ## Strings -/

theorem unitDigit?_hexDigit : ∀ n < 16, unitDigit? (Text.hexDigit n) = some n := by
  decide

/-- Two digits behind `\u00` stand for the code point that they write. -/
theorem lexemes_code (found : List Lexeme) (read rest : List Char) {high low : Nat}
    (hhigh : high < 2) (hlow : low < 16) :
    lexemes found (.text read)
        ('\\' :: 'u' :: '0' :: '0' :: Text.hexDigit high :: Text.hexDigit low :: rest)
      = lexemes found (.text (Char.ofNat (16 * high + low) :: read)) rest := by
  have hfirst := unitDigit?_hexDigit high (by omega)
  have hlast := unitDigit?_hexDigit low hlow
  have hunit : afterUnit read (16 * high + low) none
      = some (.text (Char.ofNat (16 * high + low) :: read)) := by
    rw [afterUnit, if_neg (by omega), if_neg (by omega)]
  have hzero : unitDigit? '0' = some 0 := by decide
  simp [lexemes, Mode.step, hzero, hfirst, hlast, hunit]

/-- What a character is written as within quotes is read as that character. -/
theorem lexemes_documentEscape (found : List Lexeme) (read rest : List Char) (c : Char) :
    lexemes found (.text read) (Text.documentEscape c ++ rest)
      = lexemes found (.text (c :: read)) rest := by
  rw [Text.documentEscape]
  -- a case for each escape, in the order in which they are tried
  split
  case isTrue hc => subst hc; rfl
  case isFalse hquote =>
  split
  case isTrue hc => subst hc; rfl
  case isFalse hbackslash =>
  split
  case isTrue hc => subst hc; rfl
  case isFalse =>
  split
  case isTrue hc => subst hc; rfl
  case isFalse =>
  split
  case isTrue hc => subst hc; rfl
  case isFalse =>
  split
  case isTrue hc =>
    rw [← Char.ofNat_toNat c, hc]
    rfl
  case isFalse =>
  split
  case isTrue hc =>
    rw [← Char.ofNat_toNat c, hc]
    rfl
  case isFalse =>
  split
  case isTrue hcontrol =>
    -- the digits of a control character stand for its own code point
    have hcode : 16 * (c.toNat / 16) + c.toNat % 16 = c.toNat := Nat.div_add_mod _ _
    have hhigh : c.toNat / 16 < 2 := by omega
    have hlow : c.toNat % 16 < 16 := Nat.mod_lt c.toNat (by decide)
    have hread := lexemes_code found read rest hhigh hlow
    rw [hcode, Char.ofNat_toNat] at hread
    exact hread
  case isFalse hplain =>
    have hstep : (Mode.text read).step c = some (.text (c :: read), []) := by
      rw [Mode.step, if_neg hquote, if_neg hbackslash, if_neg hplain]
    rw [List.singleton_append, lexemes_cons hstep]
    rfl

theorem lexemes_flatMap_documentEscape (found : List Lexeme) (read cs rest : List Char) :
    lexemes found (.text read) (cs.flatMap Text.documentEscape ++ rest)
      = lexemes found (.text (cs.reverse ++ read)) rest := by
  induction cs generalizing read with
  | nil => rfl
  | cons c cs ih =>
      rw [List.flatMap_cons, List.append_assoc, lexemes_documentEscape, ih, List.reverse_cons,
        List.append_assoc]
      rfl

/-- A string in quotes is one lexeme. -/
theorem lexes_quoted (s : String) : Lexes (Text.documentQuoted s).toList [.text s] := by
  intro found rest
  have htext : (Text.documentQuoted s).toList ++ rest
      = '"' :: (s.toList.flatMap Text.documentEscape ++ ('"' :: rest)) := by
    simp [Text.documentQuoted]
  have hopen : Mode.between.step '"' = some (.text [], []) := rfl
  have hclose : (Mode.text s.toList.reverse).step '"' = some (.between, [.text s]) := by
    rw [Mode.step, if_pos rfl, List.reverse_reverse, String.ofList_toList]
  rw [htext, lexemes_cons hopen, lexemes_flatMap_documentEscape, List.append_nil,
    lexemes_cons hclose]
  rfl

/-! ## Numbers and words -/

/-- Within a word every character is collected. -/
theorem lexemes_word {read : List Char} (h : ∀ c ∈ cs, endsWord c = false) :
    lexemes found (.word read) (cs ++ rest) = lexemes found (.word (cs.reverse ++ read)) rest := by
  induction cs generalizing read with
  | nil => rfl
  | cons c cs ih =>
      obtain ⟨hc, hcs⟩ := List.forall_mem_cons.mp h
      have hstep : (Mode.word read).step c = some (.word (c :: read), []) := by
        rw [Mode.step, if_neg (by simpa [endsWord] using hc)]
      rw [List.cons_append, lexemes_cons hstep, List.reverse_nil, List.nil_append, ih hcs,
        List.reverse_cons, List.append_assoc]
      rfl

/-- A word ends where the text does, or in front of what ends it. -/
theorem lexemes_endOfWord {read : List Char} {v : Json} (h : word? read.reverse = some v)
    (hrest : Ended rest) :
    lexemes found (.word read) rest = lexemes (.scalar v :: found) .between rest := by
  cases rest with
  | nil =>
      have hfinish : (Mode.word read).finish = some [.scalar v] := by
        rw [Mode.finish, h, Option.map_some]
      rw [lexemes, lexemes, hfinish]
      rfl
  | cons c rest =>
      have hc : endsWord c = true := hrest c rfl
      have hstep : (Mode.word read).step c
          = some ((stepBetween c).1, .scalar v :: (stepBetween c).2) := by
        rw [endsWord] at hc
        rw [Mode.step, if_pos hc, h, Option.map_some]
      rw [lexemes_cons hstep, lexemes_cons (rfl : Mode.between.step c = some (stepBetween c)),
        List.reverse_cons, List.append_assoc]
      rfl

theorem lexesAtEnd_word {v : Json} (hword : word? cs = some v) (hne : cs ≠ [])
    (hplain : ∀ c ∈ cs, endsWord c = false) : LexesAtEnd cs [.scalar v] := by
  intro found rest hrest
  obtain ⟨c, cs, rfl⟩ := List.exists_cons_of_ne_nil hne
  obtain ⟨hc, hcs⟩ := List.forall_mem_cons.mp hplain
  have hstep : Mode.between.step c = some (.word [c], []) := by
    simp only [endsWord, Bool.or_eq_false_iff, beq_eq_false_iff_ne] at hc
    have hnone : punctuation? c = none := by simpa using hc.2
    rw [Mode.step, stepBetween, if_neg (by simp [hc.1.1]), if_neg hc.1.2, hnone]
  rw [List.cons_append, lexemes_cons hstep, List.reverse_nil, List.nil_append, lexemes_word hcs,
    lexemes_endOfWord (v := v) (by simpa using hword) hrest]
  rfl

theorem plain_of_all (h : cs.all (!endsWord ·) = true) : ∀ c ∈ cs, endsWord c = false :=
  fun c hc => (Bool.not_eq_true' _).mp (List.all_eq_true.mp h c hc)

theorem lexesAtEnd_null : LexesAtEnd "null".toList [.scalar .null] :=
  lexesAtEnd_word rfl (by decide) (plain_of_all rfl)

theorem lexesAtEnd_true : LexesAtEnd "true".toList [.scalar (.bool true)] :=
  lexesAtEnd_word rfl (by decide) (plain_of_all rfl)

theorem lexesAtEnd_false : LexesAtEnd "false".toList [.scalar (.bool false)] :=
  lexesAtEnd_word rfl (by decide) (plain_of_all rfl)

theorem endsWord_of_isDigit (h : Decimal.isDigit c = true) : endsWord c = false :=
  Decimal.of_isDigit (P := fun c => endsWord c = false) (by decide) h

/-- Only digits and the signs of numbers are in a whole number. -/
theorem plain_of_integer? {n : Int} (h : Decimal.integer? cs = some n) :
    ∀ c ∈ cs, endsWord c = false := by
  have hnatural {ds : List Char} {k : Int}
      (hds : ((Decimal.natural? ds).bind fun k => some (k : Int)) = some k) :
      ∀ c ∈ ds, endsWord c = false := by
    obtain ⟨k, hds, -⟩ := Option.bind_eq_some_iff.mp hds
    rw [Decimal.natural?] at hds
    split at hds
    case isTrue => cases hds
    case isFalse hall =>
      intro c hc
      simp only [Bool.or_eq_true, Bool.not_eq_true', not_or, Bool.not_eq_false] at hall
      exact endsWord_of_isDigit (List.all_eq_true.mp hall.2 c hc)
  unfold Decimal.integer? at h
  split at h
  case h_1 =>
    obtain ⟨k, hk, -⟩ := Option.map_eq_some_iff.mp h
    exact List.forall_mem_cons.mpr ⟨rfl, hnatural hk⟩
  case h_2 =>
    obtain ⟨k, hk, -⟩ := Option.map_eq_some_iff.mp h
    exact List.forall_mem_cons.mpr ⟨rfl, hnatural hk⟩
  case h_3 =>
    obtain ⟨k, hk, -⟩ := Option.map_eq_some_iff.mp h
    exact hnatural hk

theorem plain_of_exponentPart? {n : Int} (h : exponentPart? cs = some n) :
    ∀ c ∈ cs, endsWord c = false := by
  cases cs with
  | nil => cases h
  | cons c cs =>
      obtain ⟨hsign, h⟩ := Option.ite_none_right_eq_some.mp h
      refine List.forall_mem_cons.mpr ⟨?_, plain_of_integer? h⟩
      obtain rfl | rfl := hsign <;> rfl

/-- A run of digits and what stands behind it. -/
theorem plain_of_dropWhile (h : ∀ c ∈ cs.dropWhile Decimal.isDigit, endsWord c = false) :
    ∀ c ∈ cs, endsWord c = false := by
  intro c hc
  rw [← List.takeWhile_append_dropWhile (p := Decimal.isDigit) (l := cs)] at hc
  obtain hc | hc := List.mem_append.mp hc
  · exact endsWord_of_isDigit (List.all_eq_true.mp List.all_takeWhile c hc)
  · exact h c hc

theorem plain_of_unsignedNumber? {negative : Bool} {n : JsonNumber}
    (h : unsignedNumber? negative cs = some n) : ∀ c ∈ cs, endsWord c = false := by
  refine plain_of_dropWhile ?_
  simp only [unsignedNumber?] at h
  obtain ⟨-, h⟩ := Option.ite_none_left_eq_some.mp h
  split at h
  case h_1 hdrop =>
    rw [hdrop]
    exact nofun
  case h_2 fraction hdrop =>
    rw [hdrop]
    refine List.forall_mem_cons.mpr ⟨rfl, plain_of_dropWhile ?_⟩
    obtain ⟨-, h⟩ := Option.ite_none_left_eq_some.mp h
    split at h
    case h_1 hend =>
      rw [hend]
      exact nofun
    case h_2 =>
      obtain ⟨e, he, -⟩ := Option.bind_eq_some_iff.mp h
      exact plain_of_exponentPart? he
  case h_3 =>
    obtain ⟨e, he, -⟩ := Option.bind_eq_some_iff.mp h
    exact plain_of_exponentPart? he

/-- Nothing that a word ends in front of is in a number. -/
theorem plain_of_number? {n : JsonNumber} (h : number? cs = some n) :
    ∀ c ∈ cs, endsWord c = false := by
  unfold number? at h
  split at h
  case h_1 => exact List.forall_mem_cons.mpr ⟨rfl, plain_of_unsignedNumber? h⟩
  case h_2 => exact plain_of_unsignedNumber? h

theorem word?_of_number? {n : JsonNumber} (h : number? cs = some n) :
    word? cs = some (.number n) := by
  have hnull : number? ['n', 'u', 'l', 'l'] = none := by decide
  have htrue : number? ['t', 'r', 'u', 'e'] = none := by decide
  have hfalse : number? ['f', 'a', 'l', 's', 'e'] = none := by decide
  rw [word?, if_neg, if_neg, if_neg, h, Option.map_some]
  · rintro rfl
    exact nomatch hfalse.symm.trans h
  · rintro rfl
    exact nomatch htrue.symm.trans h
  · rintro rfl
    exact nomatch hnull.symm.trans h

theorem lexesAtEnd_number {n : JsonNumber} (h : number? cs = some n) :
    LexesAtEnd cs [.scalar (.number n)] := by
  refine lexesAtEnd_word (word?_of_number? h) ?_ (plain_of_number? h)
  rintro rfl
  cases h

end Cohort.Json
