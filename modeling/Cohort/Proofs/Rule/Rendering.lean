import Mathlib.Algebra.Group.Int.Defs
import Mathlib.Algebra.Group.Nat.Defs
import Cohort.Proofs.Decimal.Digits
import Cohort.Proofs.Rule.Spelling
import Cohort.Proofs.Text.Blank

/-! # Reading undoes writing

    Whoever writes a rule by a program writes tokens, and wants them back: each
    in its own text, blanks between them.  A token is read from its text
    wherever the text ends in a blank or with the rule, because no token reads
    on into a blank and no sign is mistaken for the half of a longer one.  So a
    text of tokens is read as just these tokens, and any string can be said. -/

namespace Cohort.Rule

open Text (Blank Visible isBlank_eq_false_of visible_of_forall)

/-! ## The texts of tokens -/

/-- The words that stand for an operator. -/
def Operator.words : Operator → List String
  | .equal => ["eq"]
  | .notEqual => ["ne"]
  | .lessEqual => ["le"]
  | .greaterEqual => ["ge"]
  | .both => ["and"]
  | .either => ["or"]
  | .less => ["lt"]
  | .greater => ["gt"]
  | .not => ["not"]
  | .divide => ["div"]
  | .modulo => ["mod"]
  | .empty => ["empty"]
  | .plus | .minus | .times => []

/-- The marks between operands. -/
def marks : List Token :=
  [.openParen, .closeParen, .openBracket, .closeBracket, .dot, .comma, .question, .colon]

/-- A letter or its like, and then letters, numbers or their like. -/
def isWord : List Char → Bool
  | [] => false
  | c :: cs => Token.startsWord c && cs.all Token.continuesWord

/-- The characters of a string literal: the quote and the backslash have a backslash in
    front. -/
def escaped (quote : Char) (cs : List Char) : List Char :=
  cs.flatMap fun c => if c = quote ∨ c = '\\' then ['\\', c] else [c]

/-- The literal of a string. -/
def literal (quote : Char) (s : String) : List Char :=
  quote :: (escaped quote s.toList ++ [quote])

/-- The texts of a token. -/
inductive Token.Writing : Token → List Char → Prop where
  | int {n : Int64} (h : 0 ≤ n.toInt) : Writing (.int n) (toString n.toInt).toList
  | text {quote : Char} (hquote : quote = '\'' ∨ quote = '"') (s : String) :
      Writing (.text s) (literal quote s)
  | name {s : String} (h : isWord s.toList = true) (hname : ∀ o : Operator, s ∉ o.words) :
      Writing (.name s) s.toList
  | mark {t : Token} (h : t ∈ marks) : Writing t t.word
  | sign {o : Operator} (h : o ≠ .empty) : Writing (.op o) o.sign.toList
  | word {o : Operator} {w : String} (h : w ∈ o.words) : Writing (.op o) w.toList

/-- The texts of tokens, with blanks between them. -/
inductive Written : List Token → List Char → Prop where
  | nil : Written [] []
  | one {t : Token} {w : List Char} (h : t.Writing w) : Written [t] w
  | more {t : Token} {w gap : List Char} {ts : List Token} {cs : List Char}
      (h : t.Writing w) (hgap : Blank gap) (hsome : gap ≠ []) (hts : ts ≠ [])
      (hrest : Written ts cs) : Written (t :: ts) (w ++ (gap ++ cs))

/-! ## What follows a token -/

/-- A blank follows, or nothing does. -/
def Parts (rest : List Char) : Prop :=
  ∀ c, rest.head? = some c → Text.isBlank c = true

theorem parts_of_blank {gap : List Char} (h : Blank gap) : Parts gap :=
  fun _ hc => h _ (List.mem_of_head? hc)

theorem parts_append {gap : List Char} (h : Blank gap) (hsome : gap ≠ []) (cs : List Char) :
    Parts (gap ++ cs) := by
  obtain ⟨c, gap', rfl⟩ := List.exists_cons_of_ne_nil hsome
  rintro x hx
  obtain rfl : c = x := Option.some.inj hx
  exact h c List.mem_cons_self

/-- Where no blank is in a class of characters, the class ends with the token. -/
theorem span_parts {p : Char → Bool} (hp : ∀ c, Text.isBlank c = true → p c = false)
    {cs rest : List Char} (hcs : ∀ c ∈ cs, p c = true) (hrest : Parts rest) :
    (cs ++ rest).takeWhile p = cs ∧ (cs ++ rest).dropWhile p = rest := by
  have hstop : ∀ c, rest.head? = some c → p c = false := fun c hc => hp c (hrest c hc)
  have htake : rest.takeWhile p = [] := by
    cases rest with
    | nil => rfl
    | cons c rest => rw [List.takeWhile_cons, hstop c rfl, if_neg Bool.false_ne_true]
  constructor
  · rw [List.takeWhile_append_of_pos hcs, htake, List.append_nil]
  · rw [List.dropWhile_append_of_pos hcs, Text.dropWhile_of_head? hstop]

theorem isDigit_of_isBlank {c : Char} (h : Text.isBlank c = true) :
    Decimal.isDigit c = false :=
  Text.of_isBlank (P := fun c => Decimal.isDigit c = false) (by decide) h

theorem continuesWord_of_isBlank {c : Char} (h : Text.isBlank c = true) :
    Token.continuesWord c = false := by
  have hlike : (c == '_') = false ∧ (c == '$') = false :=
    Text.of_isBlank (P := fun c => (c == '_') = false ∧ (c == '$') = false) (by decide) h
  rw [Token.continuesWord, Text.isAlphanumeric_of_isBlank h, hlike.1, hlike.2]
  rfl

/-- No blank is a part of a sign. -/
theorem not_sign_of_isBlank {c : Char} (h : Text.isBlank c = true) :
    c ≠ '=' ∧ c ≠ '&' ∧ c ≠ '|' ∧ c ≠ '>' ∧ c ≠ '.' :=
  Text.of_isBlank (P := fun c => c ≠ '=' ∧ c ≠ '&' ∧ c ≠ '|' ∧ c ≠ '>' ∧ c ≠ '.')
    (by decide) h

/-! ## Single tokens -/

/-- The text is visible at its ends, and where it ends it is read as the token. -/
structure Token.ReadFrom (t : Token) (w : List Char) : Prop where
  ne_nil : w ≠ []
  visible : Visible w
  readAll : ∀ rest, Parts rest → Token.readAll (w ++ rest) = (Token.readAll rest).map (t :: ·)

theorem readFrom_of_read {t : Token} {c : Char} {cs : List Char} (hvisible : Visible (c :: cs))
    (hread : ∀ rest, Parts rest → Token.read c (cs ++ rest) = .ok (t, rest)) :
    t.ReadFrom (c :: cs) where
  ne_nil := List.cons_ne_nil c cs
  visible := hvisible
  readAll rest hrest := readAll_of_read (hvisible.head c rfl) (hread rest hrest)

/-! ### Numbers -/

theorem readFrom_int {n : Int64} (h : 0 ≤ n.toInt) :
    (Token.int n).ReadFrom (toString n.toInt).toList := by
  obtain ⟨k, hk⟩ := Int.eq_ofNat_of_zero_le h
  have htext : (toString n.toInt).toList = Nat.toDigits 10 k := by
    rw [Decimal.toList_toString_of_nonneg h, hk, Int.toNat_natCast]
  have hdigits : ∀ c ∈ Nat.toDigits 10 k, Decimal.isDigit c = true :=
    fun c hc => Decimal.isDigit_of_mem_toDigits hc
  have hfit : Decimal.fit64? (Decimal.natural (Nat.toDigits 10 k)) = some n := by
    rw [Decimal.natural_toDigits, ← hk, Decimal.fit64?_toInt]
  obtain ⟨c, cs, hcons⟩ := List.exists_cons_of_ne_nil (Nat.toDigits_ne_nil (n := k) (b := 10))
  rw [htext]
  rw [hcons] at hdigits hfit ⊢
  refine readFrom_of_read (visible_of_forall fun x hx => ?_) fun rest hrest => ?_
  · exact isBlank_eq_false_of isDigit_of_isBlank (hdigits x hx)
  · obtain ⟨htake, hdrop⟩ := span_parts (fun _ => isDigit_of_isBlank) hdigits hrest
    have hpoint : ¬ (rest.head? = some '.' ∧
        (rest.drop 1).takeWhile Decimal.isDigit ≠ []) := by
      rintro ⟨hhead, -⟩
      exact (not_sign_of_isBlank (hrest '.' hhead)).2.2.2.2 rfl
    rw [Token.read, if_pos (hdigits c List.mem_cons_self), ← List.cons_append, Token.readNumber]
    simp only [htake, hdrop]
    rw [if_neg hpoint, hfit]

/-! ### Strings -/

/-- The characters of a literal are read up to the closing quote, whatever follows. -/
theorem stringBody?_escaped {quote : Char} (hquote : quote ≠ '\\') (cs rest : List Char) :
    Token.stringBody? quote (escaped quote cs ++ quote :: rest) = some (cs, rest) := by
  induction cs with
  | nil =>
      show Token.stringBody? quote (quote :: rest) = _
      rw [Token.stringBody?, if_pos rfl]
      · exact fun h _ => hquote h
      · exact fun _ _ h _ => hquote h
  | cons c cs ih =>
      rw [escaped, List.flatMap_cons, List.append_assoc]
      show Token.stringBody? quote (_ ++ (escaped quote cs ++ quote :: rest)) = _
      by_cases hspecial : c = quote ∨ c = '\\'
      · rw [if_pos hspecial]
        show Token.stringBody? quote ('\\' :: c :: (escaped quote cs ++ quote :: rest)) = _
        rw [Token.stringBody?, ih]
        rfl
      · rw [if_neg hspecial]
        obtain ⟨hc, hbackslash⟩ := not_or.mp hspecial
        show Token.stringBody? quote (c :: (escaped quote cs ++ quote :: rest)) = _
        rw [Token.stringBody?, if_neg hc, ih]
        · rfl
        · exact fun h _ => hbackslash h
        · exact fun _ _ h _ => hbackslash h

theorem readFrom_literal {quote : Char} (hquote : quote = '\'' ∨ quote = '"') (s : String) :
    (Token.text s).ReadFrom (literal quote s) := by
  have hclass : quote ≠ '\\' ∧ Text.isBlank quote = false ∧ Decimal.isDigit quote = false := by
    obtain rfl | rfl := hquote
    · decide
    · decide
  obtain ⟨hbackslash, hblank, hdigit⟩ := hclass
  refine readFrom_of_read ⟨?_, ?_⟩ fun rest _ => ?_
  · intro c hc
    obtain rfl : quote = c := Option.some.inj hc
    exact hblank
  · intro c hc
    rw [← List.cons_append, List.getLast?_concat] at hc
    obtain rfl : quote = c := Option.some.inj hc
    exact hblank
  · rw [Token.read, hdigit, if_neg Bool.false_ne_true, if_pos hquote, List.append_assoc,
      List.singleton_append, stringBody?_escaped hbackslash]
    show Except.ok (Token.text (String.ofList s.toList), rest) = _
    rw [String.ofList_toList]

/-! ### Words -/

theorem isDigit_of_startsWord {c : Char} (h : Token.startsWord c = true) :
    Decimal.isDigit c = false := by
  cases hdigit : Decimal.isDigit c with
  | false => rfl
  | true =>
      have hno := Decimal.of_isDigit (P := fun c => Token.startsWord c = false) (by decide) hdigit
      exact nomatch h.symm.trans hno

/-- A character that starts a word continues one, too. -/
theorem continuesWord_of_startsWord {c : Char} (h : Token.startsWord c = true) :
    Token.continuesWord c = true := by
  rw [Token.startsWord, Bool.or_eq_true, Bool.or_eq_true] at h
  rw [Token.continuesWord, Text.isAlphanumeric, Bool.or_eq_true, Bool.or_eq_true, Bool.or_eq_true]
  obtain (h | h) | h := h
  · exact Or.inl (Or.inl (Or.inl h))
  · exact Or.inl (Or.inr h)
  · exact Or.inr h

theorem isBlank_of_isWord {cs : List Char} (h : isWord cs = true) :
    ∀ c ∈ cs, Text.isBlank c = false := by
  cases cs with
  | nil => exact nomatch h
  | cons c cs =>
      obtain ⟨hstart, hcs⟩ := Bool.and_eq_true_iff.mp h
      intro x hx
      refine isBlank_eq_false_of continuesWord_of_isBlank ?_
      obtain rfl | hx := List.mem_cons.mp hx
      · exact continuesWord_of_startsWord hstart
      · exact List.all_eq_true.mp hcs x hx

theorem readFrom_word {s : String} (h : isWord s.toList = true) :
    (Token.ofWord s).ReadFrom s.toList := by
  cases hchars : s.toList with
  | nil =>
      rw [hchars] at h
      exact nomatch h
  | cons c cs =>
      rw [hchars] at h
      obtain ⟨hstart, hcs⟩ := Bool.and_eq_true_iff.mp h
      have hall : ∀ x ∈ cs, Token.continuesWord x = true := List.all_eq_true.mp hcs
      have hquotes : c ≠ '\'' ∧ c ≠ '"' := by
        constructor
        · rintro rfl
          exact absurd hstart (by decide)
        · rintro rfl
          exact absurd hstart (by decide)
      refine readFrom_of_read (visible_of_forall (isBlank_of_isWord h)) fun rest hrest => ?_
      obtain ⟨htake, hdrop⟩ := span_parts (fun _ => continuesWord_of_isBlank) hall hrest
      rw [Token.read, isDigit_of_startsWord hstart, if_neg Bool.false_ne_true,
        if_neg (not_or.mpr hquotes), if_pos hstart, htake, hdrop, ← hchars, String.ofList_toList]

/-- The words of operators are words, and the operators are known by them. -/
theorem keyword?_of_mem {o : Operator} {w : String} (h : w ∈ o.words) :
    isWord w.toList = true ∧ keyword? w = some o := by
  have hall : ∀ w ∈ o.words, isWord w.toList = true ∧ keyword? w = some o := by
    cases o <;> decide
  exact hall w h

theorem eq_or_of_ite_eq_some {w word : String} {found o : Operator} {others : Option Operator}
    (h : (if w = word then some found else others) = some o) :
    w = word ∧ found = o ∨ others = some o := by
  by_cases hw : w = word
  · rw [if_pos hw] at h
    exact Or.inl ⟨hw, Option.some.inj h⟩
  · rw [if_neg hw] at h
    exact Or.inr h

theorem mem_words_of_keyword? {o : Operator} {w : String} (h : keyword? w = some o) :
    w ∈ o.words := by
  rw [keyword?] at h
  -- the words are compared one after the other
  iterate 12
    obtain ⟨rfl, rfl⟩ | h := eq_or_of_ite_eq_some h
    · decide
  exact nomatch h

/-! ### Signs -/

/-- A sign of one character is read wherever no second character of a sign follows. -/
theorem readSign_parts {c : Char} {t : Token} (h : Token.readSign c [] = .ok (t, []))
    {rest : List Char} (hrest : Parts rest) : Token.readSign c rest = .ok (t, rest) := by
  cases rest with
  | nil => exact h
  | cons d rest =>
      obtain ⟨hequal, hand, hor, hgreater, -⟩ := not_sign_of_isBlank (hrest d rfl)
      unfold Token.readSign at h ⊢
      split
      -- by `h` the sign is one of one character; the others go on with a character that `d` is not
      all_goals first
        | (cases h; done)
        | (cases h; rfl)
        | (rename_i heq; exact absurd (List.cons.inj heq).1 ‹_›)
        | skip
      split at h
      all_goals first
        | (cases h; done)
        | contradiction

/-- A visible sign is read as it is written. -/
theorem readFrom_sign {t : Token} {c : Char} {cs : List Char}
    (hvisible : (c :: cs).any Text.isBlank = false)
    (hclass : (Decimal.isDigit c || Token.startsWord c || c == '\'' || c == '"') = false)
    (hread : ∀ rest, Parts rest → Token.readSign c (cs ++ rest) = .ok (t, rest)) :
    t.ReadFrom (c :: cs) := by
  refine readFrom_of_read (visible_of_forall fun x hx => ?_) fun rest hrest => ?_
  · exact Bool.eq_false_iff.mpr (List.any_eq_false.mp hvisible x hx)
  · simp only [Bool.or_eq_false_iff, beq_eq_false_iff_ne] at hclass
    obtain ⟨⟨⟨hdigit, hword⟩, hsingle⟩, hdouble⟩ := hclass
    rw [Token.read, hdigit, if_neg Bool.false_ne_true, if_neg (not_or.mpr ⟨hsingle, hdouble⟩),
      hword, if_neg Bool.false_ne_true]
    exact hread rest hrest

theorem readFrom_operator {o : Operator} (h : o ≠ .empty) :
    (Token.op o).ReadFrom o.sign.toList := by
  cases o with
  | equal => exact readFrom_sign (by decide) (by decide) fun _ _ => rfl
  | notEqual => exact readFrom_sign (by decide) (by decide) fun _ _ => rfl
  | lessEqual => exact readFrom_sign (by decide) (by decide) fun _ _ => rfl
  | greaterEqual => exact readFrom_sign (by decide) (by decide) fun _ _ => rfl
  | both => exact readFrom_sign (by decide) (by decide) fun _ _ => rfl
  | either => exact readFrom_sign (by decide) (by decide) fun _ _ => rfl
  | empty => exact absurd rfl h
  | _ => exact readFrom_sign (by decide) (by decide) fun _ hrest => readSign_parts rfl hrest

theorem readFrom_mark {t : Token} (h : t ∈ marks) : t.ReadFrom t.word := by
  cases t with
  | int _ | float _ | text _ | name _ | op _ => simp [marks] at h
  | _ => exact readFrom_sign (by decide) (by decide) fun _ hrest => readSign_parts rfl hrest

/-- **ONE TOKEN** is read from each of its texts. -/
theorem readFrom_of_writing {t : Token} {w : List Char} (h : t.Writing w) : t.ReadFrom w := by
  cases h with
  | int h => exact readFrom_int h
  | text hquote s => exact readFrom_literal hquote s
  | @name s h hname =>
      have hnone : keyword? s = none := by
        cases hword : keyword? s with
        | none => rfl
        | some o => exact absurd (mem_words_of_keyword? hword) (hname o)
      have htoken : Token.ofWord s = .name s := by rw [Token.ofWord, hnone]
      exact htoken ▸ readFrom_word h
  | mark h => exact readFrom_mark h
  | sign h => exact readFrom_operator h
  | @word o w h =>
      obtain ⟨hword, hkeyword⟩ := keyword?_of_mem h
      have htoken : Token.ofWord w = .op o := by rw [Token.ofWord, hkeyword]
      exact htoken ▸ readFrom_word hword

/-- A token whose word is read in general is read where words are written one behind the
    other. -/
theorem Token.Writing.spelled {t : Token} (h : t.Writing t.word)
    (hvisible : t.word.any Text.isBlank = false) : Spelled t where
  ne_nil := (readFrom_of_writing h).ne_nil
  visible c hc := Bool.eq_false_iff.mpr (List.any_eq_false.mp hvisible c hc)
  readAll rest hrest := by
    refine (readFrom_of_writing h).readAll rest ?_
    rintro c hc
    obtain rfl | ⟨rest, rfl⟩ := hrest
    · exact nomatch hc
    · obtain rfl := Option.some.inj hc
      decide

theorem spelled_name {s : String} (h : isWord s.toList = true) (hname : keyword? s = none) :
    Spelled (.name s) := by
  have hwriting : (Token.name s).Writing s.toList := by
    refine .name h fun o ho => ?_
    rw [(keyword?_of_mem ho).2] at hname
    exact nomatch hname
  refine hwriting.spelled (List.any_eq_false.mpr fun c hc => ?_)
  exact Bool.eq_false_iff.mp (isBlank_of_isWord h c hc)

theorem spelled_mark {t : Token} (h : t ∈ marks) : Spelled t := by
  have hvisible : ∀ t ∈ marks, t.word.any Text.isBlank = false := by decide
  exact (Token.Writing.mark h).spelled (hvisible t h)

/-! ## Many tokens -/

theorem Written.ne_nil {ts : List Token} {cs : List Char} (h : Written ts cs) (hts : ts ≠ []) :
    cs ≠ [] := by
  cases h with
  | nil => exact absurd rfl hts
  | one h => exact (readFrom_of_writing h).ne_nil
  | more h =>
      intro hempty
      exact (readFrom_of_writing h).ne_nil (List.append_eq_nil_iff.mp hempty).1

/-- A text of tokens is visible at its ends, where tokens stand. -/
theorem Written.visible {ts : List Token} {cs : List Char} (h : Written ts cs) :
    Visible cs := by
  induction h with
  | nil => exact ⟨nofun, nofun⟩
  | one h => exact (readFrom_of_writing h).visible
  | @more t w gap ts cs h hgap hsome hts hrest ih =>
      have hread := readFrom_of_writing h
      exact hread.visible.append hread.ne_nil ih (hrest.ne_nil hts) gap

/-- The tokens of a text are read one by one, up to blanks at its end.  The induction is on
    how the text was written; what follows each token is a gap or the end. -/
theorem Written.readAll {ts : List Token} {cs trail : List Char} (h : Written ts cs)
    (htrail : Blank trail) : Token.readAll (cs ++ trail) = .ok ts := by
  induction h with
  | nil =>
      rw [List.nil_append, ← List.append_nil trail, readAll_blanks htrail, Token.readAll]
  | one h =>
      rw [(readFrom_of_writing h).readAll trail (parts_of_blank htrail), ← List.append_nil trail,
        readAll_blanks htrail, Token.readAll]
      rfl
  | @more t w gap ts cs h hgap hsome hts hrest ih =>
      have hparts := parts_append hgap hsome (cs ++ trail)
      rw [List.append_assoc, List.append_assoc, (readFrom_of_writing h).readAll _ hparts,
        readAll_blanks hgap, ih]
      rfl

/-! ## Rules -/

/-- The rule of a text: delimiters, and blanks around them. -/
def wrapped (before cs after : List Char) : String :=
  String.ofList (before ++ '$' :: '\x7b' :: (cs ++ ['\x7d']) ++ after)

/-- Between delimiters, whatever stands around them, the text is found again. -/
theorem body?_wrapped {before after : List Char} (hbefore : Blank before) (hafter : Blank after)
    (cs : List Char) :
    body? (wrapped before cs after) = some (String.ofList (Text.trimChars cs)) := by
  have htrim : Text.trimChars (wrapped before cs after).toList
      = Text.trimChars (delimited cs).toList := by
    rw [wrapped, delimited, String.toList_ofList, String.toList_ofList,
      Text.trimChars_around hbefore hafter (visible_delimited cs)]
    exact (visible_delimited cs).trimChars_eq_self.symm
  rw [← body?_delimited, body?, body?, htrim]

/-- A rule of one literal is the string, whatever its characters. -/
theorem parse_literal {quote : Char} (hquote : quote = '\'' ∨ quote = '"') (s : String) :
    parse (delimited (literal quote s)) = .ok (.literal (.string s)) := by
  have hwritten : Written [.text s] (literal quote s) := .one (.text hquote s)
  have hbody : body? (delimited (literal quote s)) = some (String.ofList (literal quote s)) := by
    rw [body?_delimited, hwritten.visible.trimChars_eq_self]
  have hread : Token.readAll (literal quote s) = .ok [.text s] := by
    rw [← List.append_nil (literal quote s)]
    exact hwritten.readAll nofun
  rw [parse, ofRule_of_body? hbody (hwritten.ne_nil nofun) hread]
  rfl

/-- **READING UNDOES WRITING.** Tokens that are written with blanks between them, and with any
    blanks around, are read again as the same tokens; the rule they are wrapped in, with any
    blanks around it, has just their text for its body; and any string is the value of a rule,
    in either quote. -/
theorem tokens_survive_writing :
    (∀ (ts : List Token) (lead cs trail : List Char), Written ts cs → Blank lead → Blank trail →
      Token.readAll (lead ++ cs ++ trail) = .ok ts ∧ Text.trimChars (lead ++ cs ++ trail) = cs ∧
      ∀ before after : List Char, Blank before → Blank after →
        body? (wrapped before (lead ++ cs ++ trail) after) = some (String.ofList cs)) ∧
    ∀ (quote : Char) (s : String), quote = '\'' ∨ quote = '"' →
      parse (delimited (literal quote s)) = .ok (.literal (.string s)) := by
  refine ⟨fun ts lead cs trail h hlead htrail => ?_, fun quote s hquote => parse_literal hquote s⟩
  have htrim : Text.trimChars (lead ++ cs ++ trail) = cs :=
    Text.trimChars_around hlead htrail h.visible
  refine ⟨?_, htrim, fun before after hbefore hafter => ?_⟩
  · rw [List.append_assoc, readAll_blanks hlead, h.readAll htrail]
  · rw [body?_wrapped hbefore hafter, htrim]

/-- Braces, quotes and backslashes in a string, blanks of two scripts between the tokens and
    a word for an operator: all come back. -/
theorem braced_string_survives_writing :
    let s := "\x7b'\\\x7d"
    let ts : List Token := [.text s, .op .both, .int 7]
    let cs := literal '\'' s ++ (['\u3000', '\n'] ++ ("and".toList ++ ([' '] ++
      (toString (7 : Int64).toInt).toList)))
    Written ts cs ∧ Token.readAll ([' '] ++ cs ++ ['\t']) = .ok ts ∧
      body? (wrapped [] ([' '] ++ cs ++ ['\t']) ['\n']) = some (String.ofList cs) ∧
      parse (delimited (literal '"' s)) = .ok (.literal (.string s)) := by
  intro s ts cs
  have hwritten : Written ts cs :=
    .more (.text (Or.inl rfl) s) (by decide) nofun nofun
      (.more (.word List.mem_cons_self) (by decide) nofun nofun (.one (.int (by decide))))
  obtain ⟨htokens, hstrings⟩ := tokens_survive_writing
  obtain ⟨hread, -, hbody⟩ := htokens ts [' '] cs ['\t'] hwritten (by decide) (by decide)
  exact ⟨hwritten, hread, hbody [] ['\n'] nofun (by decide), hstrings '"' s (Or.inr rfl)⟩

end Cohort.Rule
