import Cohort.Rule.Grammar
import Cohort.Proofs.Text.Blank

/-! # Rules from tokens

    A list of tokens becomes a rule when their words are written one behind
    the other, a blank in front of each.  The blank stands in front because
    blanks are skipped before a token is read, so that what is behind a word
    is either the next blank or the end. -/

namespace Cohort.Rule

/-! ## Words -/

/-- The word of a token, for tokens that are signs or names. -/
def Token.word : Token → List Char
  | .name s => s.toList
  | .op o => o.sign.toList
  | .openParen => ['(']
  | .closeParen => [')']
  | .openBracket => ['[']
  | .closeBracket => [']']
  | .dot => ['.']
  | .comma => [',']
  | .question => ['?']
  | .colon => [':']
  | .int _ | .float _ | .text _ => []

/-- Nothing or a blank is next. -/
def Parted (cs : List Char) : Prop :=
  cs = [] ∨ ∃ rest, cs = ' ' :: rest

/-- The word of the token is visible, and wherever a blank follows it is read as
    the token. -/
structure Spelled (t : Token) : Prop where
  ne_nil : t.word ≠ []
  visible : ∀ c ∈ t.word, Text.isBlank c = false
  readAll : ∀ rest, Parted rest →
    Token.readAll (t.word ++ rest) = (Token.readAll rest).map (t :: ·)

/-- Blanks are passed over. -/
theorem readAll_blanks {gap : List Char} (hgap : Text.Blank gap) (cs : List Char) :
    Token.readAll (gap ++ cs) = Token.readAll cs := by
  induction gap with
  | nil => rfl
  | cons c gap ih =>
      rw [List.cons_append, Token.readAll, if_pos (hgap c List.mem_cons_self)]
      exact ih fun x hx => hgap x (List.mem_cons_of_mem _ hx)

theorem readAll_blank (cs : List Char) : Token.readAll (' ' :: cs) = Token.readAll cs :=
  readAll_blanks (by decide : Text.Blank [' ']) cs

/-- A token that is read at the front is the first of all tokens. -/
theorem readAll_of_read {c : Char} {cs rest : List Char} {t : Token}
    (hblank : Text.isBlank c = false) (h : Token.read c cs = .ok (t, rest)) :
    Token.readAll (c :: cs) = (Token.readAll rest).map (t :: ·) := by
  rw [Token.readAll, hblank, if_neg Bool.false_ne_true]
  split
  · next err herr => cases h.symm.trans herr
  · next t' rest' hread =>
      cases h.symm.trans hread
      rfl

/-! ## Texts -/

/-- The words of the tokens, with a blank in front of each. -/
def spellings (ts : List Token) : List Char :=
  ts.flatMap fun t => ' ' :: t.word

theorem parted_spellings (ts : List Token) : Parted (spellings ts) := by
  cases ts with
  | nil => exact Or.inl rfl
  | cons t ts => exact Or.inr ⟨t.word ++ spellings ts, rfl⟩

theorem readAll_spellings {ts : List Token} (hts : ∀ t ∈ ts, Spelled t) :
    Token.readAll (spellings ts) = .ok ts := by
  induction ts with
  | nil => rw [spellings, List.flatMap_nil, Token.readAll]
  | cons t ts ih =>
      have hspelled := hts t List.mem_cons_self
      have hrest := ih fun t' ht' => hts t' (List.mem_cons_of_mem t ht')
      show Token.readAll (' ' :: (t.word ++ spellings ts)) = _
      rw [readAll_blank, hspelled.readAll _ (parted_spellings ts), hrest]
      rfl

/-- The last character of a text of words is none of its blanks. -/
theorem getLast?_spellings {ts : List Token} (hts : ∀ t ∈ ts, Spelled t) {c : Char}
    (hc : (spellings ts).getLast? = some c) : Text.isBlank c = false := by
  induction ts with
  | nil => exact nomatch hc
  | cons t ts ih =>
      have hspelled := hts t List.mem_cons_self
      have hcons : spellings (t :: ts) = (' ' :: t.word) ++ spellings ts := rfl
      rw [hcons, List.getLast?_append] at hc
      rcases Option.or_eq_some_iff.mp hc with hlast | ⟨-, hlast⟩
      · exact ih (fun t' ht' => hts t' (List.mem_cons_of_mem t ht')) hlast
      · rw [List.getLast?_cons_of_ne_nil hspelled.ne_nil] at hlast
        exact hspelled.visible c (List.mem_of_getLast? hlast)

/-! ## Delimiters -/

/-- The rule with the given characters between its delimiters. -/
def delimited (cs : List Char) : String :=
  String.ofList ('$' :: '\x7b' :: (cs ++ ['\x7d']))

/-- The delimiters are visible. -/
theorem visible_delimited (cs : List Char) :
    Text.Visible ('$' :: '\x7b' :: (cs ++ ['\x7d'])) where
  head c hc := by
    obtain rfl := Option.some.inj hc
    decide
  last c hc := by
    rw [← List.cons_append, ← List.cons_append, List.getLast?_concat] at hc
    obtain rfl := Option.some.inj hc
    decide

theorem body?_delimited (cs : List Char) :
    body? (delimited cs) = some (String.ofList (Text.trimChars cs)) := by
  have htrim := (visible_delimited cs).trimChars_eq_self
  have hend : Text.stripEnd? ['\x7d'] (cs ++ ['\x7d']) = some cs := by
    rw [Text.stripEnd?, List.reverse_append]
    show some cs.reverse.reverse = some cs
    rw [List.reverse_reverse]
  rw [body?, delimited, String.toList_ofList, htrim]
  show ((some (cs ++ ['\x7d'])).bind (Text.stripEnd? ['\x7d'])).map _ = _
  rw [Option.bind_some, hend]
  rfl

/-- What a rule with something between its delimiters is read as. -/
theorem ofRule_of_body? {rule : String} {cs : List Char} {ts : List Token}
    (hbody : body? rule = some (String.ofList cs)) (hne : cs ≠ [])
    (hread : Token.readAll cs = .ok ts) : Expr.ofRule rule = Expr.ofTokens ts := by
  have hsome : (String.ofList cs).isEmpty = false := by
    rw [String.isEmpty_eq_false_iff]
    intro h
    have hlist := congrArg String.toList h
    rw [String.toList_ofList] at hlist
    exact hne hlist
  rw [Expr.ofRule, hbody]
  dsimp only
  rw [hsome, if_neg Bool.false_ne_true, String.toList_ofList, hread]
  rfl

/-- The rule of a list of tokens. -/
def ruleOf (ts : List Token) : String :=
  delimited (spellings ts)

/-- **A RULE FOR THE TOKENS**: spelled tokens are read from the rule they make. -/
theorem ofRule_ruleOf {ts : List Token} (hne : ts ≠ []) (hts : ∀ t ∈ ts, Spelled t) :
    Expr.ofRule (ruleOf ts) = Expr.ofTokens ts := by
  obtain ⟨t, ts', rfl⟩ := List.exists_cons_of_ne_nil hne
  have hspelled := hts t List.mem_cons_self
  obtain ⟨c, cs, hword⟩ := List.exists_cons_of_ne_nil hspelled.ne_nil
  have hspellings : spellings (t :: ts') = ' ' :: c :: (cs ++ spellings ts') := by
    show ' ' :: (t.word ++ spellings ts') = _
    rw [hword, List.cons_append]
  -- only the blank in front of the first word is trimmed
  have htrim : Text.trimChars (spellings (t :: ts')) = c :: (cs ++ spellings ts') := by
    have hself : Text.trimChars (c :: (cs ++ spellings ts')) = c :: (cs ++ spellings ts') := by
      refine Text.Visible.trimChars_eq_self ⟨?_, ?_⟩
      · intro x hx
        cases hx
        exact hspelled.visible c (hword ▸ List.mem_cons_self)
      · intro x hx
        refine getLast?_spellings hts ?_
        rw [hspellings, List.getLast?_cons_of_ne_nil (List.cons_ne_nil _ _), hx]
    rw [hspellings]
    exact hself
  have hread : Token.readAll (c :: (cs ++ spellings ts')) = .ok (t :: ts') := by
    rw [← readAll_blank, ← hspellings, readAll_spellings hts]
  refine ofRule_of_body? ?_ (List.cons_ne_nil _ _) hread
  rw [ruleOf, body?_delimited, htrim]

end Cohort.Rule
